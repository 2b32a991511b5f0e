import HttpBinding.Source.Grammar.Expression

/-!
Statements.
-/
namespace HttpBinding.Source

open Reader Tokens

def endsInBraces (before after : Tokens) : Bool :=
  seesGroup .brace (before.drop (before.length - after.length - 1))

def isEnded : Tree → Bool
  | .node (.statement ended) _ => ended
  | _ => false

def letStatement (grammar : Grammar) (attributes : List Tree) : Reader Tree := do
  word "let"
  let pattern ← grammar .pattern
  let type ← (do
    if ← optionalMarks ":" then return [← grammar (.type true)]
    else return [])
  let value ← (do
    if !(← optionalMarks "=") then return []
    let before ← ahead
    let value ← grammar (.expression true)
    let after ← ahead
    if !endsInBraces before after && seesWord "else" after then
      word "else"
      return [value, ← plainBlock grammar]
    else return [value])
  marks ";"
  return .node (.statement true) (attributes ++ pattern :: type ++ value)

/-- A macro call in braces is a statement by itself, unless a member of it is asked
for. What is given are the tokens behind its path. -/
def seesStatementCall (tokens : Tokens) : Bool :=
  let third := behindTwo tokens
  sees "!" tokens && seesGroup .brace (behind tokens)
    && !((sees "." third && !sees ".." third) || sees "?" third)

def callStatement (attributes : List Tree) : Reader Tree := do
  let found ← plainPath
  let (_, call) ← macroCall found
  let _ ← optionalMarks ";"
  return .node (.statement true) (attributes ++ [call])

/-- A macro call with a name in front of its arguments defines that name. -/
def seesDefiningCall (tokens : Tokens) : Bool :=
  let second := behind tokens
  sees "!" tokens && (seesName second || seesWord "try" second)

def startsConstItem (tokens : Tokens) : Bool :=
  let second := behind tokens
  let asyncBlock :=
    seesWord "async" second && !seesOneOf ["unsafe", "extern", "fn"] (behindTwo tokens)
  seesWord "const" tokens
    && !(seesGroup .brace second || seesWord "static" second || asyncBlock
      || seesWord "move" second || sees "|" second)

def startsItem (tokens : Tokens) : Bool :=
  let second := behind tokens
  seesOneOf ["pub", "extern", "use", "fn", "mod", "type", "struct", "enum", "trait", "impl",
      "macro"] tokens
    || (seesWord "crate" tokens && !sees "::" second)
    || (seesWord "static" tokens && (seesWord "mut" second || seesName second))
    || startsConstItem tokens
    || (seesWord "unsafe" tokens && !seesGroup .brace second)
    || (seesWord "async" tokens && seesOneOf ["unsafe", "extern", "fn"] second)
    || (seesWord "union" tokens && seesName second)
    || (seesWord "auto" tokens && seesWord "trait" second)
    || (seesWord "default" tokens && seesOneOf ["unsafe", "impl"] second)

def startsUnread : Tree → Bool
  | .node (.expression .unread) _ => true
  | .node (.expression .comparison) (left :: _) => startsUnread left
  | .node (.expression .joined) (left :: _) => startsUnread left
  | _ => false

/-- The attributes of a statement belong to its first operand. -/
def expressionStatement (grammar : Grammar) (attributes : List Tree) : Reader Tree := do
  let value ← grammar .bareExpression
  let closed ← optionalMarks ";"
  let ended := closed || hasShape .block value || hasShape .bracedCall value
  let shown := if startsUnread value then value else withAttributes attributes value
  return .node (.statement ended) [shown]

def statement (grammar : Grammar) : Reader Tree := restarting do
  let attributes ← outerTrees grammar
  let tokens ← ahead
  let behindPath := match plainPath tokens with
    | some path => path.rest
    | none => []
  if seesStatementCall behindPath then return .inl (← callStatement attributes)
  else if seesWord "let" tokens then return .inl (← letStatement grammar attributes)
  else if startsItem tokens || seesDefiningCall behindPath then
    return .inr do return .node (.statement true) [← grammar .item]
  else return .inl (← expressionStatement grammar attributes)

def statementsRule (grammar : Grammar) : Reader Tree :=
  untilDone (fun read => do
    let _ ← many (sees ";") (marks ";")
    if ← atEnd then return .inr (.parts read.reverse)
    let found ← statement grammar
    let read := found :: read
    if ← atEnd then return .inr (.parts read.reverse)
    if isEnded found then return .inl read else failure) []

end HttpBinding.Source
