import HttpBinding.Source.Grammar.Path
import HttpBinding.Source.Literal

/-!
Patterns.
-/
namespace HttpBinding.Source

open Reader Tokens

def plainPattern (children : List Tree) : Tree := .node (.pattern .plain) children

/-- The sign of a range with two or three dots; `true` if it needs an upper bound. -/
def rangeSign (obsolete : Bool) : Reader Bool := do
  let tokens ← ahead
  if sees "..=" tokens then
    marks "..="
    return true
  else if sees "..." tokens then
    if !obsolete then failure
    marks "..."
    return true
  else
    marks ".."
    return false

def endsPatternRange (tokens : Tokens) : Bool :=
  tokens.isEmpty || sees "|" tokens || sees "=" tokens
    || (sees ":" tokens && !sees "::" tokens) || sees "," tokens || sees ";" tokens
    || seesWord "if" tokens

def constantPattern (grammar : Grammar) : Reader Tree := do
  word "const"
  return .node (.pattern .constant) (← blockParts grammar)

/-- The attributes in front of a pattern take the place of its own. What is not looked
into has none. -/
def replaceAttributes (attributes : List Tree) : Tree → Tree
  | .node (.pattern .unread) children => .node (.pattern .unread) children
  | .node (.pattern .constant) children => .parts (attributes ++ children.getLast?.toList)
  | pattern => .parts (attributes ++ [pattern])

def patternBound (grammar : Grammar) : Reader (Option Tree) := do
  let tokens ← ahead
  if endsPatternRange tokens then return none
  else if seesLiteral tokens then
    literal
    return some .nothing
  else if seesPathWord tokens || sees "::" tokens || sees "<" tokens then
    let (qualifier, found) ← qualifiedPath grammar true
    return some (.parts (qualifier.toList ++ [found.toTree]))
  else return some (← constantPattern grammar)

def patternRangeRest (grammar : Grammar) (start : List Tree) : Reader Tree := do
  let closed ← rangeSign true
  match ← patternBound grammar with
  | some bound => return plainPattern (start ++ [bound])
  | none => if closed then failure else return .node (.pattern .openRange) start

def halfOpenPattern (grammar : Grammar) : Reader Tree := do
  let closed ← rangeSign false
  match ← patternBound grammar with
  | some bound => return .node (.pattern .openRange) [bound]
  | none => if closed then failure else return plainPattern []

def literalPattern (grammar : Grammar) : Reader Tree := do
  match ← patternBound grammar with
  | none => failure
  | some start =>
      if ← test (sees "..") then patternRangeRest grammar [start]
      else return start

def isMemberNumber (text : String) : Bool := (Literal.value? text).any (· < Nat.pow 2 32)

def member : Reader (Option String) := do
  if ← test seesName then return some (← name)
  else
    match ← next with
    | .literal .whole text _ => if isMemberNumber text then return none else failure
    | _ => failure

def fieldPattern (grammar : Grammar) : Reader Tree := do
  let boxed ← optionalWord "box"
  let byRef ← optionalWord "ref"
  let mutable ← optionalWord "mut"
  let marked := boxed || byRef || mutable
  let found ← (do
    if marked then return some (← name)
    else member)
  let colon ← test (sees ":")
  if (!marked && colon) || found.isNone then
    marks ":"
    grammar .alternatives
  else return .nothing

def fieldPatterns (grammar : Grammar) : Reader (List Tree) :=
  untilDone (fun read => do
    if ← atEnd then return .inr read.reverse
    let attributes ← outerTrees grammar
    if ← optionalMarks ".." then return .inr (.parts attributes :: read).reverse
    let field ← fieldPattern grammar
    let read := .parts (attributes ++ [field]) :: read
    if ← atEnd then return .inr read.reverse
    marks ","
    return .inl read) []

def pathPattern (grammar : Grammar) : Reader Tree := do
  let (qualifier, found) ← qualifiedPath grammar true
  let start := qualifier.toList ++ [found.toTree]
  let tokens ← ahead
  if qualifier.isNone && sees "!" tokens && !sees "!=" tokens && found.isPlain then
    return plainPattern [(← macroCall found.toTree).2]
  else if seesGroup .brace tokens then
    return plainPattern (start ++ (← within .brace (fieldPatterns grammar)))
  else if seesGroup .parenthesis tokens then
    return plainPattern (start ++ (← within .parenthesis (commaList (grammar .alternatives))))
  else if sees ".." tokens then patternRangeRest grammar start
  else return plainPattern start

def bindingPattern (grammar : Grammar) : Reader Tree := do
  let _ ← optionalWord "ref"
  let _ ← optionalWord "mut"
  if ← test (seesWord "self") then drop 1
  else
    let _ ← name
  if ← optionalMarks "@" then return plainPattern [← grammar .pattern]
  else return plainPattern []

def isOpenRange : Tree → Bool
  | .node (.pattern .openRange) _ => true
  | _ => false

/-- Patterns in brackets, none of which may be an open range. -/
def slicePattern (grammar : Grammar) : Reader Tree := do
  let elements ← within .bracket (commaList do
    let element ← grammar .alternatives
    if isOpenRange element then failure else return element)
  return plainPattern elements

def seesPatternPath (tokens : Tokens) : Bool :=
  let second := behind tokens
  (seesName tokens
    && (sees "::" second || sees "!" second || seesGroup .brace second
      || seesGroup .parenthesis second || sees ".." second))
    || (seesWord "self" tokens && sees "::" second)
    || sees "::" tokens || sees "<" tokens || seesOneOf ["Self", "super", "crate"] tokens

def patternRule (grammar : Grammar) : Reader Tree := do
  let tokens ← ahead
  if seesPatternPath tokens then pathPattern grammar
  else if seesWord "_" tokens then
    word "_"
    return plainPattern []
  else if seesWord "box" tokens then
    word "box"
    let _ ← grammar .pattern
    return .node (.pattern .unread) []
  else if sees "-" tokens || seesLiteral tokens || seesWord "const" tokens then
    literalPattern grammar
  else if seesOneOf ["ref", "mut", "self"] tokens || seesName tokens then bindingPattern grammar
  else if sees "&" tokens then
    marks "&"
    let _ ← optionalWord "mut"
    return plainPattern [← grammar .pattern]
  else if seesGroup .parenthesis tokens then
    return plainPattern (← within .parenthesis (commaList (grammar .alternatives)))
  else if seesGroup .bracket tokens then slicePattern grammar
  else if sees ".." tokens && !sees "..." tokens then halfOpenPattern grammar
  else failure

def seesBar (tokens : Tokens) : Bool := sees "|" tokens && !sees "||" tokens && !sees "|=" tokens

def alternativesRule (grammar : Grammar) : Reader Tree := do
  let leading ← optionalMarks "|"
  let first ← grammar .pattern
  let more ← many seesBar do
    marks "|"
    grammar .pattern
  if leading || !more.isEmpty then return plainPattern (first :: more) else return first

end HttpBinding.Source
