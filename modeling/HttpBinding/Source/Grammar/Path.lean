import HttpBinding.Source.Grammar.Attribute

/-!
Paths with generic arguments.
-/
namespace HttpBinding.Source

open Reader Tokens

structure Segment where
  name : String
  style : Arguments
  arguments : List Tree

def Segment.hasNoArguments (segment : Segment) : Bool :=
  match segment.style with
  | .none => true
  | .angled => segment.arguments.isEmpty
  | .parenthesized => false

structure PathRead where
  rooted : Bool
  segments : List Segment

namespace PathRead

def style (path : PathRead) : Arguments :=
  path.segments.foldl (fun style segment =>
    match segment.style with
    | .none => style
    | written => written) .none

def toTree (path : PathRead) : Tree :=
  .path path.rooted (path.segments.map Segment.name) path.style
    (path.segments.flatMap Segment.arguments)

def isPlain (path : PathRead) : Bool := path.style = .none

def endsWithoutArguments (path : PathRead) : Bool :=
  path.segments.getLast?.any Segment.hasNoArguments

def withParentheses (path : PathRead) (arguments : List Tree) : PathRead :=
  match path.segments.getLast? with
  | none => path
  | some last =>
      { path with segments :=
          path.segments.dropLast ++ [{ last with style := .parenthesized, arguments := arguments }] }

end PathRead

def blockParts (grammar : Grammar) : Reader (List Tree) :=
  within .brace do
    let attributes ← innerTrees grammar
    return attributes ++ [← grammar .statements]

def plainBlock (grammar : Grammar) : Reader Tree := within .brace (grammar .statements)

def constArgument (grammar : Grammar) : Reader Tree := do
  if ← test seesLiteral then
    literal
    return .nothing
  else if ← test seesName then
    return .path false [← name] .none []
  else return .node (.expression .block) (← blockParts grammar)

def singleName? : Tree → Option (List Tree)
  | .node (.type .named) [.path false [_] _ arguments] => some arguments
  | _ => none

def seesConstant (tokens : Tokens) : Bool := seesLiteral tokens || seesGroup .brace tokens

def genericArgument (grammar : Grammar) : Reader Tree := do
  let tokens ← ahead
  if seesLifetime tokens && !sees "+" (behind tokens) then
    lifetime
    return .nothing
  else if seesConstant tokens then constArgument grammar
  else
    let type ← grammar (.type true)
    match singleName? type with
    | none => return type
    | some arguments =>
        if ← optionalMarks "=" then
          let value ← (do
            if ← test seesConstant then constArgument grammar
            else grammar (.type true))
          return .parts (arguments ++ [value])
        else if ← optionalMarks ":" then
          let bounds ← plusList (fun tokens => sees "," tokens || sees ">" tokens)
            (grammar (.bound false true))
          return .parts (arguments ++ bounds)
        else return type

def angledArguments (grammar : Grammar) : Reader (List Tree) := do
  marks "<"
  let arguments ← separatedUntil (sees ">") "," (genericArgument grammar)
  marks ">"
  return arguments

/-- In an expression arguments need `::` in front of them. -/
def seesArguments (inExpression : Bool) (tokens : Tokens) : Bool :=
  (!inExpression && sees "<" tokens && !sees "<=" tokens && !sees "<<=" tokens)
    || (sees "::" tokens && sees "<" (behindTwo tokens))

def segment (grammar : Grammar) (inExpression : Bool) : Reader Segment := do
  if ← test (seesOneOf ["super", "self", "crate", "try"]) then
    return ⟨← anyWord, .none, []⟩
  let found ← (do
    if ← test (seesWord "Self") then anyWord
    else name)
  if ← test (seesArguments inExpression) then
    let _ ← optionalMarks "::"
    return ⟨found, .angled, ← angledArguments grammar⟩
  else return ⟨found, .none, []⟩

def seesNextSegment (tokens : Tokens) : Bool :=
  sees "::" tokens && !seesGroup .parenthesis (behindTwo tokens)

def moreSegments (grammar : Grammar) (inExpression : Bool) : Reader (List Segment) :=
  many seesNextSegment do
    marks "::"
    segment grammar inExpression

def path (grammar : Grammar) (inExpression : Bool) : Reader PathRead := do
  let rooted ← optionalMarks "::"
  let first ← segment grammar inExpression
  return ⟨rooted, first :: (← moreSegments grammar inExpression)⟩

def qualifiedRest (grammar : Grammar) (inExpression : Bool) : Reader (List Segment) :=
  untilDone (fun read => do
    let read := (← segment grammar inExpression) :: read
    if ← optionalMarks "::" then return .inl read
    else return .inr read.reverse) []

/-- A path, or one that starts from a type in angle brackets. The type comes first;
a path in the brackets is continued by the segments behind them. -/
def qualifiedPath (grammar : Grammar) (inExpression : Bool) : Reader (Option Tree × PathRead) := do
  if ← optionalMarks "<" then
    let type ← grammar (.type true)
    let base ← (do
      if ← optionalWord "as" then return some (← path grammar false)
      else return none)
    marks ">"
    marks "::"
    let rest ← qualifiedRest grammar inExpression
    match base with
    | some base => return (some type, { base with segments := base.segments ++ rest })
    | none => return (some type, ⟨true, rest⟩)
  else return (none, ← path grammar inExpression)

end HttpBinding.Source
