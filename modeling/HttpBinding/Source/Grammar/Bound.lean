import HttpBinding.Source.Grammar.Path

/-!
Bounds of type parameters and trait objects, generic parameters and where clauses.
-/
namespace HttpBinding.Source

open Reader Tokens

/-! Generic parameters -/

def lifetimeParameter (grammar : Grammar) : Reader (List Tree) := do
  let attributes ← outerTrees grammar
  lifetime
  if ← optionalMarks ":" then
    let _ ← plusList
      (fun tokens => tokens.isEmpty || sees "," tokens || sees ">" tokens) lifetime
  return attributes

def typeParameter (grammar : Grammar) : Reader (List Tree) := do
  let attributes ← outerTrees grammar
  let _ ← name
  let found ← (do
    if ← optionalMarks ":" then
      plusList
        (fun tokens => tokens.isEmpty || sees "," tokens || sees ">" tokens || sees "=" tokens)
        (grammar (.bound false true))
    else return [])
  let default ← (do
    if ← optionalMarks "=" then return [← grammar (.type true)]
    else return [])
  return attributes ++ found ++ default

def constParameter (grammar : Grammar) : Reader (List Tree) := do
  let attributes ← outerTrees grammar
  word "const"
  let _ ← name
  marks ":"
  let type ← grammar (.type true)
  let default ← (do
    if ← optionalMarks "=" then return [← constArgument grammar]
    else return [])
  return attributes ++ [type] ++ default

def genericParameter (grammar : Grammar) : Reader (List Tree) := do
  let attributes ← outerTrees grammar
  let tokens ← ahead
  if seesLifetime tokens then return attributes ++ (← lifetimeParameter grammar)
  else if seesName tokens then return attributes ++ (← typeParameter grammar)
  else if seesWord "const" tokens then return attributes ++ (← constParameter grammar)
  else failure

def boundLifetimes (grammar : Grammar) : Reader (List Tree) := do
  word "for"
  marks "<"
  let parameters ← separatedUntil (sees ">") "," (genericParameter grammar)
  marks ">"
  return parameters.flatten

def optionalBoundLifetimes (grammar : Grammar) : Reader (Option (List Tree)) := do
  if ← test (seesWord "for") then return some (← boundLifetimes grammar)
  else return none

/-! Bounds -/

def returnType (grammar : Grammar) (plus : Bool) : Reader (Option Tree) := do
  if ← optionalMarks "->" then return some (← grammar (.type plus))
  else return none

def parenthesizedArguments (grammar : Grammar) : Reader (List Tree × Option Tree) := do
  let inputs ← within .parenthesis (commaList (grammar (.type true)))
  return (inputs, ← returnType grammar false)

def seesParenthesized (path : PathRead) (tokens : Tokens) : Bool :=
  path.endsWithoutArguments
    && (seesGroup .parenthesis tokens
      || (sees "::" tokens && seesGroup .parenthesis (behindTwo tokens)))

def constModifier : Reader Bool := do
  if ← test (seesGroup .bracket) then
    within .bracket (word "const")
    return true
  else optionalWord "const"

def traitBound (grammar : Grammar) (const : Bool) : Reader Tree := do
  let outer ← optionalBoundLifetimes grammar
  let isConst ← constModifier
  if isConst && !const then failure
  let maybe ← optionalMarks "?"
  let lifetimes ← (do
    if outer.isNone && maybe then optionalBoundLifetimes grammar
    else return outer)
  let found ← path grammar false
  let found ← (do
    if ← test (seesParenthesized found) then
      let _ ← optionalMarks "::"
      let (inputs, output) ← parenthesizedArguments grammar
      return found.withParentheses (inputs ++ output.toList)
    else return found)
  if lifetimes.isSome && maybe then failure
  if isConst then return .node (.bound true) []
  else return .node (.bound true) (lifetimes.getD [] ++ [found.toTree])

/-- `use<...>`: the parameters that a type captures. -/
def preciseCapture : Reader Unit := do
  word "use"
  marks "<"
  let _ ← separatedUntil (sees ">") "," (do
    if ← test seesLifetime then lifetime
    else
      check fun tokens => seesName tokens || seesWord "Self" tokens
      let _ ← anyWord)
  marks ">"

def bound (grammar : Grammar) (capture const : Bool) : Reader Tree := do
  let tokens ← ahead
  if seesLifetime tokens then
    lifetime
    return .node (.bound false) []
  else if seesWord "use" tokens then
    preciseCapture
    if capture then return .node (.bound false) [] else failure
  else if seesGroup .parenthesis tokens then within .parenthesis (traitBound grammar const)
  else traitBound grammar const

def seesBound (const : Bool) (tokens : Tokens) : Bool :=
  seesAnyWord tokens || sees "::" tokens || sees "?" tokens || seesLifetime tokens
    || seesGroup .parenthesis tokens
    || (const && (seesGroup .bracket tokens || seesWord "const" tokens))

def isTraitBound : Tree → Bool
  | .node (.bound isTrait) _ => isTrait
  | _ => false

/-- Bounds with plus signs between them, one of which must be a trait. -/
def bounds (grammar : Grammar) (plus capture const : Bool) : Reader (List Tree) := do
  let read ← untilDone (fun read => do
    let read := (← grammar (.bound capture const)) :: read
    let tokens ← ahead
    if !(plus && sees "+" tokens) then return .inr read.reverse
    marks "+"
    if seesBound const (← ahead) then return .inl read
    else return .inr read.reverse) []
  if read.any isTraitBound then return read else failure

/-! Generics -/

/-- Generic parameters rather than a qualified path, at an opening angle bracket. -/
def seesGenerics (tokens : Tokens) : Bool :=
  let second := behind tokens
  let third := behindTwo tokens
  sees "<" tokens
    && (sees ">" second || sees "#" second
      || ((seesLifetime second || seesName second)
        && (sees ">" third || sees "," third || (sees ":" third && !sees "::" third)
          || sees "=" third))
      || seesWord "const" second)

def openParameter (grammar : Grammar) : Reader (List Tree) := do
  let attributes ← outerTrees grammar
  if ← optionalWord "_" then return attributes
  else return attributes ++ (← genericParameter grammar)

def generics (grammar : Grammar) : Reader (Option (List Tree)) := do
  if ← optionalMarks "<" then
    let parameters ← separatedUntil (sees ">") "," (openParameter grammar)
    marks ">"
    return some parameters.flatten
  else return none

def endsPredicate (tokens : Tokens) : Bool :=
  tokens.isEmpty || seesGroup .brace tokens || sees "," tokens || sees ";" tokens
    || (sees ":" tokens && !sees "::" tokens) || sees "=" tokens

def wherePredicate (grammar : Grammar) : Reader (List Tree) := do
  let tokens ← ahead
  if seesLifetime tokens && sees ":" (behind tokens) then
    lifetime
    marks ":"
    let _ ← plusList (fun tokens => endsPredicate tokens || sees ":" tokens) lifetime
    return []
  else
    let lifetimes ← optionalBoundLifetimes grammar
    let type ← grammar (.type true)
    marks ":"
    let found ← plusList endsPredicate (grammar (.bound false true))
    return lifetimes.getD [] ++ type :: found

def optionalWhere (grammar : Grammar) : Reader (Option (List Tree)) := do
  if ← optionalWord "where" then
    if ← test seesGenerics then failure
    let predicates ← untilDone (fun read => do
      if ← test endsPredicate then return .inr read.reverse
      let read := (← wherePredicate grammar) :: read
      if ← optionalMarks "," then return .inl read
      else return .inr read.reverse) []
    return some predicates.flatten
  else return none

def genericsTree (parameters predicates : Option (List Tree)) : Tree :=
  .node .generics (parameters.getD [] ++ predicates.getD [])

end HttpBinding.Source
