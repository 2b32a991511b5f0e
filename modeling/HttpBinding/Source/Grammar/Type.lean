import HttpBinding.Source.Grammar.Bound

/-!
Types.
-/
namespace HttpBinding.Source

open Reader Tokens

def plainType (children : List Tree) : Tree := .node (.type .plain) children

def optionalAbi : Reader Unit := do
  if ← optionalWord "extern" then
    if ← test seesTextLiteral then drop 1

def traitObject (grammar : Grammar) (plus : Bool) : Reader Tree := do
  return plainType (← bounds grammar plus false false)

def seesArgumentName (self : Bool) (tokens : Tokens) : Bool :=
  (seesName tokens || seesWord "_" tokens || (self && seesWord "self" tokens))
    && sees ":" (behind tokens) && !sees "::" (behind tokens)

/-- An argument of a function type. One that is called `mut self` is not looked into. -/
def bareArgument (grammar : Grammar) (allowSelf : Bool) : Reader (List Tree) := do
  let attributes ← outerTrees grammar
  let tokens ← ahead
  let mutSelf := allowSelf && seesWord "mut" tokens && seesWord "self" (behind tokens)
  if mutSelf then word "mut"
  let hasSelf ← test (seesWord "self")
  let named ← test (seesArgumentName allowSelf)
  if named then
    let _ ← anyWord
    marks ":"
  let again ← test fun tokens => seesWord "mut" tokens && seesWord "self" (behind tokens)
  if allowSelf && !(named && hasSelf) && again then
    word "mut"
    word "self"
    return attributes
  else if mutSelf && !named then
    word "self"
    return attributes
  else
    let type ← grammar (.type true)
    return if mutSelf then attributes else attributes ++ [type]

def seesVariadic (tokens : Tokens) : Bool :=
  sees "..." tokens
    || ((seesName tokens || seesWord "_" tokens) && sees ":" (behind tokens)
      && sees "..." (behindTwo tokens))

def bareVariadic : Reader Unit := do
  if ← test fun tokens => seesName tokens || seesWord "_" tokens then
    let _ ← anyWord
    marks ":"
  marks "..."
  let _ ← optionalMarks ","

def bareArguments (grammar : Grammar) : Reader (List Tree) :=
  untilDone (fun (read : List (List Tree)) => do
    if ← atEnd then return .inr read.reverse.flatten
    let attributes ← outerTrees grammar
    if ← test seesVariadic then
      bareVariadic
      return .inr (read.reverse.flatten ++ attributes)
    let argument ← bareArgument grammar read.isEmpty
    let read := (attributes ++ argument) :: read
    if ← atEnd then return .inr read.reverse.flatten
    marks ","
    return .inl read) []

def bareFunction (grammar : Grammar) : Reader (List Tree) := do
  let lifetimes ← optionalBoundLifetimes grammar
  let _ ← optionalWord "unsafe"
  optionalAbi
  word "fn"
  let inputs ← within .parenthesis (bareArguments grammar)
  let output ← returnType grammar false
  return lifetimes.getD [] ++ inputs ++ output.toList

def plusBounds (grammar : Grammar) : Reader (List Tree) :=
  many (sees "+") do
    marks "+"
    grammar (.bound false false)

/-- Bounds behind plus signs; a last plus sign may stand alone. The flag tells whether
there was any plus sign. -/
def looseBounds (grammar : Grammar) : Reader (Bool × List Tree) :=
  untilDone (fun (plus, read) => do
    if ← optionalMarks "+" then
      if seesBound false (← ahead) then
        return .inl (true, (← grammar (.bound false false)) :: read)
      else return .inr (true, read.reverse)
    else return .inr (plus, read.reverse)) (false, [])

def isOneBound : Tree → Bool
  | .node (.type .named) _ => true
  | .node (.type .bounds) _ => true
  | _ => false

def parenthesizedType (grammar : Grammar) (plus : Bool) : Reader Tree := do
  check (seesGroup .parenthesis)
  let (_, content) ← anyGroup
  if content.isEmpty then return plainType []
  else if seesLifetime content then
    match whole (traitObject grammar true) content with
    | some inner => return plainType [inner]
    | none => failure
  else if sees "?" content then
    match whole (traitBound grammar false) content with
    | some first =>
        let more ← plusBounds grammar
        return if more.isEmpty then .node (.type .bounds) [first] else plainType (first :: more)
    | none => failure
  else
    match grammar (.type true) content with
    | none => failure
    | some ⟨first, rest, _⟩ =>
        if sees "," rest then
          match whole (do marks ","; commaList (grammar (.type true))) rest with
          | some more => return plainType (first :: more)
          | none => failure
        else if !rest.isEmpty then failure
        else if (plus && sees "+" (← ahead)) && isOneBound first then
          return plainType (first :: (← plusBounds grammar))
        else return plainType [first]

def namedType (grammar : Grammar) (lifetimes : Option (List Tree)) (plus : Bool) :
    Reader Tree := do
  let (qualifier, found) ← qualifiedPath grammar false
  let tokens ← ahead
  match qualifier with
  | some qualifier => return .node (.type .qualified) [qualifier, found.toTree]
  | none =>
      if sees "!" tokens && !sees "!=" tokens && found.isPlain then
        return plainType [(← macroCall found.toTree).2]
      else if lifetimes.isSome || (plus && sees "+" tokens) then
        let first := lifetimes.getD [] ++ [found.toTree]
        if plus then
          match ← looseBounds grammar with
          | (false, _) => return .node (.type .bounds) first
          | (true, more) => return plainType (first ++ more)
        else return .node (.type .bounds) first
      else return .node (.type .named) [found.toTree]

def seesBoundedStart (tokens : Tokens) : Bool :=
  seesName tokens || seesOneOf ["fn", "unsafe", "extern", "super", "self", "Self", "crate"] tokens

def seesPathStart (tokens : Tokens) : Bool :=
  seesPathWord tokens || sees "::" tokens || sees "<" tokens

def bracketType (grammar : Grammar) : Reader Tree :=
  within .bracket do
    let element ← grammar (.type true)
    if ← optionalMarks ";" then
      return plainType [element, ← grammar (.expression true)]
    else return plainType [element]

def pointerType (grammar : Grammar) : Reader Tree := do
  marks "*"
  check (seesOneOf ["const", "mut"])
  let _ ← anyWord
  return plainType [← grammar (.type false)]

def referenceType (grammar : Grammar) : Reader Tree := do
  marks "&"
  if ← test seesLifetime then lifetime
  let _ ← optionalWord "mut"
  return plainType [← grammar (.type false)]

def dynType (grammar : Grammar) (plus : Bool) : Reader Tree := do
  word "dyn"
  let star ← optionalMarks "*"
  let found ← bounds grammar plus false false
  return if star then .node (.type .unread) [] else plainType found

def builtinType : Reader Tree := do
  builtinCall
  return .node (.type .unread) []

/-- A type. Behind a reference or a pointer no plus sign may follow its first bound. -/
def typeRule (grammar : Grammar) (plus : Bool) : Reader Tree := do
  let lifetimes ← optionalBoundLifetimes grammar
  if lifetimes.isSome then check seesBoundedStart
  let tokens ← ahead
  if seesGroup .parenthesis tokens then parenthesizedType grammar plus
  else if seesOneOf ["fn", "unsafe", "extern"] tokens then
    return plainType (lifetimes.getD [] ++ (← bareFunction grammar))
  else if seesBuiltinCall tokens then builtinType
  else if seesPathStart tokens then namedType grammar lifetimes plus
  else if seesWord "dyn" tokens then dynType grammar plus
  else if seesGroup .bracket tokens then bracketType grammar
  else if sees "*" tokens then pointerType grammar
  else if sees "&" tokens then referenceType grammar
  else if sees "!" tokens && !sees "=" tokens then
    marks "!"
    return plainType []
  else if seesWord "impl" tokens then
    word "impl"
    return plainType (← bounds grammar plus true true)
  else if seesWord "_" tokens then
    word "_"
    return plainType []
  else if seesLifetime tokens then traitObject grammar true
  else failure

end HttpBinding.Source
