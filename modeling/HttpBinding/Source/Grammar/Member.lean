import HttpBinding.Source.Grammar.Statement
import HttpBinding.Source.Grammar.Type

/-!
What items and the members of traits and implementations have in common: signatures,
constants, type aliases, fields and macro calls.
-/
namespace HttpBinding.Source

open Reader Tokens

/-! Signatures -/

inductive ArgumentKind where
  | receiver | typed | variadic
deriving Repr, DecidableEq

def receiver (grammar : Grammar) : Reader (List Tree) := do
  let byReference ← optionalMarks "&"
  if byReference && seesLifetime (← ahead) then lifetime
  let _ ← optionalWord "mut"
  word "self"
  if byReference then return []
  else if ← optionalMarks ":" then return [← grammar (.type true)]
  else return []

def argument (grammar : Grammar) : Reader (ArgumentKind × List Tree) := do
  if ← optionalMarks "..." then return (.variadic, [])
  match ← attempt (receiver grammar) with
  | some trees => return (.receiver, trees)
  | none =>
      if ← test fun tokens => seesName tokens && sees "<" (behind tokens) then
        return (.typed, [← grammar (.type true)])
      let pattern ← grammar .pattern
      marks ":"
      if ← optionalMarks "..." then return (.variadic, [pattern])
      else return (.typed, [pattern, ← grammar (.type true)])

def arguments (grammar : Grammar) : Reader (List Tree) :=
  untilDone (fun (read : List (List Tree)) => do
    if ← atEnd then return .inr read.reverse.flatten
    let attributes ← outerTrees grammar
    let (kind, trees) ← argument grammar
    if kind = .receiver && !read.isEmpty then failure
    let read := (attributes ++ trees) :: read
    if ← atEnd then return .inr read.reverse.flatten
    marks ","
    if kind = .variadic then return .inr read.reverse.flatten
    else return .inl read) []

def qualifiers (allowSafe : Bool) : Reader Bool := do
  let _ ← optionalWord "const"
  let _ ← optionalWord "async"
  let isSafe ← (do
    if allowSafe && seesWord "safe" (← ahead) then optionalWord "safe"
    else
      let _ ← optionalWord "unsafe"
      return false)
  optionalAbi
  return isSafe

def seesFunction (allowSafe : Bool) (tokens : Tokens) : Bool :=
  match qualifiers allowSafe tokens with
  | some read => seesWord "fn" read.rest
  | none => false

structure Signature where
  name : String
  isSafe : Bool
  tree : Tree

def signature (grammar : Grammar) (allowSafe : Bool) : Reader Signature := do
  let isSafe ← qualifiers allowSafe
  word "fn"
  let found ← name
  let parameters ← generics grammar
  let inputs ← within .parenthesis (arguments grammar)
  let output ← returnType grammar true
  let predicates ← optionalWhere grammar
  let children := genericsTree parameters predicates :: inputs ++ output.toList
  return ⟨found, isSafe, .node .signature children⟩

def body (grammar : Grammar) : Reader (List Tree × Tree) :=
  within .brace do
    let attributes ← innerTrees grammar
    return (attributes, ← grammar .statements)

/-! Constants and type aliases -/

/-- A constant is generic if it has parameters or predicates, even none of them. -/
structure ConstantRead where
  isGeneric : Bool
  type : Tree
  value : Option Tree

def constant (grammar : Grammar) : Reader ConstantRead := do
  check fun tokens => seesName tokens || seesWord "_" tokens
  let _ ← anyWord
  let parameters ← generics grammar
  marks ":"
  let type ← grammar (.type true)
  let value ← (do
    if ← optionalMarks "=" then return some (← grammar (.expression true))
    else return none)
  let predicates ← optionalWhere grammar
  marks ";"
  return ⟨parameters.isSome || predicates.isSome, type, value⟩

inductive WherePlace where
  | beforeType | afterType | both
deriving Repr, DecidableEq

structure AliasRead where
  isBounded : Bool
  generics : Tree
  bounds : List Tree
  type : Option Tree

def optionalBounds (grammar : Grammar) (stop : Tokens → Bool) : Reader (Option (List Tree)) := do
  if ← optionalMarks ":" then
    return some (← separatedUntil stop "+" (grammar (.bound false true)))
  else return none

def typeAlias (grammar : Grammar) (place : WherePlace) : Reader AliasRead := do
  word "type"
  let _ ← name
  let parameters ← generics grammar
  let found ← optionalBounds grammar fun tokens =>
    seesWord "where" tokens || sees "=" tokens || sees ";" tokens
  let early ← (do
    if place = .afterType then return none else optionalWhere grammar)
  let type ← (do
    if ← optionalMarks "=" then return some (← grammar (.type true))
    else return none)
  let late ← (do
    if place = .beforeType || early.isSome then return none else optionalWhere grammar)
  marks ";"
  return ⟨found.isSome, genericsTree parameters (early.or late), found.getD [], type⟩

/-! Fields -/

/-- The type of a field without a name may be a structure or union of its own. -/
def seesInnerStructure (tokens : Tokens) : Bool :=
  seesWord "struct" tokens || (seesWord "union" tokens && seesGroup .brace (behind tokens))

def namedField (grammar : Grammar) : Reader Tree := do
  let attributes ← outerTrees grammar
  let shown ← visibility
  let nameless ← optionalWord "_"
  if !nameless then
    let _ ← name
  marks ":"
  if nameless && seesInnerStructure (← ahead) then
    drop 1
    let _ ← grammar .fields
    return .parts (attributes ++ [shown])
  else return .parts (attributes ++ [shown, ← grammar (.type true)])

def fieldsRule (grammar : Grammar) : Reader Tree := do
  return .parts (← within .brace (commaList (namedField grammar)))

def numberedField (grammar : Grammar) : Reader Tree := do
  let attributes ← outerTrees grammar
  let shown ← visibility
  return .parts (attributes ++ [shown, ← grammar (.type true)])

def numberedFields (grammar : Grammar) : Reader Tree := do
  return .parts (← within .parenthesis (commaList (numberedField grammar)))

/-! Macro calls -/

def seesCall (tokens : Tokens) : Bool :=
  seesName tokens || seesOneOf ["self", "super", "crate"] tokens || sees "::" tokens

/-- A macro call that is a member; only one in braces has no semicolon. -/
def memberCall : Reader Tree := do
  let (delimiter, call) ← macroCall (← plainPath)
  if delimiter ≠ .brace then marks ";"
  return call

end HttpBinding.Source
