import HttpBinding.Source.Grammar.Goal

/-!
Attributes, plain paths, macro calls and visibilities.
-/
namespace HttpBinding.Source

open Reader Tokens

def pathWords : List String := ["super", "self", "Self", "crate"]

def seesPathWord (tokens : Tokens) : Bool := seesName tokens || seesOneOf pathWords tokens

def plainPath : Reader Tree := do
  let rooted ← optionalMarks "::"
  let names ← untilDone (fun names => do
    check seesPathWord
    let names := (← anyWord) :: names
    if ← optionalMarks "::" then return .inl names
    else return .inr names.reverse) []
  return .path rooted names .none []

def macroArguments (name : Tree) : Reader (Delimiter × Tree) := do
  let (delimiter, arguments) ← anyGroup
  return (delimiter, .call name arguments [])

/-- A macro call behind its name. -/
def macroCall (name : Tree) : Reader (Delimiter × Tree) := do
  marks "!"
  macroArguments name

def seesBuiltinCall (tokens : Tokens) : Bool := seesWord "builtin" tokens && sees "#" (behind tokens)

def builtinCall : Reader Unit := do
  word "builtin"
  marks "#"
  let _ ← name
  skipGroup .parenthesis

structure Attribute where
  start : Nat
  isDoc : Bool
  tree : Tree

def isDocPath : Tree → Bool
  | .path false ["doc"] .none [] => true
  | _ => false

def attributeValue (grammar : Grammar) : Reader Tree := do
  marks "="
  let tokens ← ahead
  if (whole literal tokens).isSome then
    literal
    return .nothing
  else if sees "#" tokens && seesGroup .bracket (behind tokens) then failure
  else grammar (.expression true)

def attributeContent (grammar : Grammar) : Reader (Bool × Tree) := do
  let path ← (do
    if ← optionalWord "unsafe" then return Tree.path false ["unsafe"] .none []
    else plainPath)
  if ← test seesAnyGroup then
    drop 1
    return (isDocPath path, .metadata path [])
  else if ← test (sees "=") then
    return (isDocPath path, .metadata path [← attributeValue grammar])
  else return (isDocPath path, .metadata path [])

def startOf (tokens : Tokens) : Nat := (tokens.head?.map fun token => token.span.start).getD 0

def outerAttribute (grammar : Grammar) : Reader Attribute := do
  let start := startOf (← ahead)
  marks "#"
  let (isDoc, tree) ← within .bracket (attributeContent grammar)
  return ⟨start, isDoc, tree⟩

def outerAttributes (grammar : Grammar) : Reader (List Attribute) :=
  many (sees "#") (outerAttribute grammar)

def outerTrees (grammar : Grammar) : Reader (List Tree) := do
  return (← outerAttributes grammar).map Attribute.tree

def innerTrees (grammar : Grammar) : Reader (List Tree) :=
  many (fun tokens => sees "#" tokens && sees "!" (behind tokens)) do
    marks "#"
    marks "!"
    return (← within .bracket (attributeContent grammar)).2

/-- `pub`, perhaps with a path in parentheses that restricts it. Parentheses that
hold anything else belong to what follows. -/
def restrictedVisibility : Reader Tree :=
  within .parenthesis do
    if ← optionalWord "in" then plainPath
    else
      check (seesOneOf ["crate", "self", "super"])
      return .path false [← anyWord] .none []

def seesRestriction : Tokens → Bool
  | .group .parenthesis inner _ :: _ =>
      seesWord "in" inner || (seesOneOf ["crate", "self", "super"] inner && inner.length == 1)
  | _ => false

def visibility : Reader Tree := do
  if ← optionalWord "pub" then
    if ← test seesRestriction then
      return .node (.visibility false) [← restrictedVisibility]
    else return .node (.visibility false) []
  else return .node (.visibility true) []

def isInherited : Tree → Bool
  | .node (.visibility inherited) _ => inherited
  | _ => false

/-- Attributes in front of a tree belong to it; what is not looked into drops them. -/
def withAttributes (attributes : List Tree) : Tree → Tree
  | .node (.expression .unread) children => .node (.expression .unread) children
  | .node kind children => .node kind (attributes ++ children)
  | tree => .parts (attributes ++ [tree])

end HttpBinding.Source
