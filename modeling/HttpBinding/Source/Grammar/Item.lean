import HttpBinding.Source.Grammar.Member

/-!
Items, and the members of traits, implementations and foreign blocks.
-/
namespace HttpBinding.Source

open Reader Tokens

/-- What an item is for those who refer to it. An implementation has the last name of
the type that it is for, if that is a path. -/
inductive Declared where
  | function (name : String)
  | type (name : String)
  | implementation (type : Option String)
  | other
deriving Repr, DecidableEq

inductive ItemBody where
  | unread
  | read (declared : Declared) (children : List Tree)

namespace ItemBody

def member (children : List Tree) : ItemBody := .read .other children

def declared : ItemBody → Declared
  | unread => .other
  | read declared _ => declared

/-- What is not looked into drops its attributes. -/
def toTree (attributes : List Tree) : ItemBody → Tree
  | unread => .node .item []
  | read _ children => .node .item (attributes ++ children)

end ItemBody

def attributed (grammar : Grammar) (content : Reader ItemBody) : Reader Tree := do
  let attributes ← outerTrees grammar
  return (← content).toTree attributes

def members (grammar : Grammar) (goal : Goal) : Reader (List Tree × List Tree) :=
  within .brace do
    let attributes ← innerTrees grammar
    return (attributes, ← many (fun tokens => !tokens.isEmpty) (grammar goal))

/-! Members -/

def implFunction (grammar : Grammar) : Reader ItemBody := do
  let shown ← visibility
  let _ ← optionalWord "default"
  let found ← signature grammar false
  if ← optionalMarks ";" then return .unread
  let (attributes, statements) ← body grammar
  return .member (attributes ++ [shown, found.tree, statements])

def constantItem (grammar : Grammar) (shown : Tree) : Reader ItemBody := do
  word "const"
  let found ← constant grammar
  match found.value with
  | some value =>
      return if found.isGeneric then .unread else .member [shown, found.type, value]
  | none => return .unread

def implType (grammar : Grammar) : Reader ItemBody := do
  let shown ← visibility
  let _ ← optionalWord "default"
  let found ← typeAlias grammar .afterType
  match found.type with
  | some type => return if found.isBounded then .unread else .member [shown, found.generics, type]
  | none => return .unread

def seesDefault (tokens : Tokens) : Bool :=
  seesWord "default" tokens && !sees "!" (behind tokens)

def implMember (grammar : Grammar) : Reader ItemBody := restarting do
  let shown ← visibility
  let isDefault ← test seesDefault
  if isDefault then word "default"
  let tokens ← ahead
  if seesFunction false tokens then return .inr (implFunction grammar)
  else if seesWord "const" tokens then return .inl (← constantItem grammar shown)
  else if seesWord "type" tokens then return .inr (implType grammar)
  else if isInherited shown && !isDefault && seesCall tokens then
    return .inl (.member [← memberCall])
  else failure

def traitFunction (grammar : Grammar) : Reader ItemBody := do
  let found ← signature grammar false
  if ← optionalMarks ";" then return .member [found.tree]
  let (attributes, statements) ← body grammar
  return .member (attributes ++ [found.tree, statements])

def traitConstant (grammar : Grammar) : Reader ItemBody := do
  word "const"
  let found ← constant grammar
  return if found.isGeneric then .unread else .member (found.type :: found.value.toList)

def traitType (grammar : Grammar) : Reader ItemBody := do
  let found ← typeAlias grammar .afterType
  return .member (found.generics :: found.bounds ++ found.type.toList)

/-- A member of a trait; one with a visibility or a default mark is not looked into. -/
def traitMember (grammar : Grammar) : Reader ItemBody := do
  let shown ← visibility
  let isDefault ← optionalWord "default"
  let tokens ← ahead
  let found ← (do
    if seesFunction false tokens then traitFunction grammar
    else if seesWord "const" tokens then traitConstant grammar
    else if seesWord "type" tokens then traitType grammar
    else if isInherited shown && !isDefault && seesCall tokens then
      return .member [← memberCall]
    else failure)
  return if isInherited shown && !isDefault then found else .unread

def foreignFunction (grammar : Grammar) (shown : Tree) : Reader ItemBody := do
  let found ← signature grammar true
  if ← test (seesGroup .brace) then
    let _ ← body grammar
    return .unread
  marks ";"
  return if found.isSafe then .unread else .member [shown, found.tree]

def foreignStatic (grammar : Grammar) (shown : Tree) : Reader ItemBody := do
  let marked ← test (seesOneOf ["unsafe", "safe"])
  if marked then drop 1
  word "static"
  let _ ← optionalWord "mut"
  let _ ← name
  marks ":"
  let type ← grammar (.type true)
  let hasValue ← optionalMarks "="
  if hasValue then
    let _ ← grammar (.expression true)
  marks ";"
  return if marked || hasValue then .unread else .member [shown, type]

def foreignType (grammar : Grammar) (shown : Tree) : Reader ItemBody := do
  let found ← typeAlias grammar .both
  return if found.isBounded || found.type.isSome then .unread
    else .member [shown, found.generics]

def foreignMember (grammar : Grammar) : Reader ItemBody := do
  let shown ← visibility
  let tokens ← ahead
  if seesFunction true tokens then foreignFunction grammar shown
  else if seesWord "static" tokens
      || (seesOneOf ["unsafe", "safe"] tokens && seesWord "static" (behind tokens)) then
    foreignStatic grammar shown
  else if seesWord "type" tokens then foreignType grammar shown
  else if isInherited shown && seesCall tokens then return .member [← memberCall]
  else failure

/-! Items -/

def functionItem (grammar : Grammar) (shown : Tree) : Reader ItemBody := do
  let found ← signature grammar false
  if ← optionalMarks ";" then return .unread
  let (attributes, statements) ← body grammar
  return .read (.function found.name) (attributes ++ [shown, found.tree, statements])

def externCrate (shown : Tree) : Reader ItemBody := do
  word "extern"
  word "crate"
  check fun tokens => seesName tokens || seesWord "self" tokens
  let _ ← anyWord
  if ← optionalWord "as" then
    check fun tokens => seesName tokens || seesWord "_" tokens
    let _ ← anyWord
  marks ";"
  return .member [shown]

def foreignBlock (grammar : Grammar) : Reader ItemBody := do
  let _ ← optionalWord "unsafe"
  check (seesWord "extern")
  optionalAbi
  let (attributes, found) ← members grammar .foreignItem
  return .member (attributes ++ found)

def externItem (grammar : Grammar) (shown : Tree) : Reader ItemBody := do
  if seesWord "crate" (behind (← ahead)) then externCrate shown
  else if isInherited shown then foreignBlock grammar
  else failure

def useNames : Reader Bool :=
  untilDone (fun () => do
    let tokens ← ahead
    if seesGroup .brace tokens then return .inr true
    else if sees "*" tokens then
      marks "*"
      return .inr false
    else
      check fun tokens => seesName tokens || seesOneOf ["self", "super", "crate", "try"] tokens
      let _ ← anyWord
      if ← optionalMarks "::" then return .inl ()
      if ← optionalWord "as" then
        check fun tokens => seesName tokens || seesWord "_" tokens
        let _ ← anyWord
      return .inr false) ()

/-- What is imported, without a semicolon: whether a group holds a path from the root,
which is allowed as long as no name stands in front of it. -/
def useTree : Nat → Bool → Reader Bool
  | 0, _ => failure
  | depth + 1, allowRoot => do
      let allowRoot := allowRoot && seesGroup .brace (← ahead)
      if !(← useNames) then return false
      let rooted ← within .brace (commaList do
        let rooted ← (do if allowRoot then optionalMarks "::" else return false)
        return rooted || (← useTree depth (allowRoot && !rooted)))
      return rooted.any id

mutual

def groupDepth : List Token → Nat
  | [] => 0
  | token :: rest => max (tokenDepth token) (groupDepth rest)

def tokenDepth : Token → Nat
  | .group _ inner _ => groupDepth inner + 1
  | _ => 0

end

def useItem (shown : Tree) : Reader ItemBody := do
  word "use"
  let rooted ← optionalMarks "::"
  let unread ← useTree (groupDepth (← ahead) + 1) !rooted
  marks ";"
  return if unread then .unread else .member [shown]

def staticItem (grammar : Grammar) (shown : Tree) : Reader ItemBody := do
  word "static"
  let _ ← optionalWord "mut"
  let _ ← name
  if ← optionalMarks "=" then
    let _ ← grammar (.expression true)
    marks ";"
    return .unread
  marks ":"
  let type ← grammar (.type true)
  if ← optionalMarks ";" then return .unread
  marks "="
  let value ← grammar (.expression true)
  marks ";"
  return .member [shown, type, value]

def moduleItem (grammar : Grammar) (shown : Tree) : Reader ItemBody := do
  let _ ← optionalWord "unsafe"
  word "mod"
  check fun tokens => seesName tokens || seesWord "try" tokens
  let _ ← anyWord
  if ← optionalMarks ";" then return .member [shown]
  let (attributes, found) ← members grammar .item
  return .member (attributes ++ shown :: found)

def typeItem (grammar : Grammar) (shown : Tree) : Reader ItemBody := do
  let found ← typeAlias grammar .beforeType
  match found.type with
  | some type => return if found.isBounded then .unread else .member [shown, found.generics, type]
  | none => return .unread

/-- The predicates and fields of a structure. Numbered fields come before the
predicates. -/
def structureBody (grammar : Grammar) : Reader (Option (List Tree) × List Tree) := do
  let early ← optionalWhere grammar
  let tokens ← ahead
  if seesGroup .brace tokens then return (early, [← fieldsRule grammar])
  else if early.isNone && seesGroup .parenthesis tokens then
    let fields ← numberedFields grammar
    let late ← optionalWhere grammar
    marks ";"
    return (late, [fields])
  else
    marks ";"
    return (early, [])

def structureItem (grammar : Grammar) (shown : Tree) : Reader ItemBody := do
  word "struct"
  let found ← name
  let parameters ← generics grammar
  let (predicates, fields) ← structureBody grammar
  return .read (.type found) (shown :: genericsTree parameters predicates :: fields)

def variant (grammar : Grammar) : Reader Tree := do
  let attributes ← outerTrees grammar
  let _ ← visibility
  let _ ← name
  let tokens ← ahead
  let fields ← (do
    if seesGroup .brace tokens then return [← fieldsRule grammar]
    else if seesGroup .parenthesis tokens then return [← numberedFields grammar]
    else return [])
  let value ← (do
    if ← optionalMarks "=" then return [← grammar (.expression true)]
    else return [])
  return .parts (attributes ++ fields ++ value)

def enumItem (grammar : Grammar) (shown : Tree) : Reader ItemBody := do
  word "enum"
  let found ← name
  let parameters ← generics grammar
  let predicates ← optionalWhere grammar
  let variants ← within .brace (commaList (variant grammar))
  return .read (.type found) (shown :: genericsTree parameters predicates :: variants)

def unionItem (grammar : Grammar) (shown : Tree) : Reader ItemBody := do
  word "union"
  let _ ← name
  let parameters ← generics grammar
  let predicates ← optionalWhere grammar
  return .member [shown, genericsTree parameters predicates, ← fieldsRule grammar]

def traitRest (grammar : Grammar) (shown : Tree) (parameters : Option (List Tree)) :
    Reader ItemBody := do
  let above ← optionalBounds grammar fun tokens =>
    seesWord "where" tokens || seesGroup .brace tokens
  let predicates ← optionalWhere grammar
  let (attributes, found) ← members grammar .traitItem
  return .member (attributes ++ shown :: genericsTree parameters predicates
    :: above.getD [] ++ found)

def traitAliasRest (grammar : Grammar) (shown : Tree) (parameters : Option (List Tree)) :
    Reader ItemBody := do
  let found ← separatedUntil (fun tokens => seesWord "where" tokens || sees ";" tokens) "+"
    (grammar (.bound false false))
  let predicates ← optionalWhere grammar
  marks ";"
  return .member (shown :: genericsTree parameters predicates :: found)

def traitItem (grammar : Grammar) (shown : Tree) : Reader ItemBody := do
  let isUnsafe ← optionalWord "unsafe"
  let isAuto ← optionalWord "auto"
  word "trait"
  let _ ← name
  let parameters ← generics grammar
  if !isUnsafe && !isAuto && sees "=" (← ahead) then
    marks "="
    traitAliasRest grammar shown parameters
  else traitRest grammar shown parameters

def lastName? : Tree → Option String
  | .node (.type .named) [.path _ names _ _] => names.getLast?
  | .node (.type .qualified) [_, .path _ names _ _] => names.getLast?
  | _ => none

def isNamed : Tree → Bool
  | .node (.type .named) _ => true
  | _ => false

def constMark : Reader Bool := do
  if ← test fun tokens => sees "?" tokens && seesWord "const" (behind tokens) then marks "?"
  optionalWord "const"

def negativeMark : Reader Bool := do
  if ← test fun tokens => sees "!" tokens && !seesGroup .brace (behind tokens) then
    marks "!"
    return true
  else return false

def implHead (grammar : Grammar) : Reader (Option Tree × Tree) := do
  let negative ← negativeMark
  let first ← grammar (.type true)
  if ← optionalWord "for" then return (some first, ← grammar (.type true))
  else if negative then failure
  else return (none, first)

/-- An implementation with a visibility, a constant one, and one of something that is
no trait are not looked into. -/
def implItem (grammar : Grammar) (shown : Tree) : Reader ItemBody := do
  let _ ← optionalWord "default"
  let _ ← optionalWord "unsafe"
  word "impl"
  let parameters ← (do
    if ← test seesGenerics then generics grammar else return none)
  let isConst ← constMark
  let (trait, self) ← implHead grammar
  let predicates ← optionalWhere grammar
  let (attributes, found) ← members grammar .implItem
  if !isInherited shown || isConst || trait.any fun type => !isNamed type then return .unread
  else
    return .read (.implementation (lastName? self))
      (attributes ++ genericsTree parameters predicates :: trait.toList ++ self :: found)

def macroItem : Reader ItemBody := do
  word "macro"
  let _ ← name
  if ← test (seesGroup .parenthesis) then drop 1
  skipGroup .brace
  return .unread

/-- A macro call as an item; a name in front of its arguments is defined by it. -/
def callItem : Reader ItemBody := do
  let found ← plainPath
  let defines ← test seesDefiningCall
  marks "!"
  if defines then drop 1
  let (delimiter, call) ← macroArguments found
  if delimiter ≠ .brace then marks ";"
  return .member [call]

def unsafeItem (grammar : Grammar) (shown : Tree) : Reader ItemBody := do
  let second := behind (← ahead)
  if seesWord "trait" second || (seesWord "auto" second && seesWord "trait" (behind second)) then
    traitItem grammar shown
  else if seesWord "impl" second then implItem grammar shown
  else if seesWord "extern" second && isInherited shown then foreignBlock grammar
  else if seesWord "mod" second then moduleItem grammar shown
  else failure

def itemBody (grammar : Grammar) : Reader ItemBody := do
  let shown ← visibility
  let tokens ← ahead
  let second := behind tokens
  if seesFunction false tokens then functionItem grammar shown
  else if seesWord "extern" tokens then externItem grammar shown
  else if seesWord "use" tokens then useItem shown
  else if seesWord "static" tokens then staticItem grammar shown
  else if seesWord "const" tokens then constantItem grammar shown
  else if seesWord "unsafe" tokens then unsafeItem grammar shown
  else if seesWord "mod" tokens then moduleItem grammar shown
  else if seesWord "type" tokens then typeItem grammar shown
  else if seesWord "struct" tokens then structureItem grammar shown
  else if seesWord "enum" tokens then enumItem grammar shown
  else if seesWord "union" tokens && seesName second then unionItem grammar shown
  else if seesWord "trait" tokens || (seesWord "auto" tokens && seesWord "trait" second) then
    traitItem grammar shown
  else if seesWord "impl" tokens || seesDefault tokens then implItem grammar shown
  else if seesWord "macro" tokens then macroItem
  else if isInherited shown && seesCall tokens then callItem
  else failure

/-- An item, and where its text stands: documentation in front of it does not count. -/
structure Item where
  declared : Declared
  span : Span
  tree : Tree

def lastStop (before after : Tokens) : Nat :=
  (before[before.length - after.length - 1]?.map fun token => token.span.stop).getD 0

def itemAsRead (grammar : Grammar) : Reader Item := do
  let attributes ← outerAttributes grammar
  let before ← ahead
  let found ← itemBody grammar
  let start := ((attributes.find? (!·.isDoc)).map Attribute.start).getD (startOf before)
  return ⟨found.declared, ⟨start, lastStop before (← ahead)⟩,
    found.toTree (attributes.map Attribute.tree)⟩

def itemRule (grammar : Grammar) : Reader Tree := do return (← itemAsRead grammar).tree

/-- What the arguments of a macro call lead to: they are followed if they read as expressions
with commas between them. A call among these is in brackets, so that the depth of brackets
bounds the steps. -/
def followed? (expressions : Reader Tree) : Nat → Tokens → Option Tree
  | 0, _ => none
  | depth + 1, arguments =>
      (whole expressions arguments).map (Tree.follow (followed? expressions depth))

/-- An item at the top of a unit. -/
def item (grammar : Grammar) : Reader Item := do
  let depth := groupDepth (← ahead)
  let found ← itemAsRead grammar
  return { found with tree := found.tree.follow (followed? (grammar .expressions) depth) }

end HttpBinding.Source
