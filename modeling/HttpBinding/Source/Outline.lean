import HttpBinding.Source.Grammar
import HttpBinding.Source.Lexer
import HttpBinding.Source.Position

/-!
The items at the top of a source text, and what they refer to.
-/
namespace HttpBinding.Source

def withoutMark : List Char → List Char
  | c :: rest => if c = Lexer.byteOrderMark then rest else c :: rest
  | [] => []

/-- A first line that names an interpreter: `#!`, but not the start of an attribute. -/
def startsWithInterpreter : List Char → Bool
  | '#' :: '!' :: rest => !(Lexer.skipBlank (rest.length + 1) ⟨0, rest⟩).startsWith "["
  | _ => false

/-- The part of a text that holds the items: behind a byte order mark, and from the end
of a line that names an interpreter. -/
def content (text : List Char) : List Char :=
  let unmarked := withoutMark text
  if startsWithInterpreter unmarked then unmarked.dropWhile (· ≠ '\n') else unmarked

def items? (text : List Char) : Option (List Item) :=
  let content := content text
  (Lexer.tokens? content).bind (Reader.whole (items (grammarFor content)))

/-- Where an item stands. A byte order mark is not counted, so that it shifts what
stands on the first line. -/
def Item.positions (text : List Char) (item : Item) : Position × Position :=
  let content := content text
  let shown := withoutMark text
  let before := shown.length - content.length
  (.ofOffset shown (before + item.span.start), .ofOffset shown (before + item.span.stop))

def Item.excerpt (text : List Char) (item : Item) : List Char :=
  let (start, stop) := item.positions text
  slice text start stop

/-! Names -/

def findFunction? (items : List Item) (name : String) : Option Item :=
  items.find? fun item => item.declared = .function name

def findType? (items : List Item) (name : String) : Option Item :=
  items.find? fun item => item.declared = .type name

def implementationsOf (items : List Item) (name : String) : List Item :=
  items.filter fun item => item.declared = .implementation (some name)

inductive Reference where
  | function (name : String)
  | type (name : String)
deriving Repr, DecidableEq

/-- What a path refers to: a name on its own to a function, any other first name to a
type. -/
def resolve? (items : List Item) (path : PathUse) : Option Reference :=
  if path.rooted then none
  else if path.single && (findFunction? items path.first).isSome then
    some (.function path.first)
  else if (findType? items path.first).isSome then some (.type path.first)
  else none

/-- The items that a reference stands for: a type comes with its implementations. -/
def Reference.items (items : List Item) : Reference → List Item
  | function name => (findFunction? items name).toList
  | type name =>
      match findType? items name with
      | some item => item :: implementationsOf items name
      | none => []

def Reference.uses (items : List Item) (reference : Reference) : List Reference :=
  ((reference.items items).flatMap fun item => item.tree.paths).filterMap (resolve? items)

end HttpBinding.Source
