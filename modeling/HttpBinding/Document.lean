/-!
The part of a text that could be read as a tree of lists and objects. Reading may
break off: a list or object then lacks its end. A damaged value is well-formed, but
may only stand where nobody looks at it. A reference stands for a value that is kept
elsewhere.
-/
namespace HttpBinding

/-- Whether a leaf stands for a value or for "not given". -/
inductive Presence where
  | given
  | absent
  | contradictory
deriving Repr, DecidableEq

/-- What a leaf can be read as. A blank leaf also stands for an empty list and an
empty object. -/
structure Leaf where
  text : Option String
  flag : Option Bool
  presence : Presence
  blank : Bool
deriving Repr, DecidableEq

namespace Leaf

def ofText (text : String) : Leaf := ⟨some text, none, .given, false⟩
def ofFlag (flag : Bool) : Leaf := ⟨none, some flag, .given, false⟩
def null : Leaf := ⟨none, none, .absent, false⟩
def number : Leaf := ⟨none, none, .given, false⟩

end Leaf

inductive Document where
  | leaf (leaf : Leaf)
  | list (items : List Document) (closed : Bool)
  | object (entries : List (Document × Document)) (closed : Bool)
  | reference (target : Nat)
  | damaged
  | broken
deriving Repr

namespace Document

mutual

def isComplete : Document → Bool
  | leaf _ => true
  | list items closed => closed && allComplete items
  | object entries closed => closed && entriesComplete entries
  | reference _ => true
  | damaged => true
  | broken => false

def allComplete : List Document → Bool
  | [] => true
  | item :: rest => isComplete item && allComplete rest

def entriesComplete : List (Document × Document) → Bool
  | [] => true
  | (_, item) :: rest => isComplete item && entriesComplete rest

end
end Document
end HttpBinding
