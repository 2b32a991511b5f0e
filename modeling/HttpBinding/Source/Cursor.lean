import HttpBinding.Source.NameTables
import HttpBinding.Text.Blank
import HttpBinding.Text.Quoted

/-!
A place in the text of a unit, and the character classes that its tokens are made of.
-/
namespace HttpBinding.Source

structure Cursor where
  offset : Nat
  rest : List Char
deriving Repr, DecidableEq

namespace Cursor

def advance (cursor : Cursor) (count : Nat) : Cursor :=
  ⟨cursor.offset + count, cursor.rest.drop count⟩

def startsWith (cursor : Cursor) (word : String) : Bool := word.toList.isPrefixOf cursor.rest

def eat? (cursor : Cursor) (word : String) : Option Cursor :=
  if cursor.startsWith word then some (cursor.advance word.length) else none

def next? (cursor : Cursor) : Option (Char × Cursor) :=
  match cursor.rest with
  | [] => none
  | c :: rest => some (c, ⟨cursor.offset + 1, rest⟩)

def sees (cursor : Cursor) (holds : Char → Bool) : Bool := cursor.rest.head?.any holds

def between (first last : Cursor) : List Char := first.rest.take (last.offset - first.offset)

def skipWhile (holds : Char → Bool) (cursor : Cursor) : Cursor :=
  cursor.advance (cursor.rest.takeWhile holds).length

end Cursor

def isNameStart (c : Char) : Bool :=
  if c.toNat < 128 then c.isAlpha || c = '_' else Text.inRanges nameStartRanges c.toNat

def isNameContinue (c : Char) : Bool :=
  if c.toNat < 128 then c.isAlphanum || c = '_' else Text.inRanges nameContinueRanges c.toNat

/-- Blanks and the two direction marks. -/
def isBlank (c : Char) : Bool :=
  Text.isBlank c || c.toNat = 0x200E || c.toNat = 0x200F

def isHex (c : Char) : Bool := (Text.hexValue? c).isSome

def plainWord? (cursor : Cursor) : Option Cursor :=
  if cursor.sees isNameStart then some (cursor.skipWhile isNameContinue) else none

def notRaw : List String := ["_", "super", "self", "Self", "crate"]

/-- A word; `r#` in front of one makes it raw, which some words cannot be. -/
def anyWord? (cursor : Cursor) : Option Cursor :=
  match cursor.eat? "r#" with
  | none => plainWord? cursor
  | some start =>
      (plainWord? start).bind fun after =>
        if String.ofList (start.between after) ∈ notRaw then none else some after

end HttpBinding.Source
