/-!
A place in a YAML text, and the classes of characters that matter there. Lines and
columns are counted from zero, in characters.
-/
namespace HttpBinding.Yaml

def isAllowed (c : Char) : Bool :=
  let code := c.toNat
  code == 0x09 || code == 0x0A || code == 0x0D || (0x20 ≤ code && code ≤ 0x7E) || code == 0x85
    || (0xA0 ≤ code && code ≤ 0xD7FF) || (0xE000 ≤ code && code ≤ 0xFFFD) || 0x10000 ≤ code

def isBlank (c : Char) : Bool := c = ' ' || c = '\t'

def isBreak (c : Char) : Bool :=
  let code := c.toNat
  code == 0x0A || code == 0x0D || code == 0x85 || code == 0x2028 || code == 0x2029

def isWordChar (c : Char) : Bool := c.isAlphanum || c = '_' || c = '-'

structure Place where
  index : Nat
  line : Nat
  column : Nat
  rest : List Char
deriving Repr, DecidableEq

namespace Place

def start (text : List Char) : Place := ⟨0, 0, 0, text⟩

def atEnd (place : Place) : Bool := place.rest.isEmpty

def peek? (place : Place) (ahead : Nat) : Option Char := place.rest[ahead]?

def sees (place : Place) (c : Char) : Bool := place.peek? 0 == some c

def seesAt (place : Place) (ahead : Nat) (c : Char) : Bool := place.peek? ahead == some c

def seesSome (place : Place) (holds : Char → Bool) : Bool := (place.peek? 0).any holds

def seesBlank (place : Place) : Bool := place.seesSome isBlank

def seesBreak (place : Place) : Bool := place.seesSome isBreak

def seesSpaceAt (place : Place) (ahead : Nat) : Bool :=
  match place.peek? ahead with
  | some c => isBlank c || isBreak c
  | none => true

def seesSpace (place : Place) : Bool := place.seesSpaceAt 0

def skip (place : Place) (count : Nat) : Place :=
  { place with
    index := place.index + count
    column := place.column + count
    rest := place.rest.drop count }

def takeWhile (holds : Char → Bool) (place : Place) : List Char × Place :=
  let taken := place.rest.takeWhile holds
  (taken, place.skip taken.length)

def skipWhile (holds : Char → Bool) (place : Place) : Place := (place.takeWhile holds).2

def takeLine (place : Place) : List Char × Place := place.takeWhile fun c => !isBreak c

def skipLine (place : Place) : Place := place.takeLine.2

/-- Passes a line break, of which a pair of carriage return and line feed is one. All
but the two separators of their own are kept as a line feed. -/
def lineBreak? (place : Place) : Option (Char × Place) :=
  let next := fun (count : Nat) (kept : Char) =>
    some (kept, ⟨place.index + count, place.line + 1, 0, place.rest.drop count⟩)
  match place.rest with
  | '\r' :: '\n' :: _ => next 2 '\n'
  | c :: _ =>
      if !isBreak c then none
      else if 0x2028 ≤ c.toNat then next 1 c
      else next 1 '\n'
  | [] => none

def skipBreak (place : Place) : Place :=
  match place.lineBreak? with
  | some (_, after) => after
  | none => place

def seesIndicator (place : Place) (c : Char) : Bool :=
  place.column == 0 && place.sees c && place.seesAt 1 c && place.seesAt 2 c
    && place.seesSpaceAt 3

def seesDocument (place : Place) : Bool := place.seesIndicator '-' || place.seesIndicator '.'

def endOfLine? (place : Place) : Option Place :=
  let place := place.skipWhile isBlank
  let place := if place.sees '#' then place.skipLine else place
  if place.atEnd || place.seesBreak then some place.skipBreak else none

end Place
end HttpBinding.Yaml
