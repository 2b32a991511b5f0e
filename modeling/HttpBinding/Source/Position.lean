/-!
Places in a text: by the number of characters in front of them, or by line and column.
-/
namespace HttpBinding.Source

/-- Lines count from one, columns from zero. -/
structure Position where
  line : Nat
  column : Nat
deriving Repr, DecidableEq

namespace Position

def first : Position := ⟨1, 0⟩

def step (position : Position) (c : Char) : Position :=
  if c = '\n' then ⟨position.line + 1, 0⟩ else ⟨position.line, position.column + 1⟩

def ofOffset (text : List Char) (count : Nat) : Position := (text.take count).foldl step first

def lineStart? : Nat → List Char → Option Nat
  | 0, _ => some 0
  | _ + 1, [] => none
  | count + 1, c :: rest =>
      (lineStart? (if c = '\n' then count else count + 1) rest).map (· + 1)

/-- The number of characters in front of a position. Columns run on into the next
lines; what lies behind the end counts as the end. -/
def toOffset (text : List Char) (position : Position) : Nat :=
  match lineStart? (position.line - 1) text with
  | some start => min (start + position.column) text.length
  | none => text.length

end Position

def slice (text : List Char) (start stop : Position) : List Char :=
  let start := start.toOffset text
  (text.drop start).take (stop.toOffset text - start)

end HttpBinding.Source
