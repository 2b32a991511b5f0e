/-!
Sets and shifts of code points, kept as short tables of evenly spaced runs.
-/
namespace HttpBinding.Text

/-- The code points `first`, `first + step`, ... up to `last`. -/
structure Run where
  first : Nat
  last : Nat
  step : Nat
deriving Repr, DecidableEq

namespace Run

def covers (run : Run) (code : Nat) : Bool :=
  run.first ≤ code && code ≤ run.last && (code - run.first) % run.step == 0

end Run

/-- A run whose code points all move by the same distance. -/
structure Shift where
  run : Run
  distance : Int
deriving Repr, DecidableEq

def shifted? (shifts : List Shift) (code : Nat) : Option Char :=
  (shifts.find? fun shift => shift.run.covers code).map fun shift =>
    Char.ofNat (Int.toNat (code + shift.distance))

def inRuns (runs : List Run) (code : Nat) : Bool :=
  runs.any fun run => run.covers code

def inRanges (ranges : List (Nat × Nat)) (code : Nat) : Bool :=
  ranges.any fun range => range.1 ≤ code && code ≤ range.2

end HttpBinding.Text
