import HttpBinding.Assignments
import HttpBinding.Path.Template

/-!
Matching a request path against a template. The number of segments is compared
first, then the segments from left to right.
-/
namespace HttpBinding.Path

inductive Mismatch where
  | segmentCount (expected found : Nat)
  | literal (index : Nat) (expected found : String)
deriving Repr, DecidableEq

namespace Mismatch

def message : Mismatch → String
  | segmentCount expected found => s!"expected a path of {expected} segments, got {found}"
  | literal index expected found => s!"segment {index}: expected '{expected}', got '{found}'"

end Mismatch

def matchFrom : Nat → List (String × String) → Assignments → Except Mismatch Assignments
  | _, [], params => .ok params
  | index, (pattern, segment) :: rest, params =>
      match placeholderName? pattern with
      | some name => matchFrom (index + 1) rest (params.set name segment)
      | none =>
          if segment = pattern then matchFrom (index + 1) rest params
          else .error (.literal index pattern segment)

/-- The value of each placeholder of `template` in `path`. The last one of a name counts. -/
def params (path template : String) : Except Mismatch Assignments :=
  let found := segments path
  let expected := segments template
  if found.length = expected.length then matchFrom 0 (expected.zip found) .empty
  else .error (.segmentCount expected.length found.length)

end HttpBinding.Path
