import HttpBinding.Yaml.Place

/-!
The space between the words of a scalar. Blanks on one line are kept; a line break
becomes a space, and one of several breaks is dropped.
-/
namespace HttpBinding.Yaml

/-- Blanks in front of the first line break, and the breaks. -/
structure Gap where
  blanks : List Char
  breaks : List Char
deriving Repr, DecidableEq

namespace Gap

def fold : List Char → List Char
  | ['\n'] => [' ']
  | '\n' :: more => more
  | breaks => breaks

def text (gap : Gap) : List Char :=
  if gap.breaks.isEmpty then gap.blanks else fold gap.breaks

/-- The gap from a place on. Behind a line break no tab may stand in a column before
`indent`. -/
def scan (indent : Nat) : Nat → Gap → Place → Option (Gap × Place)
  | 0, _, _ => none
  | fuel + 1, gap, place =>
      match place.lineBreak? with
      | some (kept, after) => scan indent fuel { gap with breaks := gap.breaks ++ [kept] } after
      | none =>
          match place.peek? 0 with
          | some c =>
              if !isBlank c then some (gap, place)
              else if gap.breaks.isEmpty then
                scan indent fuel { gap with blanks := gap.blanks ++ [c] } (place.skip 1)
              else if c = '\t' && place.column < indent then none
              else scan indent fuel gap (place.skip 1)
          | none => some (gap, place)

def empty : Gap := ⟨[], []⟩

def at? (indent : Nat) (place : Place) : Option (Gap × Place) :=
  scan indent (place.rest.length + 1) empty place

end Gap
end HttpBinding.Yaml
