import HttpBinding.Yaml.Scalar.Gap

/-!
Scalars without quotes.
-/
namespace HttpBinding.Yaml.Plain

def isFlowMark (c : Char) : Bool := c = ',' || c = '[' || c = ']' || c = '{' || c = '}'

def seesBadColon (inFlow : Bool) (place : Place) : Bool :=
  inFlow && place.sees ':' && (place.peek? 1).any fun c => isFlowMark c || c = '?'

def endsWord (inFlow : Bool) (place : Place) : Bool :=
  place.seesSpace || (place.sees ':' && place.seesSpaceAt 1)
    || (inFlow && place.seesSome isFlowMark)

def word (inFlow : Bool) : Nat → List Char → Place → Option (List Char × Place)
  | 0, _, _ => none
  | fuel + 1, read, place =>
      if place.seesSpace then some (read, place)
      else if seesBadColon inFlow place then none
      else if endsWord inFlow place then some (read, place)
      else word inFlow fuel (read ++ place.rest.take 1) (place.skip 1)

structure Scanned where
  text : List Char
  /-- The place behind the scalar, and the space behind it. -/
  place : Place
  broken : Bool

/-- Words and the gaps between them. In a block the words of further lines must be
indented. -/
def scan (inFlow : Bool) (indent : Nat) : Nat → List Char → Gap → Place → Option Scanned
  | 0, _, _, _ => none
  | fuel + 1, read, gap, place =>
      let done := some ⟨read, place, !gap.breaks.isEmpty⟩
      if place.seesDocument || place.sees '#' then done
      else do
        let (found, after) ← word inFlow (place.rest.length + 1) [] place
        let (read, gap) :=
          if found.isEmpty then (read, gap) else (read ++ gap.text ++ found, .empty)
        if !(after.seesBlank || after.seesBreak) then
          return ⟨read, after, !gap.breaks.isEmpty⟩
        let (gap, next) ← Gap.scan indent (after.rest.length + 1) gap after
        if !inFlow && next.column < indent then return ⟨read, next, !gap.breaks.isEmpty⟩
        scan inFlow indent fuel read gap next

def at? (inFlow : Bool) (indent : Nat) (place : Place) : Option Scanned :=
  scan inFlow indent (place.rest.length + 1) [] .empty place

end HttpBinding.Yaml.Plain
