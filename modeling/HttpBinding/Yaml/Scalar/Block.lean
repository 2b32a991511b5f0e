import HttpBinding.Yaml.Place

/-!
Block scalars: indented lines, kept as they are or folded into paragraphs.
-/
namespace HttpBinding.Yaml.Block

inductive Chomping where
  | strip | clip | keep
deriving Repr, DecidableEq

def chomping? (place : Place) : Option Chomping :=
  if place.sees '+' then some .keep else if place.sees '-' then some .strip else none

structure Header where
  chomping : Chomping
  increment : Option Nat
deriving Repr, DecidableEq

def increment? (place : Place) : Option Nat :=
  match place.peek? 0 with
  | some c => if c.isDigit then some (c.toNat - '0'.toNat) else none
  | none => none

def header? (place : Place) : Option (Header × Place) := do
  let (early, place) := match chomping? place with
    | some found => (some found, place.skip 1)
    | none => (none, place)
  let (increment, place) := match increment? place with
    | some found => (some found, place.skip 1)
    | none => (none, place)
  if increment = some 0 then none
  else
    match early, increment, chomping? place with
    | none, some _, some late => return (⟨late, increment⟩, place.skip 1)
    | _, _, _ => return (⟨early.getD .clip, increment⟩, place)

def skipIndent (indent : Option Nat) (place : Place) : Place :=
  let spaces := (place.rest.takeWhile (· = ' ')).length
  match indent with
  | some limit => place.skip (min spaces (limit - place.column))
  | none => place.skip spaces

/-- The empty lines from a place on: their breaks, and the widest indentation. A tab
may not stand in an indentation. -/
def emptyLines (indent : Option Nat) :
    Nat → List Char → Nat → Place → Option (List Char × Nat × Place)
  | 0, _, _, _ => none
  | fuel + 1, breaks, widest, place =>
      let place := skipIndent indent place
      let widest := max widest place.column
      if place.sees '\t' && indent.all (place.column < ·) then none
      else
        match place.lineBreak? with
        | some (kept, after) => emptyLines indent fuel (breaks ++ [kept]) widest after
        | none => some (breaks, widest, place)

def emptyLinesAt? (indent : Option Nat) (place : Place) : Option (List Char × Nat × Place) :=
  emptyLines indent (place.rest.length + 1) [] 0 place

/-- The lines that were read: their text, the break behind the last one, the breaks of
the empty lines behind that, and whether the last line starts with a blank. -/
structure Lines where
  text : List Char
  lineBreak : List Char
  breaks : List Char
  blank : Bool

/-- What joins two lines. Lines are folded unless one of them starts with a blank. -/
def joint (literal : Bool) (lines : Lines) (blank : Bool) : List Char :=
  if !literal && lines.lineBreak = ['\n'] && !lines.blank && !blank then
    (if lines.breaks.isEmpty then [' '] else lines.breaks)
  else lines.lineBreak ++ lines.breaks

def scanLines (literal : Bool) (indent : Nat) : Nat → Lines → Place → Option (Lines × Place)
  | 0, _, _ => none
  | fuel + 1, lines, place =>
      if place.column ≠ indent || place.atEnd then some (lines, place)
      else do
        let blank := place.seesBlank
        let (line, after) := place.takeLine
        let text := lines.text ++ joint literal lines blank ++ line
        let (lineBreak, after) := match after.lineBreak? with
          | some (kept, next) => ([kept], next)
          | none => ([], after)
        let (breaks, _, next) ← emptyLinesAt? (some indent) after
        scanLines literal indent fuel ⟨text, lineBreak, breaks, blank⟩ next

def chomp (chomping : Chomping) (lines : Lines) : List Char :=
  match chomping with
  | .strip => lines.text
  | .clip => lines.text ++ lines.lineBreak
  | .keep => lines.text ++ lines.lineBreak ++ lines.breaks

/-- The indentation of a scalar that does not tell it: that of its first line, but more
than that of the block around it. -/
def foundIndent (outer : Int) (widest : Nat) : Nat := max (max widest (outer + 1).toNat) 1

def at? (literal : Bool) (outer : Int) (place : Place) : Option (List Char × Place) := do
  let (header, place) ← header? (place.skip 1)
  let place ← place.endOfLine?
  let told := header.increment.map fun increment => increment + outer.toNat
  let (breaks, widest, place) ← emptyLinesAt? told place
  let indent := told.getD (foundIndent outer widest)
  let empty : Lines := ⟨[], [], breaks, false⟩
  let (lines, place) ← scanLines literal indent (place.rest.length + 1) empty place
  return (chomp header.chomping lines, place)

end HttpBinding.Yaml.Block
