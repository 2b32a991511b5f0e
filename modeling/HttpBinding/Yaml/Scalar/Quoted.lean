import HttpBinding.Text.Quoted
import HttpBinding.Yaml.Scalar.Gap

/-!
Scalars in quotes. In single quotes a quote is written twice; in double quotes a
backslash starts an escape.
-/
namespace HttpBinding.Yaml.Quoted

def escapes : List (Char × Nat) :=
  [('0', 0x00), ('a', 0x07), ('b', 0x08), ('t', 0x09), ('\t', 0x09), ('n', 0x0A), ('v', 0x0B),
    ('f', 0x0C), ('r', 0x0D), ('e', 0x1B), (' ', 0x20), ('"', 0x22), ('/', 0x2F), ('\\', 0x5C),
    ('N', 0x85), ('_', 0xA0), ('L', 0x2028), ('P', 0x2029)]

def numbered : List (Char × Nat) := [('x', 2), ('u', 4), ('U', 8)]

def hexNumber? (count : Nat) (digits : List Char) : Option Nat :=
  let digits := digits.take count
  if digits.length = count then
    digits.foldlM (fun value digit => (Text.hexValue? digit).map (value * 16 + ·)) 0
  else none

def character? (code : Nat) : Option Char :=
  if code.isValidChar then some (Char.ofNat code) else none

def escape? (place : Place) : Option (Char × Place) := do
  let mark ← place.peek? 0
  match escapes.lookup mark with
  | some code => return (Char.ofNat code, place.skip 1)
  | none =>
      let count ← numbered.lookup mark
      let code ← hexNumber? count (place.rest.drop 1)
      return (← character? code, place.skip (1 + count))

/-- Characters up to a space or the closing quote. The flag tells whether an escaped
line break ended them. -/
def word (quote : Char) : Nat → List Char → Place → Option (List Char × Bool × Place)
  | 0, _, _ => none
  | fuel + 1, read, place =>
      if place.seesSpace then some (read, false, place)
      else if quote = '\'' && place.sees quote && place.seesAt 1 quote then
        word quote fuel (read ++ [quote]) (place.skip 2)
      else if place.sees quote then some (read, false, place)
      else if quote = '"' && place.sees '\\' then
        match (place.skip 1).lineBreak? with
        | some (_, after) => some (read, true, after)
        | none =>
            (escape? (place.skip 1)).bind fun (c, after) => word quote fuel (read ++ [c]) after
      else word quote fuel (read ++ place.rest.take 1) (place.skip 1)

/-- What stands for a gap. Behind an escaped line break all further breaks are kept. -/
def gapText (continued : Bool) (gap : Gap) : List Char :=
  if continued then gap.breaks else gap.text

def gap? (continued : Bool) (place : Place) : Option (Gap × Place) :=
  Gap.at? 0 (if continued then place.skipWhile isBlank else place)

/-- A scalar behind its opening quote. A document cannot start or end inside. -/
def scan (quote : Char) : Nat → List Char → Place → Option (List Char × Place)
  | 0, _, _ => none
  | fuel + 1, read, place =>
      if place.seesDocument || place.atEnd then none
      else do
        let (found, continued, after) ← word quote (place.rest.length + 1) [] place
        let read := read ++ found
        if after.sees quote then return (read, after.skip 1)
        let (gap, next) ← gap? continued after
        scan quote fuel (read ++ gapText continued gap) next

def at? (quote : Char) (place : Place) : Option (List Char × Place) :=
  scan quote (place.rest.length + 1) [] (place.skip 1)

end HttpBinding.Yaml.Quoted
