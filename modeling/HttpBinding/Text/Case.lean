import HttpBinding.Text.LetterTables
import HttpBinding.Text.CaseTables
import HttpBinding.Text.NumberTables

/-!
Letters, numbers, capitals and small letters, and the full case mappings of one character.
A mapping may give several characters: the capital form of `ß` is `SS`.
-/
namespace HttpBinding.Text

def isAlphabetic (c : Char) : Bool :=
  if c.toNat < 128 then c.isAlpha else inRanges alphabeticRanges c.toNat

def isNumeric (c : Char) : Bool :=
  if c.toNat < 128 then c.isDigit else inRanges numberRanges c.toNat

def isAlphanumeric (c : Char) : Bool := isAlphabetic c || isNumeric c

def isUppercase (c : Char) : Bool :=
  if c.toNat < 128 then c.isUpper else inRuns uppercaseRuns c.toNat

def isLowercase (c : Char) : Bool :=
  if c.toNat < 128 then c.isLower else inRuns lowercaseRuns c.toNat

def mapped (shifts : List Shift) (expansions : List (Nat × List Nat)) (c : Char) : List Char :=
  match expansions.lookup c.toNat with
  | some codes => codes.map Char.ofNat
  | none => [(shifted? shifts c.toNat).getD c]

def lowered (c : Char) : List Char :=
  if c.toNat < 128 then [c.toLower] else mapped loweringShifts loweringExpansions c

def raised (c : Char) : List Char :=
  if c.toNat < 128 then [c.toUpper] else mapped raisingShifts raisingExpansions c

def raiseAll (text : List Char) : List Char := text.flatMap raised

end HttpBinding.Text
