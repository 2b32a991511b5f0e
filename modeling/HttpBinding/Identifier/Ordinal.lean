/-!
Numbers spelled digit by digit, for use inside an identifier: 23 is `TwoThree`.
-/
namespace HttpBinding.Identifier

def digitName : Nat → String
  | 0 => "Zero"
  | 1 => "One"
  | 2 => "Two"
  | 3 => "Three"
  | 4 => "Four"
  | 5 => "Five"
  | 6 => "Six"
  | 7 => "Seven"
  | 8 => "Eight"
  | _ => "Nine"

def decimalDigits (n : Nat) : List Nat :=
  if n < 10 then [n] else decimalDigits (n / 10) ++ [n % 10]
termination_by n

def ordinal (n : Nat) : String := String.join ((decimalDigits n).map digitName)

def leadingDigit? : List Char → Option (Nat × List Char)
  | 'Z' :: 'e' :: 'r' :: 'o' :: rest => some (0, rest)
  | 'O' :: 'n' :: 'e' :: rest => some (1, rest)
  | 'T' :: 'w' :: 'o' :: rest => some (2, rest)
  | 'T' :: 'h' :: 'r' :: 'e' :: 'e' :: rest => some (3, rest)
  | 'F' :: 'o' :: 'u' :: 'r' :: rest => some (4, rest)
  | 'F' :: 'i' :: 'v' :: 'e' :: rest => some (5, rest)
  | 'S' :: 'i' :: 'x' :: rest => some (6, rest)
  | 'S' :: 'e' :: 'v' :: 'e' :: 'n' :: rest => some (7, rest)
  | 'E' :: 'i' :: 'g' :: 'h' :: 't' :: rest => some (8, rest)
  | 'N' :: 'i' :: 'n' :: 'e' :: rest => some (9, rest)
  | _ => none

def readDigits? : Nat → Nat → List Char → Option Nat
  | _, value, [] => some value
  | 0, _, _ :: _ => none
  | fuel + 1, value, text =>
      (leadingDigit? text).bind fun (digit, rest) => readDigits? fuel (value * 10 + digit) rest

def readOrdinal? (text : String) : Option Nat :=
  if text.isEmpty then none else readDigits? text.length 0 text.toList

/-- An unsigned decimal number below `2 ^ 64`; one plus sign and leading zeros are
allowed. -/
def readUnsigned? (text : String) : Option Nat :=
  let digits := match text.toList with
    | '+' :: rest => rest
    | plain => plain
  if digits.isEmpty || !digits.all Char.isDigit then none
  else
    let value := digits.foldl (fun value c => value * 10 + (c.toNat - 0x30)) 0
    if value < Nat.pow 2 64 then some value else none

end HttpBinding.Identifier
