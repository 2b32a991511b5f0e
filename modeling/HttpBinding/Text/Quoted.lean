import HttpBinding.Text.VisibleTables

/-!
Quoted literals: how a character or a text is written between quotes in generated
code, and what such a literal denotes. Escapes are `\0`, `\t`, `\r`, `\n`, the
backslash, the quote in use, and `\u{hex}` for what has no glyph of its own.
-/
namespace HttpBinding.Text

def isGraphemeExtend (c : Char) : Bool :=
  if c.toNat < 128 then false else inRanges graphemeExtendRanges c.toNat

def isFiller (c : Char) : Bool := inRanges fillerRanges c.toNat

def isPrintable (c : Char) : Bool :=
  if c.toNat < 128 then 0x20 ≤ c.toNat && c.toNat < 0x7F
  else !inRanges unprintableRanges c.toNat

def hexDigit (value : Nat) : Char :=
  if value < 10 then Char.ofNat (0x30 + value) else Char.ofNat (0x57 + value)

def hexDigits (value : Nat) : List Char :=
  if value < 16 then [hexDigit value]
  else hexDigits (value / 16) ++ [hexDigit (value % 16)]
termination_by value

def byNumber (c : Char) : List Char :=
  ['\\', 'u', '{'] ++ hexDigits c.toNat ++ ['}']

def escaped (quote c : Char) : List Char :=
  if c = '\x00' then ['\\', '0']
  else if c = '\t' then ['\\', 't']
  else if c = '\r' then ['\\', 'r']
  else if c = '\n' then ['\\', 'n']
  else if c = '\\' then ['\\', '\\']
  else if c = quote then ['\\', quote]
  else if isGraphemeExtend c || isFiller c then byNumber c
  else if isPrintable c then [c]
  else byNumber c

def quotedText (text : String) : String :=
  String.ofList ('"' :: text.toList.flatMap (escaped '"') ++ ['"'])

def quotedChar (c : Char) : String :=
  String.ofList ('\'' :: escaped '\'' c ++ ['\''])

/-! Reading a literal back. -/

def hexValue? (c : Char) : Option Nat :=
  if '0' ≤ c ∧ c ≤ '9' then some (c.toNat - 0x30)
  else if 'a' ≤ c ∧ c ≤ 'f' then some (c.toNat - 0x57)
  else if 'A' ≤ c ∧ c ≤ 'F' then some (c.toNat - 0x37)
  else none

def hexNumber? (digits : List Char) : Option Nat :=
  if digits.isEmpty || 6 < digits.length then none
  else digits.foldlM (fun value c => (hexValue? c).map (value * 16 + ·)) 0

/-- The character with the number that is written up to a closing brace, and what
follows the brace. -/
def numbered? (text : List Char) : Option (Char × List Char) :=
  match text.dropWhile (· ≠ '}') with
  | [] => none
  | _ :: after =>
      (hexNumber? (text.takeWhile (· ≠ '}'))).bind fun value =>
        if value.isValidChar then some (Char.ofNat value, after) else none

def unescape? : List Char → Option (Char × List Char)
  | '0' :: rest => some ('\x00', rest)
  | 't' :: rest => some ('\t', rest)
  | 'r' :: rest => some ('\r', rest)
  | 'n' :: rest => some ('\n', rest)
  | '\\' :: rest => some ('\\', rest)
  | '\'' :: rest => some ('\'', rest)
  | '"' :: rest => some ('"', rest)
  | 'u' :: '{' :: rest => numbered? rest
  | _ => none

def unquoteUntil? (quote : Char) : Nat → List Char → Option (List Char)
  | 0, _ => none
  | _ + 1, [] => none
  | fuel + 1, c :: rest =>
      if c = quote then (if rest.isEmpty then some [] else none)
      else if c = '\\' then
        (unescape? rest).bind fun (denoted, after) =>
          (unquoteUntil? quote fuel after).map (denoted :: ·)
      else (unquoteUntil? quote fuel rest).map (c :: ·)

def unquoteText? (literal : String) : Option String :=
  match literal.toList with
  | '"' :: rest => (unquoteUntil? '"' (rest.length + 1) rest).map String.ofList
  | _ => none

def unquoteChar? (literal : String) : Option Char :=
  match literal.toList with
  | '\'' :: rest =>
      match unquoteUntil? '\'' (rest.length + 1) rest with
      | some [c] => some c
      | _ => none
  | _ => none

end HttpBinding.Text
