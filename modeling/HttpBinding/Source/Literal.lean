import HttpBinding.Source.Cursor
import HttpBinding.Source.Token

/-!
Literals of a source unit. A reader gives the place after the literal, or nothing if
none starts there. Fuel bounds the length of the text that a literal spans.
-/
namespace HttpBinding.Source.Literal

def suffix (cursor : Cursor) : Cursor := (plainWord? cursor).getD cursor

/-! Escapes -/

def isOctal (c : Char) : Bool := '0' ≤ c && c ≤ '7'

def charNumber? (cursor : Cursor) : Option Cursor :=
  match cursor.rest with
  | a :: b :: rest => if isOctal a && isHex b then some ⟨cursor.offset + 2, rest⟩ else none
  | _ => none

def byteNumber? (cursor : Cursor) : Option Cursor :=
  match cursor.rest with
  | a :: b :: rest => if isHex a && isHex b then some ⟨cursor.offset + 2, rest⟩ else none
  | _ => none

def nonzeroNumber? (cursor : Cursor) : Option Cursor :=
  if cursor.startsWith "00" then none else byteNumber? cursor

/-- Up to six hexadecimal digits and a closing brace; underscores may follow the
first digit. -/
def bracedDigits? : Nat → Nat → Nat → List Char → Option (Nat × Cursor)
  | offset, count, value, c :: rest =>
      if c = '_' && 0 < count then bracedDigits? (offset + 1) count value rest
      else if c = '\x7d' && 0 < count then
        if value.isValidChar then some (value, ⟨offset + 1, rest⟩) else none
      else match Text.hexValue? c with
        | none => none
        | some digit =>
            if count = 6 then none
            else bracedDigits? (offset + 1) (count + 1) (value * 16 + digit) rest
  | _, _, _, [] => none

def codePoint? (cursor : Cursor) : Option (Nat × Cursor) :=
  match cursor.rest with
  | '{' :: rest => bracedDigits? (cursor.offset + 1) 0 0 rest
  | _ => none

/-- What may stand behind a backslash at the end of a line, up to the next visible
character. `last` is the line end that was read. -/
def continuation? : Nat → Char → Cursor → Option Cursor
  | 0, _, _ => none
  | fuel + 1, last, cursor =>
      let start := if last = '\r' then cursor.eat? "\n" else some cursor
      start.bind fun cursor =>
        match cursor.next? with
        | none => none
        | some (c, after) =>
            if c = ' ' || c = '\t' || c = '\n' || c = '\r' then continuation? fuel c after
            else some cursor

structure Escapes where
  number? : Cursor → Option Cursor
  codePoint? : Cursor → Option Cursor
  zero : Bool
  accepts : Char → Bool

def textEscapes : Escapes where
  number? := charNumber?
  codePoint? cursor := (codePoint? cursor).map (·.2)
  zero := true
  accepts _ := true

def byteEscapes : Escapes where
  number? := byteNumber?
  codePoint? _ := none
  zero := true
  accepts c := c.toNat < 128

def zeroTextEscapes : Escapes where
  number? := nonzeroNumber?
  codePoint? cursor := (codePoint? cursor).bind fun (value, after) =>
    if value = 0 then none else some after
  zero := false
  accepts c := c ≠ '\x00'

def Escapes.isSimple (escapes : Escapes) (c : Char) : Bool :=
  c = 'n' || c = 'r' || c = 't' || c = '\\' || c = '\'' || c = '"' || (c = '0' && escapes.zero)

def escape? (escapes : Escapes) (cursor : Cursor) : Option Cursor :=
  cursor.next?.bind fun (c, after) =>
    if c = 'x' then escapes.number? after
    else if c = 'u' then escapes.codePoint? after
    else if escapes.isSimple c then some after
    else none

def quotedText? (escapes : Escapes) : Nat → Cursor → Option Cursor
  | 0, _ => none
  | fuel + 1, cursor =>
      cursor.next?.bind fun (c, after) =>
        if c = '"' then some (suffix after)
        else if c = '\r' then (after.eat? "\n").bind (quotedText? escapes fuel)
        else if c = '\\' then
          match after.next? with
          | none => none
          | some (e, line) =>
              if e = '\n' || e = '\r' then
                (continuation? fuel e line).bind (quotedText? escapes fuel)
              else (escape? escapes after).bind (quotedText? escapes fuel)
        else if escapes.accepts c then quotedText? escapes fuel after
        else none

def rawTail? (accepts : Char → Bool) (hashes : List Char) : Nat → Cursor → Option Cursor
  | 0, _ => none
  | fuel + 1, cursor =>
      cursor.next?.bind fun (c, after) =>
        if c = '"' && hashes.isPrefixOf after.rest then some (suffix (after.advance hashes.length))
        else if c = '\r' then (after.eat? "\n").bind (rawTail? accepts hashes fuel)
        else if accepts c then rawTail? accepts hashes fuel after
        else none

def rawText? (accepts : Char → Bool) (fuel : Nat) (cursor : Cursor) : Option Cursor :=
  let hashes := cursor.rest.takeWhile (· = '#')
  if 255 < hashes.length then none
  else ((cursor.advance hashes.length).eat? "\"").bind (rawTail? accepts hashes fuel)

def textWith? (escapes : Escapes) (quoted raw : String) (fuel : Nat) (cursor : Cursor) :
    Option Cursor :=
  match cursor.eat? quoted with
  | some start => quotedText? escapes fuel start
  | none => (cursor.eat? raw).bind (rawText? escapes.accepts fuel)

def single? (escapes : Escapes) (opening : String) (cursor : Cursor) : Option Cursor := do
  let start ← cursor.eat? opening
  let (c, after) ← start.next?
  let inside ← if c = '\\' then escape? escapes after
    else if escapes.accepts c then some after
    else none
  let stop ← inside.eat? "'"
  return suffix stop

/-! Numbers -/

/-- Digits, underscores and at most one point, up to an exponent's letter. Gives the
place after them, and whether a point and an exponent were seen. A point before a
word or another point does not belong to the number, which is then no decimal. -/
def mantissa? (point : Bool) : Nat → List Char → Option (Cursor × Bool × Bool)
  | offset, c :: rest =>
      if c.isDigit || c = '_' then mantissa? point (offset + 1) rest
      else if c = '.' && !point then
        if rest.head?.any fun next => next = '.' || isNameStart next then none
        else mantissa? true (offset + 1) rest
      else if c = 'e' || c = 'E' then some (⟨offset + 1, rest⟩, point, true)
      else some (⟨offset, c :: rest⟩, point, false)
  | offset, [] => some (⟨offset, []⟩, point, false)

def exponent? (sign digit : Bool) : Nat → List Char → Option Cursor
  | offset, c :: rest =>
      if (c = '+' || c = '-') && !digit then
        if sign then none else exponent? true digit (offset + 1) rest
      else if c.isDigit then exponent? sign true (offset + 1) rest
      else if c = '_' then exponent? sign digit (offset + 1) rest
      else if digit then some ⟨offset, c :: rest⟩ else none
  | offset, [] => if digit then some ⟨offset, []⟩ else none

def decimalDigits? (cursor : Cursor) : Option Cursor :=
  if cursor.sees Char.isDigit then
    match mantissa? false cursor.offset cursor.rest with
    | none => none
    | some (_, false, false) => none
    | some (after, true, false) => some after
    | some (after, point, true) =>
        match exponent? false false after.offset after.rest with
        | some stop => some stop
        | none =>
            -- the letter was no exponent: the number ends before it
            if point then
              some (cursor.advance (after.offset - 1 - cursor.offset))
            else none
  else none

/-- A word behind the digits is a suffix; nothing else may continue a name there. -/
def ended? (cursor : Cursor) : Option Cursor :=
  let after := suffix cursor
  if after.sees isNameContinue then none else some after

def decimal? (cursor : Cursor) : Option Cursor := (decimalDigits? cursor).bind ended?

def wholeDigits? (base : Nat) (empty : Bool) : Nat → List Char → Option Cursor
  | offset, c :: rest =>
      if c = '_' then
        if empty && base = 10 then none else wholeDigits? base empty (offset + 1) rest
      else match Text.hexValue? c with
        | some digit =>
            if digit < base then wholeDigits? base false (offset + 1) rest
            else if c.isDigit then none
            else if empty then none else some ⟨offset, c :: rest⟩
        | none => if empty then none else some ⟨offset, c :: rest⟩
  | offset, [] => if empty then none else some ⟨offset, []⟩

def wholeStart (cursor : Cursor) : Nat × Cursor :=
  if cursor.startsWith "0x" then (16, cursor.advance 2)
  else if cursor.startsWith "0o" then (8, cursor.advance 2)
  else if cursor.startsWith "0b" then (2, cursor.advance 2)
  else (10, cursor)

def whole? (cursor : Cursor) : Option Cursor :=
  let (base, start) := wholeStart cursor
  (wholeDigits? base true start.offset start.rest).bind ended?

def baseAndDigits (text : List Char) : Nat × List Char :=
  match text.filter (· ≠ '_') with
  | '0' :: 'x' :: digits => (16, digits)
  | '0' :: 'o' :: digits => (8, digits)
  | '0' :: 'b' :: digits => (2, digits)
  | digits => (10, digits)

def value? (text : String) : Option Nat :=
  let (base, digits) := baseAndDigits text.toList
  if digits.isEmpty then none
  else digits.foldlM (fun value c =>
    (Text.hexValue? c).bind fun digit =>
      if digit < base then some (value * base + digit) else none) 0

def read? (fuel : Nat) (cursor : Cursor) : Option (LiteralKind × Cursor) :=
  ((textWith? textEscapes "\"" "r" fuel cursor).map (LiteralKind.text, ·))
    <|> ((textWith? byteEscapes "b\"" "br" fuel cursor).map (LiteralKind.byteText, ·))
    <|> ((textWith? zeroTextEscapes "c\"" "cr" fuel cursor).map (LiteralKind.zeroText, ·))
    <|> ((single? byteEscapes "b'" cursor).map (LiteralKind.byte, ·))
    <|> ((single? textEscapes "'" cursor).map (LiteralKind.char, ·))
    <|> ((decimal? cursor).map (LiteralKind.decimal, ·))
    <|> ((whole? cursor).map (LiteralKind.whole, ·))

end HttpBinding.Source.Literal
