import HttpBinding.Decimal.Binary
import HttpBinding.Document
import HttpBinding.Text.Quoted

/-!
Reading JSON text as a tree. Each reader gives the tree it has seen and, unless the
text breaks off there, the rest of the text. Fuel is the length of the text: every
level of nesting consumes a bracket.
-/
namespace HttpBinding.Json

open Text (hexValue?)

/-- What was read, and what follows unless the text broke off. -/
abbrev Partial (α : Type) := α × Option (List Char)

def isBlank (c : Char) : Bool := c = ' ' || c = '\n' || c = '\t' || c = '\r'

def skipBlank (text : List Char) : List Char := text.dropWhile isBlank

/-! Text in quotes. Its content is `none` if an escape names half of a pair. -/

def hexQuad? : List Char → Option (Nat × List Char)
  | a :: b :: c :: d :: rest => do
      let a ← hexValue? a
      let b ← hexValue? b
      let c ← hexValue? c
      let d ← hexValue? d
      return (((a * 16 + b) * 16 + c) * 16 + d, rest)
  | _ => none

def simpleEscape? : Char → Option Char
  | '"' => some '"'
  | '\\' => some '\\'
  | '/' => some '/'
  | 'b' => some '\x08'
  | 'f' => some '\x0c'
  | 'n' => some '\n'
  | 'r' => some '\r'
  | 't' => some '\t'
  | _ => none

def isHighHalf (code : Nat) : Bool := 0xD800 ≤ code && code < 0xDC00
def isLowHalf (code : Nat) : Bool := 0xDC00 ≤ code && code < 0xE000

inductive Unit where
  | char (c : Char)
  | half (code : Nat)
  | close

def nextUnit? : List Char → Option (Unit × List Char)
  | '"' :: rest => some (.close, rest)
  | '\\' :: 'u' :: rest =>
      (hexQuad? rest).map fun (code, after) =>
        if isHighHalf code || isLowHalf code then (.half code, after)
        else (.char (Char.ofNat code), after)
  | '\\' :: c :: rest => (simpleEscape? c).map fun denoted => (.char denoted, rest)
  | c :: rest => if c.toNat < 0x20 || c = '\\' then none else some (.char c, rest)
  | [] => none

def units? : Nat → List Char → Option (List Unit × List Char)
  | 0, _ => none
  | fuel + 1, text => do
      match ← nextUnit? text with
      | (.close, rest) => return ([], rest)
      | (unit, rest) =>
          let (later, after) ← units? fuel rest
          return (unit :: later, after)

/-- Joins pairs of halves; a half on its own leaves no text. -/
def decode? : List Unit → Option (List Char)
  | [] => some []
  | .char c :: rest => (decode? rest).map (c :: ·)
  | .half high :: .half low :: rest =>
      if isHighHalf high && isLowHalf low then
        (decode? rest).map (Char.ofNat (0x10000 + (high - 0xD800) * 0x400 + (low - 0xDC00)) :: ·)
      else none
  | .half _ :: _ => none
  | .close :: _ => none

def text? (text : List Char) : Option (Option String × List Char) :=
  (units? (text.length + 1) text).map fun (units, rest) =>
    ((decode? units).map String.ofList, rest)

/-! Numbers. Only their form and their size matter. -/

structure Number where
  whole : List Char
  fraction : List Char
  exponentNegative : Bool
  exponent : List Char

def digitsValue (digits : List Char) : Nat :=
  digits.foldl (fun value c => value * 10 + (c.toNat - 0x30)) 0

def takeDigits (text : List Char) : List Char × List Char :=
  (text.takeWhile Char.isDigit, text.dropWhile Char.isDigit)

def wholePart? (text : List Char) : Option (List Char × List Char) :=
  match takeDigits text with
  | ([], _) => none
  | ('0' :: _ :: _, _) => none
  | parts => some parts

def fractionPart? : List Char → Option (List Char × List Char)
  | '.' :: rest =>
      match takeDigits rest with
      | ([], _) => none
      | parts => some parts
  | rest => some ([], rest)

def exponentPart? : List Char → Option (Bool × List Char × List Char)
  | c :: rest =>
      if c = 'e' || c = 'E' then
        let (negative, digits) := match rest with
          | '+' :: digits => (false, digits)
          | '-' :: digits => (true, digits)
          | digits => (false, digits)
        match takeDigits digits with
        | ([], _) => none
        | (exponent, after) => some (negative, exponent, after)
      else some (false, [], c :: rest)
  | [] => some (false, [], [])

def number? (text : List Char) : Option (Number × List Char) := do
  let (whole, rest) ← wholePart? text
  let (fraction, rest) ← fractionPart? rest
  let (negative, exponent, rest) ← exponentPart? rest
  return (⟨whole, fraction, negative, exponent⟩, rest)

def fits (value digit : Nat) : Bool := value * 10 + digit < Nat.pow 2 64

def appendFitting (value : Nat) : List Char → Nat × List Char
  | [] => (value, [])
  | c :: rest =>
      let digit := c.toNat - 0x30
      if fits value digit then appendFitting (value * 10 + digit) rest else (value, c :: rest)

/-- The number as a decimal whose digits fit into 64 bits, without its exponent. Digits
that do not fit count as zeros. -/
def Number.leading (number : Number) : Decimal :=
  let (whole, zeros) := appendFitting 0 number.whole
  let (digits, dropped) := appendFitting whole number.fraction
  ⟨digits, zeros.length - (number.fraction.length - dropped.length : Nat)⟩

def isFiniteScaled (digits power : Nat) : Bool :=
  match Decimal.toBinary? ⟨digits, 0⟩, Decimal.toBinary? ⟨1, power⟩ with
  | some digits, some power => (digits.product? power).isSome
  | some digits, none => digits.significand = 0
  | none, _ => false

/-- The number is not too large. An exponent of more than 31 bits is too large whatever
stands in front of it, except for zero. -/
def Number.isFinite (number : Number) : Bool :=
  let leading := number.leading
  let exponent := digitsValue number.exponent
  if number.exponentNegative then leading.exponent ≤ exponent
      || isFiniteScaled leading.digits (leading.exponent - exponent).toNat
  else if Nat.pow 2 31 ≤ exponent then leading.digits = 0
  else isFiniteScaled leading.digits (leading.exponent + exponent).toNat

/-! Values. -/

def expectWord : List Char → List Char → Option (List Char)
  | [], rest => some rest
  | _ :: _, [] => none
  | w :: word, c :: text => if w = c then expectWord word text else none

def wordLeaf (word : String) (leaf : Leaf) (text : List Char) : Partial Document :=
  match expectWord word.toList text with
  | some rest => (.leaf leaf, some rest)
  | none => (.broken, none)

def textLeaf (text : List Char) : Partial Document :=
  match text? text with
  | some (some content, rest) => (.leaf (.ofText content), some rest)
  | some (none, rest) => (.damaged, some rest)
  | none => (.broken, none)

def numberLeaf (text : List Char) : Partial Document :=
  match number? text with
  | some (number, rest) => (if number.isFinite then .leaf .number else .damaged, some rest)
  | none => (.broken, none)

mutual

def value : Nat → List Char → Partial Document
  | 0, _ => (.broken, none)
  | fuel + 1, text =>
      match skipBlank text with
      | '"' :: rest => textLeaf rest
      | '[' :: rest =>
          let (items, closed, after) := items fuel true rest
          (.list items closed, after)
      | '{' :: rest =>
          let (entries, closed, after) := entries fuel true rest
          (.object entries closed, after)
      | 'n' :: rest => wordLeaf "ull" .null rest
      | 't' :: rest => wordLeaf "rue" (.ofFlag true) rest
      | 'f' :: rest => wordLeaf "alse" (.ofFlag false) rest
      | '-' :: rest => numberLeaf rest
      | c :: rest => if c.isDigit then numberLeaf (c :: rest) else (.broken, none)
      | [] => (.broken, none)

def items : Nat → Bool → List Char → List Document × Bool × Option (List Char)
  | 0, _, _ => ([], false, none)
  | fuel + 1, first, text =>
      match skipBlank text with
      | ']' :: rest => ([], true, some rest)
      | ',' :: rest =>
          if first then ([.broken], false, none)
          else match skipBlank rest with
            | ']' :: _ => ([], false, none)
            | next => itemThen fuel next
      | next => if first then itemThen fuel next else ([], false, none)

def itemThen : Nat → List Char → List Document × Bool × Option (List Char)
  | 0, _ => ([], false, none)
  | fuel + 1, text =>
      match value fuel text with
      | (item, none) => ([item], false, none)
      | (item, some rest) =>
          let (later, closed, after) := items fuel false rest
          (item :: later, closed, after)

def entries : Nat → Bool → List Char → List (Document × Document) × Bool × Option (List Char)
  | 0, _, _ => ([], false, none)
  | fuel + 1, first, text =>
      match skipBlank text with
      | '}' :: rest => ([], true, some rest)
      | '"' :: rest => if first then entryThen fuel rest else ([], false, none)
      | ',' :: rest =>
          if first then ([], false, none)
          else match skipBlank rest with
            | '"' :: rest => entryThen fuel rest
            | _ => ([], false, none)
      | _ => ([], false, none)

def entryThen : Nat → List Char → List (Document × Document) × Bool × Option (List Char)
  | 0, _ => ([], false, none)
  | fuel + 1, text =>
      match text? text with
      | none => ([], false, none)
      | some (content, rest) =>
          let key := match content with
            | some text => Document.leaf (.ofText text)
            | none => .damaged
          match skipBlank rest with
          | ':' :: rest =>
              match value fuel rest with
              | (item, none) => ([(key, item)], false, none)
              | (item, some rest) =>
                  let (later, closed, after) := entries fuel false rest
                  ((key, item) :: later, closed, after)
          | _ => ([(key, .broken)], false, none)

end

def read (text : String) : Document × Bool :=
  match value (3 * text.length + 3) text.toList with
  | (document, none) => (document, false)
  | (document, some rest) => (document, (skipBlank rest).isEmpty)

end HttpBinding.Json
