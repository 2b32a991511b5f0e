import HttpBinding.Decimal.Shortest
import HttpBinding.Text.Quoted

/-!
Numbers of YAML: how they are recognised, and how they are written.
-/
namespace HttpBinding.Yaml

/-- A fraction is kept by the shortest decimal that denotes it. -/
inductive Number where
  | whole (value : Int)
  | fraction (negative : Bool) (decimal : Decimal)
  | infinite (negative : Bool)
  | undefined
deriving Repr, DecidableEq

namespace Number

/-! Whole numbers -/

def digits? (base : Nat) (digits : List Char) : Option Nat :=
  if digits.isEmpty then none
  else
    digits.foldlM (fun value c =>
      (Text.hexValue? c).bind fun digit =>
        if digit < base then some (value * base + digit) else none) 0

def marked? : List Char → Option Nat
  | '0' :: 'x' :: digits => digits? 16 digits
  | '0' :: 'o' :: digits => digits? 8 digits
  | '0' :: 'b' :: digits => digits? 2 digits
  | _ => none

def unsigned : List Char → List Char
  | '+' :: rest | '-' :: rest => rest
  | text => text

def hasLeadingZero (text : List Char) : Bool :=
  match unsigned text with
  | '0' :: c :: rest => (c :: rest).all Char.isDigit
  | _ => false

def whole? (text : List Char) : Option Int :=
  let magnitude? := (marked? (unsigned text)).or
    (if hasLeadingZero text then none else digits? 10 (unsigned text))
  magnitude?.map fun magnitude => if text.head? = some '-' then -(magnitude : Int) else magnitude

/-! Fractions -/

def exponent? : List Char → Option Int
  | [] => some 0
  | mark :: text =>
      if mark ≠ 'e' && mark ≠ 'E' then none
      else
        (digits? 10 (unsigned text)).map fun magnitude =>
          if text.head? = some '-' then -(magnitude : Int) else magnitude

def behindPoint : List Char → List Char × List Char
  | '.' :: rest => (rest.takeWhile Char.isDigit, rest.dropWhile Char.isDigit)
  | text => ([], text)

def decimal? (text : List Char) : Option Decimal := do
  let whole := text.takeWhile Char.isDigit
  let (part, rest) := behindPoint (text.dropWhile Char.isDigit)
  let digits ← digits? 10 (whole ++ part)
  return ⟨digits, (← exponent? rest) - part.length⟩

def infiniteWords : List String := [".inf", ".Inf", ".INF"]
def undefinedWords : List String := [".nan", ".NaN", ".NAN"]

def signed? (text : List Char) : Option Number := do
  let decimal ← decimal? (unsigned text)
  return .fraction (text.head? = some '-') (← decimal.toBinary?).shortest

def fraction? (text : String) : Option Number :=
  let positive := match text.toList with
    | '+' :: rest => rest
    | chars => chars
  let twice := text.startsWith "+" && (positive.head? = some '+' || positive.head? = some '-')
  if twice then none
  else if String.ofList positive ∈ infiniteWords then some (.infinite false)
  else if text.startsWith "-" && String.ofList (unsigned text.toList) ∈ infiniteWords then
    some (.infinite true)
  else if text ∈ undefinedWords then some .undefined
  else signed? positive

/-! Writing -/

/-- All digits are written below ten to the sixteenth, and above ten to the minus
fifth. -/
def layout : Decimal.Layout := ⟨-4, 16⟩

def render : Number → String
  | whole value => toString value
  | fraction negative decimal => (if negative then "-" else "") ++ decimal.render layout
  | infinite negative => if negative then "-.inf" else ".inf"
  | undefined => ".nan"

/-- The same number; the sign of a zero does not count. -/
def sameAs : Number → Number → Bool
  | fraction negative decimal, fraction otherNegative other =>
      decimal = other && (negative = otherNegative || decimal.digits = 0)
  | number, other => number = other

end Number
end HttpBinding.Yaml
