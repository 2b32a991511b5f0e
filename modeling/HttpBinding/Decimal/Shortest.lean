import HttpBinding.Decimal.Binary

/-!
The shortest decimal that reads back as a binary number, and how decimals are written.
-/
namespace HttpBinding.Decimal

namespace Binary

/-- A binary number four times over, and the ends of the interval of numbers that are
rounded to it. Below a power of two its neighbour is half as far away. -/
structure Interval where
  low : Nat
  value : Nat
  high : Nat
  closed : Bool

def interval (number : Binary) : Interval :=
  let narrow := number.significand = Nat.pow 2 (precision - 1) && leastExponent < number.exponent
  { low := 4 * number.significand - (if narrow then 1 else 2)
    value := 4 * number.significand
    high := 4 * number.significand + 2
    closed := number.significand % 2 == 0 }

def Interval.holds (interval : Interval) (scale point : Nat) : Bool :=
  if interval.closed then interval.low * scale ≤ point && point ≤ interval.high * scale
  else interval.low * scale < point && point < interval.high * scale

/-- The multiple of `10 ^ power` that reads back as the number; of two the nearer one,
and of two as near the even one. -/
def multiple? (number : Binary) (power : Int) : Option Nat :=
  let interval := number.interval
  let exponent := number.exponent - 2
  let scale := Nat.pow 2 exponent.toNat * Nat.pow 10 (-power).toNat
  let unit := Nat.pow 2 (-exponent).toNat * Nat.pow 10 power.toNat
  let nearest := roundQuotient (interval.value * scale) unit
  let low := interval.value * scale / unit
  if interval.holds scale (nearest * unit) then some nearest
  else if interval.holds scale (low * unit) then some low
  else if interval.holds scale ((low + 1) * unit) then some (low + 1)
  else none

/-- The first hit from a power of ten downwards. Seventeen digits always suffice. -/
def shortestFrom (number : Binary) : Nat → Int → Decimal
  | 0, power => ⟨0, power⟩
  | fuel + 1, power =>
      match number.multiple? power with
      | some digits => ⟨digits, power⟩
      | none => shortestFrom number fuel (power - 1)

def powerAbove (number : Binary) : Int :=
  (number.exponent + Nat.log2 number.significand + 1) * 30103 / 100000 + 1

def shortest (number : Binary) : Decimal :=
  if number.significand = 0 then ⟨0, 0⟩ else shortestFrom number 24 number.powerAbove

end Binary

/-- Where decimals are written with all their digits: the position of the point, counted
from the first digit, lies between the two bounds. -/
structure Layout where
  leastPoint : Int
  greatestPoint : Int

def zeros (count : Int) : List Char := List.replicate count.toNat '0'

def scientific (digits : List Char) (point : Int) : List Char :=
  let more := digits.drop 1
  digits.take 1 ++ (if more.isEmpty then [] else '.' :: more)
    ++ 'e' :: (toString (point - 1)).toList

def positional (digits : List Char) (point : Int) : List Char :=
  let count : Int := digits.length
  if count ≤ point then digits ++ zeros (point - count) ++ ['.', '0']
  else if 0 < point then digits.take point.toNat ++ '.' :: digits.drop point.toNat
  else ['0', '.'] ++ zeros (-point) ++ digits

def render (layout : Layout) (decimal : Decimal) : String :=
  let digits := Nat.toDigits 10 decimal.digits
  let point : Int := digits.length + decimal.exponent
  if decimal.digits = 0 then "0.0"
  else if layout.greatestPoint < point || point < layout.leastPoint then
    String.ofList (scientific digits point)
  else String.ofList (positional digits point)

end HttpBinding.Decimal
