/-!
Positive numbers in binary with 53 significant bits, and the one of them that is nearest
to a decimal.
-/
namespace HttpBinding

/-- The decimal `digits * 10 ^ exponent`. -/
structure Decimal where
  digits : Nat
  exponent : Int
deriving Repr, DecidableEq

namespace Decimal

/-- The number `significand * 2 ^ exponent`. -/
structure Binary where
  significand : Nat
  exponent : Int
deriving Repr, DecidableEq

namespace Binary

def precision : Nat := 53
def leastExponent : Int := -1074
def greatestExponent : Int := 971

end Binary

/-- A quotient, rounded to the nearest whole number; of two, to the even one. -/
def roundQuotient (value unit : Nat) : Nat :=
  let low := value / unit
  let twice := 2 * (value % unit)
  if unit < twice || (twice == unit && low % 2 == 1) then low + 1 else low

def floorLog (value unit : Nat) : Int :=
  let guess : Int := (Nat.log2 value : Int) - Nat.log2 unit
  if value * Nat.pow 2 (-guess).toNat < unit * Nat.pow 2 guess.toNat then guess - 1 else guess

def ofQuotient? (value unit : Nat) : Option Binary :=
  let exponent := max (floorLog value unit - (Binary.precision - 1)) Binary.leastExponent
  let significand :=
    roundQuotient (value * Nat.pow 2 (-exponent).toNat) (unit * Nat.pow 2 exponent.toNat)
  let (significand, exponent) :=
    if significand = Nat.pow 2 Binary.precision then (significand / 2, exponent + 1)
    else (significand, exponent)
  if Binary.greatestExponent < exponent then none else some ⟨significand, exponent⟩

def Binary.product? (number other : Binary) : Option Binary :=
  let significand := number.significand * other.significand
  let exponent := number.exponent + other.exponent
  if significand = 0 then some ⟨0, Binary.leastExponent⟩
  else
    ofQuotient? (significand * Nat.pow 2 exponent.toNat) (Nat.pow 2 (-exponent).toNat)

def digitCount (value : Nat) : Nat := (Nat.toDigits 10 value).length

/-- The binary number nearest to a decimal; nothing if that is too large. Decimals of a
size that is out of reach either way are not multiplied out. -/
def toBinary? (decimal : Decimal) : Option Binary :=
  let size : Int := digitCount decimal.digits + decimal.exponent
  if decimal.digits = 0 || size < -400 then some ⟨0, Binary.leastExponent⟩
  else if 400 < size then none
  else
    ofQuotient? (decimal.digits * Nat.pow 10 decimal.exponent.toNat)
      (Nat.pow 10 (-decimal.exponent).toNat)

end Decimal
end HttpBinding
