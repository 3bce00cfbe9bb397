/-!
# Double precision numbers

A number of the IEEE 754 format binary64, kept as its bits. A decimal is read as the nearest such
number, and of two equally near ones as the one whose last bit is zero.
-/

namespace ElementMarkup.Number

/-- A binary64 number, given by its bits. -/
structure Binary64 where
  bits : UInt64
  deriving DecidableEq, Repr

namespace Binary64

/-- The sign bit is set. -/
def isNegative (x : Binary64) : Bool :=
  x.bits.toNat / Nat.pow 2 63 == 1

/-- The eleven bits of the exponent. -/
def exponentField (x : Binary64) : Nat :=
  x.bits.toNat / Nat.pow 2 52 % Nat.pow 2 11

/-- The fifty-two bits of the fraction. -/
def fractionField (x : Binary64) : Nat :=
  x.bits.toNat % Nat.pow 2 52

/-- Positive or negative infinity. -/
def isInfinite (x : Binary64) : Bool :=
  x.exponentField == 2047 && x.fractionField == 0

/-- Not a number. -/
def isNaN (x : Binary64) : Bool :=
  x.exponentField == 2047 && x.fractionField != 0

/-- The whole number `m` and the power `q` with `|x| = m · 2 ^ q`, for a finite number. -/
def significand (x : Binary64) : Nat × Int :=
  if x.exponentField = 0 then (x.fractionField, -1074)
  else (Nat.pow 2 52 + x.fractionField, x.exponentField - 1075)

/-- The number is at least zero and below a whole number. -/
def isWithin (x : Binary64) (n : Nat) : Bool :=
  let (m, q) := x.significand
  !x.isNaN && !x.isInfinite && (m == 0 || !x.isNegative) &&
    m * Nat.pow 2 q.toNat < n * Nat.pow 2 (-q).toNat

/-- The bits of infinity. -/
def infinityBits : Nat :=
  2047 * Nat.pow 2 52

/-- The quotient rounded to the nearest whole number, a half going to the even neighbour. -/
def roundQuotient (num den : Nat) : Nat :=
  let q := num / den
  let r := num % den
  if 2 * r < den then q else if den < 2 * r then q + 1 else q + q % 2

/-- The bits of the number nearest to the positive quotient `num / den`. -/
def quotientBits (num den : Nat) : Nat :=
  let scaled (q : Int) : Nat × Nat := (num * Nat.pow 2 (-q).toNat, den * Nat.pow 2 q.toNat)
  let low : Int := max (num.log2 - den.log2 - 53) (-1074)
  let power := if Nat.pow 2 53 ≤ (scaled low).1 / (scaled low).2 then low + 1 else low
  let m := roundQuotient (scaled power).1 (scaled power).2
  min (m + (power + 1074).toNat * Nat.pow 2 52) infinityBits

/-- The number of decimal digits of a positive number. -/
def decimalWidth (n : Nat) : Nat :=
  (Nat.toDigits 10 n).length

/-- The number nearest to `digits · 10 ^ exponent` or, for a negative one, to its opposite.
Exponents far outside the range of the format are not expanded. -/
def ofDecimal (negative : Bool) (digits : Nat) (exponent : Int) : Binary64 :=
  let magnitude : Int := decimalWidth digits + exponent
  let bits :=
    if digits = 0 ∨ magnitude < -330 then 0
    else if 310 < magnitude then infinityBits
    else quotientBits (digits * Nat.pow 10 exponent.toNat) (Nat.pow 10 (-exponent).toNat)
  ⟨UInt64.ofNat (bits + if negative then Nat.pow 2 63 else 0)⟩

end Binary64

end ElementMarkup.Number
