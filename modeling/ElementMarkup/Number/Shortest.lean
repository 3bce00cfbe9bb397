import ElementMarkup.Number.Binary64

/-!
# Shortest decimals

A finite number is printed with the fewest digits that read back as the same number, and among
those with the digits nearest to it. Between the exponents of `positional` the digits are written
out with a point; otherwise one digit stands before the point and a power of ten follows.
-/

namespace ElementMarkup.Number

/-- A decimal `digits · 10 ^ exponent`. -/
structure Decimal where
  digits : Nat
  exponent : Int
  deriving DecidableEq, Repr

namespace Binary64

/-- The exponent of the first digit of the positive quotient `num / den`. -/
def leadingExponent (num den : Nat) : Int :=
  if den ≤ num then (decimalWidth (num / den) : Int) - 1
  else -(decimalWidth ((den - 1) / num) : Int)

/-- The bounds of the reals that round to `m · 2 ^ q`, in quarters of `2 ^ q`. Below a power of two
the numbers lie twice as close. -/
def roundingBounds (m : Nat) (q : Int) : Nat × Nat :=
  (if m = Nat.pow 2 52 ∧ -1074 < q then 4 * m - 1 else 4 * m - 2, 4 * m + 2)

/-- The decimal with `count` digits that reads back as `m · 2 ^ q`, if there is one: of the two
neighbours on the grid of such decimals the nearer one that lies within the bounds. -/
def decimalWithDigits? (m : Nat) (q : Int) (count : Nat) : Option Decimal :=
  let num := 4 * m * Nat.pow 2 q.toNat
  let den := 4 * Nat.pow 2 (-q).toNat
  let exponent := leadingExponent num den - count + 1
  let unit := Nat.pow 10 exponent.toNat * den
  let shift := Nat.pow 10 (-exponent).toNat
  let scale := Nat.pow 2 q.toNat * shift
  let bounds := roundingBounds m q
  let inside (d : Nat) : Bool :=
    let v := d * unit
    if m % 2 = 0 then bounds.1 * scale ≤ v && v ≤ bounds.2 * scale
    else bounds.1 * scale < v && v < bounds.2 * scale
  let target := num * shift
  let below := target / unit
  let above := below + 1
  let belowDistance := target - below * unit
  let aboveDistance := above * unit - target
  let nearer :=
    if belowDistance < aboveDistance then below
    else if aboveDistance < belowDistance then above
    else if below % 2 = 0 then below else above
  let other := if nearer = below then above else below
  if inside nearer then some ⟨nearer, exponent⟩
  else if inside other then some ⟨other, exponent⟩
  else none

/-- The shortest decimal that reads back as the positive number `m · 2 ^ q`. Seventeen digits
always suffice. -/
def shortestDecimal (m : Nat) (q : Int) : Decimal :=
  ((List.range 17).findSome? fun k => decimalWithDigits? m q (k + 1)).getD ⟨m, 0⟩

end Binary64

/-- The exponents of the first digit between which a number is written without a power of ten. -/
def positional (exponent : Int) : Bool :=
  -4 ≤ exponent && exponent < 16

namespace Decimal

/-- The digits without trailing zeros, and the exponent of the first digit. -/
def normalized (d : Decimal) : List Char × Int :=
  let digits := Nat.toDigits 10 d.digits
  let kept := (digits.reverse.dropWhile (· == '0')).reverse
  (kept, d.exponent + digits.length - 1)

/-- The exponent with its sign and at least two digits. -/
def exponentText (exponent : Int) : List Char :=
  let digits := Nat.toDigits 10 exponent.natAbs
  (if exponent < 0 then '-' else '+') :: (if digits.length < 2 then '0' :: digits else digits)

/-- The text of a positive decimal. -/
def text (d : Decimal) : List Char :=
  let (digits, exponent) := d.normalized
  if positional exponent then
    if exponent < 0 then '0' :: '.' :: List.replicate (-exponent - 1).toNat '0' ++ digits
    else
      let whole := exponent.toNat + 1
      let digits := digits ++ List.replicate (whole - digits.length) '0'
      let fraction := digits.drop whole
      digits.take whole ++ '.' :: (if fraction.isEmpty then ['0'] else fraction)
  else
    let fraction := digits.drop 1
    digits.take 1 ++ (if fraction.isEmpty then [] else '.' :: fraction) ++
      'e' :: exponentText exponent

end Decimal

namespace Binary64

/-- The text of a number. -/
def text (x : Binary64) : List Char :=
  if x.isNaN then "nan".toList
  else
    let magnitude :=
      if x.isInfinite then "inf".toList
      else
        let (m, q) := x.significand
        if m = 0 then "0.0".toList else (shortestDecimal m q).text
    if x.isNegative then '-' :: magnitude else magnitude

end Binary64

end ElementMarkup.Number
