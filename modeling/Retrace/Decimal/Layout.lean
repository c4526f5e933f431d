import Retrace.Decimal.Shortest

/-!
# Laying out decimals

How a decimal is written is a matter of taste, settled once by each format: which
powers of ten are written positionally, and what the rest looks like.

## Main definitions

* `Layout` — the decisions of a format.
* `Layout.writeDecimal` — a decimal laid out.
* `Layout.write` — a finite float laid out, by its shortest decimal.

A positional number always has a point with at least one digit on either side; a
scientific one has a point only if it has more than one digit, and its exponent
always has a sign.
-/

namespace Retrace.Decimal

/-- **The decisions of a format:** numbers are written positionally when the power of
ten of their leading digit is in this range. -/
structure Layout where
  lowest : Int
  highest : Int

namespace Layout

/-- The digits of a number positionally, the leading one standing for a power of ten. -/
def positional (digits : List Char) (power : Int) : List Char :=
  if power < 0 then '0' :: '.' :: List.replicate ((-power).toNat - 1) '0' ++ digits
  else
    let whole := power.toNat + 1
    if digits.length ≤ whole then
      digits ++ List.replicate (whole - digits.length) '0' ++ ['.', '0']
    else digits.take whole ++ '.' :: digits.drop whole

/-- The digits of a number scientifically, the leading one standing for a power of ten. -/
def scientific (digits : List Char) (power : Int) : List Char :=
  digits.take 1 ++ (if digits.length ≤ 1 then [] else '.' :: digits.drop 1) ++
    'e' :: (if power < 0 then '-' else '+') :: Nat.toDigits 10 power.natAbs

/-- Digits without the zeros at their end. -/
def trimZeros (digits : List Char) : List Char :=
  (digits.reverse.dropWhile (· == '0')).reverse

/-- **A decimal laid out.** -/
def writeDecimal (layout : Layout) (d : Decimal) : List Char :=
  let digits := Nat.toDigits 10 d.coefficient
  let power := d.exponent + digits.length - 1
  let significant := if d.coefficient = 0 then digits else trimZeros digits
  if layout.lowest ≤ power ∧ power ≤ layout.highest then positional significant power
  else scientific significant power

/-- **A finite float laid out,** by the shortest decimal that reads back. -/
def write (layout : Layout) (x : Float) : String :=
  let negative := 0x8000_0000_0000_0000 ≤ x.toBits.toNat
  String.ofList ((if negative then ['-'] else []) ++ layout.writeDecimal (shortest x))

end Layout

end Retrace.Decimal
