/-!
# The shortest decimal that reads back

A binary float stands for the interval of reals that round to it. Of all decimals
in that interval this module finds one with the fewest digits, and among those the
nearest to the float.

## Main definitions

* `Decimal` — a coefficient times a power of ten.
* `Binary` — a mantissa times a power of two, and how far its neighbours are.
* `Binary.ofBits` — the magnitude of a finite double from its bits.
* `Rounding` — the interval of a float over a common denominator.
* `Rounding.shortest` — the search.

## Design notes

All arithmetic is exact, in natural numbers. For `1, 2, …, 17` digits the search
looks at the two neighbours of the float on the grid of decimals with that many
digits; if any point of the grid lies in the interval, one of these two does. The
ends of the interval belong to it exactly when the mantissa is even, since ties
round to even. Seventeen digits always suffice for a double.
-/

namespace Retrace

/-- **A decimal:** a coefficient times a power of ten. -/
structure Decimal where
  coefficient : Nat
  exponent : Int
  deriving DecidableEq, Repr, Inhabited

namespace Decimal

/-- **A binary float:** a mantissa times a power of two. -/
structure Binary where
  mantissa : Nat
  exponent : Int
  /-- Whether the next smaller float is at half the distance of the next larger. -/
  narrowBelow : Bool
  deriving DecidableEq, Repr

/-- The magnitude of a finite double from its 64 bits: eleven bits of exponent above
fifty-two bits of fraction. The sign bit is ignored. -/
def Binary.ofBits (bits : Nat) : Binary :=
  let fraction : Nat := bits % 0x10_0000_0000_0000
  let field : Nat := bits / 0x10_0000_0000_0000 % 0x800
  if field = 0 then
    { mantissa := fraction, exponent := -1074, narrowBelow := false }
  else
    { mantissa := 0x10_0000_0000_0000 + fraction
      exponent := (field : Int) - 1075
      narrowBelow := fraction == 0 && 1 < field }

/-- **The reals that round to a float,** over a common denominator: the float itself
and the two ends of the interval. -/
structure Rounding where
  value : Nat
  low : Nat
  high : Nat
  denominator : Nat
  /-- Whether the ends round to the float as well. -/
  closed : Bool

namespace Rounding

/-- The interval of a positive float. -/
def ofBinary (b : Binary) : Rounding :=
  let scale := Nat.pow 2 b.exponent.toNat
  { value := 4 * b.mantissa * scale
    low := (4 * b.mantissa - if b.narrowBelow then 1 else 2) * scale
    high := (4 * b.mantissa + 2) * scale
    denominator := 4 * Nat.pow 2 (-b.exponent).toNat
    closed := b.mantissa % 2 == 0 }

/-- The number of decimal digits of a natural number; none for zero. -/
def digitCount (n : Nat) : Nat :=
  if n = 0 then 0 else (Nat.toDigits 10 n).length

/-- The power of ten of the leading digit. -/
def magnitude (r : Rounding) : Int :=
  if r.denominator ≤ r.value then (digitCount (r.value / r.denominator) : Int) - 1
  else -(digitCount ((r.denominator - 1) / r.value) : Int)

/-- Whether a fraction with denominator `denominator * unit` lies in the interval. -/
def contains (r : Rounding) (numerator unit : Nat) : Bool :=
  if r.closed then r.low * unit ≤ numerator && numerator ≤ r.high * unit
  else r.low * unit < numerator && numerator < r.high * unit

/-- The decimal with a number of digits that lies in the interval, if there is one;
of two the nearer, and of two equally near the one with an even coefficient. -/
def atDigits (r : Rounding) (digits : Nat) : Option Decimal :=
  let exponent := r.magnitude + 1 - digits
  let above := Nat.pow 10 exponent.toNat
  let below := Nat.pow 10 (-exponent).toNat
  let step := r.denominator * above
  let value := r.value * below
  let floor := value / step
  match r.contains (floor * step) below, r.contains ((floor + 1) * step) below with
  | false, false => none
  | true, false => some ⟨floor, exponent⟩
  | false, true => some ⟨floor + 1, exponent⟩
  | true, true =>
    let middle := (2 * floor + 1) * step
    let up := middle < 2 * value || (2 * value == middle && floor % 2 == 1)
    some ⟨if up then floor + 1 else floor, exponent⟩

/-- **The shortest decimal in the interval.** -/
def shortest (r : Rounding) : Decimal :=
  ((List.range' 1 17).findSome? r.atDigits).getD ⟨r.value / r.denominator, 0⟩

end Rounding

/-- **The shortest decimal that reads back as a finite double,** sign aside. -/
def shortest (x : Float) : Decimal :=
  let b := Binary.ofBits x.toBits.toNat
  if b.mantissa = 0 then ⟨0, 0⟩ else (Rounding.ofBinary b).shortest

end Decimal

end Retrace
