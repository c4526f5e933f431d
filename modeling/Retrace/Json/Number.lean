import Retrace.Index
import Retrace.Json.Lexeme

/-!
# Numbers

A number is read exactly if it is an integer of at most 64 bits, and as a float
otherwise. Reading as a float keeps the leading digits that fit a 64-bit word,
counts the others as powers of ten, and then multiplies or divides once: fast, and
not always the nearest float.

## Main definitions

* `readDigits` — a run of digits.
* `Significand` — leading digits and the powers of ten that they leave out.
* `scaleFloat` — a significand times a power of ten, as a float.
* `readNumber` — a number, its sign having been taken.
* `skipNumber` — the same number, for its end alone.

What is load-bearing for everything that is read back is the exact half
(`integer`): unsigned integers up to `Index.maxIndex` never pass through a float.
-/

namespace Retrace.Json

/-- Whether a character is a decimal digit. -/
def isDigit (c : Char) : Bool := '0' ≤ c && c ≤ '9'

/-- **A run of digits,** possibly empty, and what follows it. -/
def readDigits (text : List Char) : List Char × List Char :=
  text.span isDigit

/-- The number written by a run of digits. -/
def digitsValue (digits : List Char) : Nat :=
  Nat.ofDigitChars 10 digits 0

/-! ### Floats -/

/-- **Leading digits of a number,** as many as fit a 64-bit word, times a power of
ten. -/
structure Significand where
  value : Nat
  exponent : Int

/-- Take digits into a significand until one more would not fit; the second part
counts the digits left over. -/
def absorb (value : Nat) : List Char → Nat × Nat
  | [] => (value, 0)
  | c :: digits =>
    let next := value * 10 + digitsValue [c]
    if Index.maxIndex < next then (value, digits.length + 1) else absorb next digits

/-- The significand of the digits before the point: digits that do not fit count as
powers of ten. -/
def wholeSignificand (digits : List Char) : Significand :=
  let (value, left) := absorb 0 digits
  ⟨value, left⟩

/-- The significand with the digits after the point: digits that do not fit are
dropped. -/
def Significand.withFraction (s : Significand) (digits : List Char) : Significand :=
  let (value, left) := absorb s.value digits
  ⟨value, s.exponent - (digits.length - left : Nat)⟩

/-- A power of ten as a float, exactly rounded. -/
def powerOfTen (n : Nat) : Float := Float.ofScientific 1 false n

/-- The largest power of ten that is a finite float. -/
def largestPower : Nat := 308

/-- A float with a sign. -/
def signed (negative : Bool) (x : Float) : Float := if negative then -x else x

/-- **A significand times its power of ten,** as a float. A positive power is one
product, which may be too large. A negative power is one quotient, or two if the
power is too large for one; two already leave nothing of any significand. -/
def scaleFloat (s : Significand) : Except ReadError Float :=
  let x := s.value.toUInt64.toFloat
  if 0 ≤ s.exponent then
    let power := s.exponent.toNat
    if s.value = 0 then .ok x
    else if largestPower < power then .error .numberOutOfRange
    else
      let product := x * powerOfTen power
      if product.isInf then .error .numberOutOfRange else .ok product
  else
    let power := s.exponent.natAbs
    .ok (x / powerOfTen (min power largestPower) /
      powerOfTen (min (power - largestPower) largestPower))

/-! ### Reading -/

/-- The sign of an exponent, which may be missing. -/
def readExponentSign : List Char → Bool × List Char
  | '+' :: text => (false, text)
  | '-' :: text => (true, text)
  | text => (false, text)

/-- The largest exponent that is read as a number. -/
def largestExponent : Nat := 0x7FFF_FFFF

/-- The float of a significand and the exponent that follows it. An exponent too
large to be read as a number makes zero or no float at all. -/
def readExponent (negative : Bool) (s : Significand) : Reader Float := fun text =>
  let (down, text) := readExponentSign text
  match readDigits text with
  | ([], []) => .error .unfinishedValue
  | ([], _ :: _) => .error .invalidNumber
  | (digits, rest) =>
    let exponent := digitsValue digits
    if largestExponent < exponent then
      if s.value ≠ 0 ∧ !down then .error .numberOutOfRange
      else .ok (signed negative 0, rest)
    else
      let shift : Int := if down then -exponent else exponent
      (scaleFloat { s with exponent := s.exponent + shift }).map fun x => (signed negative x, rest)

/-- The float of a significand, with or without an exponent. -/
def readScaled (negative : Bool) (s : Significand) : Reader Float
  | 'e' :: text => readExponent negative s text
  | 'E' :: text => readExponent negative s text
  | text => (scaleFloat s).map fun x => (signed negative x, text)

/-- The float of a significand and the fraction that follows it. -/
def readFraction (negative : Bool) (s : Significand) : Reader Float := fun text =>
  match readDigits text with
  | ([], []) => .error .unfinishedValue
  | ([], _ :: _) => .error .invalidNumber
  | (digits, rest) => readScaled negative (s.withFraction digits) rest

/-- The largest magnitude of a negative integer that is held exactly. -/
def largestMagnitude : Nat := 0x8000_0000_0000_0000

/-- **An integer without fraction and exponent.** Minus zero is a float, as is
everything that does not fit a 64-bit word. -/
def integer (negative : Bool) (digits : List Char) : Except ReadError Number :=
  let n := digitsValue digits
  let float := (scaleFloat (wholeSignificand digits)).map fun x => Number.float (signed negative x)
  if negative then if n ≠ 0 ∧ n ≤ largestMagnitude then .ok (.negative n) else float
  else if n ≤ Index.maxIndex then .ok (.natural n) else float

/-- **A number,** its sign having been taken. -/
def readNumber (negative : Bool) : Reader Number := fun text =>
  match readDigits text with
  | ([], []) => .error .unfinishedValue
  | ([], _ :: _) => .error .invalidNumber
  | ('0' :: _ :: _, _) => .error .invalidNumber
  | (digits, '.' :: rest) =>
    (readFraction negative (wholeSignificand digits) rest).map fun (x, rest) => (.float x, rest)
  | (digits, 'e' :: rest) =>
    (readExponent negative (wholeSignificand digits) rest).map fun (x, rest) => (.float x, rest)
  | (digits, 'E' :: rest) =>
    (readExponent negative (wholeSignificand digits) rest).map fun (x, rest) => (.float x, rest)
  | (digits, rest) => (integer negative digits).map fun n => (n, rest)

/-! ### Skipping -/

/-- The text after the digits of an exponent. -/
def skipExponent (text : List Char) : Except ReadError (List Char) :=
  match readDigits (readExponentSign text).2 with
  | ([], _) => .error .invalidNumber
  | (_, rest) => .ok rest

/-- The text after an exponent, if there is one. -/
def skipScaled : List Char → Except ReadError (List Char)
  | 'e' :: text => skipExponent text
  | 'E' :: text => skipExponent text
  | text => .ok text

/-- **The text after a number,** its sign having been taken. How large the number is
does not matter. -/
def skipNumber (text : List Char) : Except ReadError (List Char) :=
  match readDigits text with
  | ([], _) => .error .invalidNumber
  | ('0' :: _ :: _, _) => .error .invalidNumber
  | (_, '.' :: rest) =>
    match readDigits rest with
    | ([], _) => .error .invalidNumber
    | (_, rest) => skipScaled rest
  | (_, rest) => skipScaled rest

end Retrace.Json
