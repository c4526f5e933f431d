import Retrace.Decimal.Layout
import Retrace.Text.Quoted

/-!
# Kinds of JSON values

What a value is, as far as a message about it has to tell: the value itself for
null, Booleans, numbers and strings, and the bare kind for arrays and objects.

## Main definitions

* `Number` — the three ways a number is held.
* `Kind` — the kind of a value.
* `Kind.describe` — how a message names it.

A number is held exactly if it is written without fraction and exponent and fits a
64-bit word, signed or unsigned; every other number, and `-0`, is a float.
-/

namespace Retrace.Json

/-- **A JSON number.** -/
inductive Number where
  /-- An unsigned integer of at most 64 bits. -/
  | natural (n : Nat)
  /-- The negative integer `-n`, of at most 64 bits. -/
  | negative (n : Nat)
  /-- Any other number. -/
  | float (x : Float)

/-- **What a JSON value is,** as far as messages go. -/
inductive Kind where
  | null
  | boolean (b : Bool)
  | number (n : Number)
  | string (s : String)
  | array
  | object

/-- Floats in messages. Positional from `1e-5` up to below `1e16`, always with a
point; scientific otherwise, with a signed exponent. -/
def floatLayout : Decimal.Layout where
  lowest := -5
  highest := 15

/-- How a message names a number. -/
def Number.describe : Number → String
  | natural n => "integer `" ++ toString n ++ "`"
  | negative n => "integer `-" ++ toString n ++ "`"
  | float x => "floating point `" ++ floatLayout.write x ++ "`"

/-- **How a message names a value.** -/
def Kind.describe : Kind → String
  | null => "null"
  | boolean b => "boolean `" ++ toString b ++ "`"
  | number n => n.describe
  | string s => "string " ++ Text.quoted s
  | array => "sequence"
  | object => "map"

end Retrace.Json
