/-!
# Binary floating point numbers

A number of the IEEE 754 binary64 format, held as its bits: a sign, eleven bits of exponent and
fifty-two of fraction. A finite number has the value `significand * 2 ^ (scale - 1074)`.
`Binary64.ofDecimal` rounds a decimal to the nearest number, a tie to the even significand, by
exact arithmetic on natural numbers.
-/

namespace RelationalModels.Decimal

/-- A binary64 number, as its 64 bits. -/
structure Binary64 where
  bits : UInt64
  deriving DecidableEq, Inhabited

namespace Binary64

def infinityPattern : Nat := 0x7FF0000000000000

def magnitude (x : Binary64) : Nat := x.bits.toNat % Nat.pow 2 63

def isNegative (x : Binary64) : Bool := decide (Nat.pow 2 63 ≤ x.bits.toNat)

def isNaN (x : Binary64) : Bool := decide (infinityPattern < x.magnitude)

def isInfinite (x : Binary64) : Bool := decide (x.magnitude = infinityPattern)

def isFinite (x : Binary64) : Bool := decide (x.magnitude < infinityPattern)

/-- Steps of the binary exponent above the least one, which is -1074. -/
def scale (x : Binary64) : Nat := x.magnitude / Nat.pow 2 52 - 1

def significand (x : Binary64) : Nat := x.magnitude - x.scale * Nat.pow 2 52

def ofParts (negative : Bool) (magnitude : Nat) : Binary64 :=
  ⟨UInt64.ofNat (magnitude + if negative then Nat.pow 2 63 else 0)⟩

def infinity (negative : Bool) : Binary64 := ofParts negative infinityPattern

def zero (negative : Bool) : Binary64 := ofParts negative 0

def nan : Binary64 := ofParts false 0x7FF8000000000000

def roundDiv (num den : Nat) : Nat :=
  let q := num / den
  let r := num % den
  if 2 * r < den ∨ (2 * r = den ∧ q % 2 = 0) then q else q + 1

/-- The number nearest to `num / den`, which is positive; what is too large becomes infinity. -/
def ofRatio (negative : Bool) (num den : Nat) : Binary64 :=
  -- `num / den` in units of the least positive number
  let n := num * Nat.pow 2 1074
  let s := (n / den).log2 - 52
  ofParts negative (min (s * Nat.pow 2 52 + roundDiv n (den * Nat.pow 2 s)) infinityPattern)

/--
The number nearest to `digits * 10 ^ exponent`. Decimals beyond every finite number or below half
of the least positive one are told from their number of digits alone.
-/
def ofDecimal (negative : Bool) (digits : Nat) (exponent : Int) : Binary64 :=
  if digits = 0 then zero negative
  else
    let size : Int := (Nat.toDigits 10 digits).length + exponent
    if 310 < size then infinity negative
    else if size < -330 then zero negative
    else if 0 ≤ exponent then ofRatio negative (digits * Nat.pow 10 exponent.toNat) 1
    else ofRatio negative digits (Nat.pow 10 (-exponent).toNat)

def toInt? (x : Binary64) : Option Int :=
  if x.isFinite then
    let n := x.significand * Nat.pow 2 x.scale
    let unit := Nat.pow 2 1074
    if n % unit = 0 then
      some (if x.isNegative then -((n / unit : Nat) : Int) else ((n / unit : Nat) : Int))
    else none
  else none

end Binary64

end RelationalModels.Decimal
