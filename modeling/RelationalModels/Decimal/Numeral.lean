import RelationalModels.Decimal.Binary64
import RelationalModels.Text.Blank
import RelationalModels.Text.Case
import RelationalModels.Text.Cut
import RelationalModels.Text.Digit

/-!
# Numerals

Numbers written in the digits of any script. White space around the numeral is dropped, one sign may
precede it, and a single underscore may stand between two digits. `IntegerText.ofText` reads an
integer of at most `maxIntegerDigits` digits, `floatOfText?` a decimal, an infinity or a NaN, and
`Number.ofText?` the first of the two that fits.
-/

namespace RelationalModels.Decimal

open RelationalModels.Text

inductive Number where
  | int (n : Int)
  | float (x : Binary64)
  deriving DecidableEq, Inhabited

def maxIntegerDigits : Nat := 4300

def oversizedIntegerMessage (digits : Nat) : String :=
  let limit := toString maxIntegerDigits
  "Exceeds the limit (" ++ limit ++ " digits) for integer string conversion: value has " ++
    toString digits ++ " digits; use sys.set_int_max_str_digits() to increase the limit"

def moreDigits? (digit? : Char → Option Nat) : List Char → Option (List Nat)
  | [] => some []
  | [c] => (digit? c).map fun n => [n]
  | c :: d :: cs =>
    if c = '_' then
      match digit? d, moreDigits? digit? cs with
      | some n, some ns => some (n :: ns)
      | _, _ => none
    else
      match digit? c, moreDigits? digit? (d :: cs) with
      | some n, some ns => some (n :: ns)
      | _, _ => none

def groupedDigits? (digit? : Char → Option Nat) : List Char → Option (List Nat)
  | [] => none
  | c :: cs =>
    match digit? c, moreDigits? digit? cs with
    | some n, some ns => some (n :: ns)
    | _, _ => none

def splitSign : List Char → Bool × List Char
  | '-' :: cs => (true, cs)
  | '+' :: cs => (false, cs)
  | cs => (false, cs)

def signed (negative : Bool) (n : Nat) : Int := if negative then -(n : Int) else (n : Int)

inductive IntegerText where
  | value (n : Int)
  | tooLong (digits : Nat)
  | malformed
  deriving DecidableEq

/-- The integer a text writes in the decimal digits of any script. -/
def IntegerText.ofText (s : String) : IntegerText :=
  let (negative, body) := splitSign (trimBlank s.toList)
  match groupedDigits? decimalDigit? body with
  | none => .malformed
  | some ns =>
    if ns.length ≤ maxIntegerDigits then .value (signed negative (natOfDigits ns))
    else .tooLong ns.length

def someDigits? (cs : List Char) : Option (List Nat) :=
  if cs.isEmpty then some [] else groupedDigits? decimalDigit? cs

def exponent? : Option (List Char) → Option Int
  | none => some 0
  | some cs =>
    let (negative, body) := splitSign cs
    (groupedDigits? decimalDigit? body).map fun ns => signed negative (natOfDigits ns)

/-- A decimal with a digit at least before or after its point, and an optional exponent. -/
def decimal? (negative : Bool) (cs : List Char) : Option Binary64 :=
  let (mantissa, power) := cutAt (fun c => c == 'e' || c == 'E') cs
  let (whole, fraction) := cutAt (fun c => c == '.') mantissa
  match someDigits? whole, someDigits? (fraction.getD []), exponent? power with
  | some ws, some fs, some e =>
    if ws.isEmpty && fs.isEmpty then none
    -- both parts are read as one integer, so that the point stands behind it
    else some (Binary64.ofDecimal negative (natOfDigits (ws ++ fs)) (e - fs.length))
  | _, _, _ => none

def floatOfText? (s : String) : Option Binary64 :=
  let (negative, body) := splitSign (trimBlank s.toList)
  let word := String.ofList (body.map asciiLower)
  if word = "inf" ∨ word = "infinity" then some (Binary64.infinity negative)
  else if word = "nan" then some Binary64.nan
  else decimal? negative body

/-- The number a text writes: an integer if it can be read as one, a decimal otherwise. -/
def Number.ofText? (s : String) : Option Number :=
  match IntegerText.ofText s with
  | .value n => some (.int n)
  | _ => (floatOfText? s).map .float

end RelationalModels.Decimal
