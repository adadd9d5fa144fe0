import RelationalModels.Text.DigitTable

/-!
# Digits

`asciiDigit?` reads `0` to `9`; `decimalDigit?` reads the decimal digits of every script.
`natOfDigits` is the number that a sequence of digits denotes.
-/

namespace RelationalModels.Text

def isAsciiDigit (c : Char) : Bool := decide ('0' ≤ c) && decide (c ≤ '9')

def asciiDigit? (c : Char) : Option Nat := if isAsciiDigit c then some (c.toNat - 48) else none

def decimalDigit? (c : Char) : Option Nat :=
  digitTable.findSome? fun r =>
    if r.1 ≤ c.toNat ∧ c.toNat ≤ r.2 then some ((c.toNat - r.1) % 10) else none

def natOfDigits (digits : List Nat) : Nat := digits.foldl (fun n d => 10 * n + d) 0

def hexDigit? (c : Char) : Option Nat :=
  if isAsciiDigit c then some (c.toNat - 48)
  else if 'a' ≤ c ∧ c ≤ 'f' then some (c.toNat - 87)
  else if 'A' ≤ c ∧ c ≤ 'F' then some (c.toNat - 55)
  else none

def hexDigit (n : Nat) : Char := if n < 10 then Char.ofNat (48 + n) else Char.ofNat (87 + n)

end RelationalModels.Text
