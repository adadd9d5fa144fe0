import RelationalModels.Decimal.Numeral
import RelationalModels.Text.Shown

/-!
# Texts that are no numerals

Where a text has to write a number, `readInteger` and `readDecimal` say why it does not.
-/

namespace RelationalModels.Decimal

inductive NumeralError where
  | notInteger (text : String)
  | tooLong (digits : Nat)
  | notDecimal (text : String)
  deriving DecidableEq

/-- The number of characters up to which a text is shown that is no integer. -/
def shownLength : Nat := 200

def NumeralError.message : NumeralError → String
  | notInteger text =>
    "invalid literal for int() with base 10: " ++
      String.ofList ((Text.shown text).toList.take shownLength)
  | tooLong digits => oversizedIntegerMessage digits
  | notDecimal text => "could not convert string to float: " ++ Text.shown text

def readInteger (s : String) : Except NumeralError Int :=
  match IntegerText.ofText s with
  | .value n => .ok n
  | .tooLong digits => .error (.tooLong digits)
  | .malformed => .error (.notInteger s)

def readDecimal (s : String) : Except NumeralError Binary64 :=
  match floatOfText? s with
  | some x => .ok x
  | none => .error (.notDecimal s)

end RelationalModels.Decimal
