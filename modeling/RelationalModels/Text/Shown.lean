import RelationalModels.Text.Digit
import RelationalModels.Text.HiddenTable

/-!
# Texts as messages show them

A text that a message shows stands between quotes: single ones, or double ones when it holds a
single quote and no double one. The quote itself, the backslash and everything without a visible
form are escaped, so that the text can be told from what surrounds it.
-/

namespace RelationalModels.Text

def isVisible (c : Char) : Bool := decide (' ' ≤ c) && !hiddenTable.mem c.toNat

def hexDigits : (width : Nat) → Nat → List Char
  | 0, _ => []
  | width + 1, n => hexDigits width (n / 16) ++ [hexDigit (n % 16)]

def codePointEscape (n : Nat) : List Char :=
  if n < 0x100 then '\\' :: 'x' :: hexDigits 2 n
  else if n < 0x10000 then '\\' :: 'u' :: hexDigits 4 n
  else '\\' :: 'U' :: hexDigits 8 n

def shownChar (quote c : Char) : List Char :=
  if c = quote ∨ c = '\\' then ['\\', c]
  else if c = '\n' then ['\\', 'n']
  else if c = '\r' then ['\\', 'r']
  else if c = '\t' then ['\\', 't']
  else if isVisible c then [c]
  else codePointEscape c.toNat

def quoteFor (cs : List Char) : Char := if cs.contains '\'' && !cs.contains '"' then '"' else '\''

def shown (s : String) : String :=
  let quote := quoteFor s.toList
  String.ofList (quote :: (s.toList.flatMap (shownChar quote) ++ [quote]))

end RelationalModels.Text
