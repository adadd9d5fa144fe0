import RelationalModels.Decimal.Numeral

/-!
# Numerals of integer attributes

An integer attribute may be given as a text. `AttributeNumeral.ofText` strips the text down to a
plain numeral and reads that: white space around it goes, one sign is taken off the front, leading
zeros go with the underscores among them, a fraction of zeros goes, and so do single underscores
between what is left. A plain numeral is zero, or ASCII digits without a leading zero; a minus sign
may precede either, also one that only the dropped zeros had hidden.
-/

namespace RelationalModels.Decimal.AttributeNumeral

open RelationalModels.Text

def isLeadingDigit (c : Char) : Bool := c != '0' && isAsciiDigit c

/--
What is left of a numeral after a leading zero, here with the character before it: the zeros and
underscores that follow go as well, but one digit stays in front of a fraction and at the end.
-/
def afterZero? (before : Char) : List Char → Option (List Char)
  | [] => some [before]
  | c :: rest =>
    if c == '0' || c == '_' then afterZero? c rest
    else if isLeadingDigit c || c == '-' then some (c :: rest)
    else if c == '.' then some (before :: c :: rest)
    else none

def dropZeros? : List Char → Option (List Char)
  | [] => none
  | c :: rest =>
    if c == '0' then afterZero? c rest
    else if isLeadingDigit c then some (c :: rest)
    else none

def dropFraction (cs : List Char) : List Char :=
  match cutAt (fun c => c == '.') cs with
  | (whole, some zeros) => if !zeros.isEmpty && zeros.all (· == '0') then whole else cs
  | (_, none) => cs

def isGrouped : List Char → Bool
  | [] => true
  | ['_'] => false
  | '_' :: '_' :: _ => false
  | _ :: rest => isGrouped rest

def dropGrouping (cs : List Char) : List Char :=
  if cs.head? != some '_' && isGrouped cs then cs.filter (· != '_') else cs

/--
The value of a plain numeral. Too long a run of digits, with the minus sign counted, is noticed
before anything that follows it.
-/
def plainValue (cs : List Char) : IntegerText :=
  let negative := cs.head? == some '-'
  let body := if negative then cs.drop 1 else cs
  match body with
  | [] => .malformed
  | ['0'] => .value 0
  | c :: _ =>
    if isLeadingDigit c then
      let run := (body.takeWhile isAsciiDigit).length + if negative then 1 else 0
      if maxIntegerDigits < run then .tooLong run
      else
        match body.mapM asciiDigit? with
        | some ns => .value (signed negative (natOfDigits ns))
        | none => .malformed
    else .malformed

def ofText (s : String) : IntegerText :=
  let (negative, body) := splitSign (trimBlank s.toList)
  match dropZeros? body with
  | none => .malformed
  | some significant =>
    let plain := dropGrouping (dropFraction significant)
    plainValue (if negative then '-' :: plain else plain)

end RelationalModels.Decimal.AttributeNumeral
