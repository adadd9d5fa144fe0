import RelationalModels.Decimal.Numeral
import RelationalModels.Json.StringBody
import RelationalModels.OrderedMap
import RelationalModels.Value

/-!
# Reading JSON

`read` turns a JSON text into a value. A number with a fraction or an exponent is a float, any
other an integer; `NaN`, `Infinity` and `-Infinity` are numbers too. A name that an object repeats
keeps its first place and takes its last value. Arrays and objects nest `maxNesting` deep at most.
-/

namespace RelationalModels.Json

open RelationalModels.Decimal RelationalModels.Text

inductive Nesting where
  | array
  | object
  deriving DecidableEq

def Nesting.message : Nesting → String
  | array => "maximum recursion depth exceeded while decoding a JSON array from a unicode string"
  | object => "maximum recursion depth exceeded while decoding a JSON object from a unicode string"

def maxNesting : Nat := 9997

inductive ReadError where
  | malformed
  | oversizedInteger (digits : Nat)
  | tooDeep (nesting : Nesting)
  deriving DecidableEq

def skipBlank (cs : List Char) : List Char :=
  cs.dropWhile fun c => c == ' ' || c == '\t' || c == '\n' || c == '\r'

def afterWord? : List Char → List Char → Option (List Char)
  | [], cs => some cs
  | _ :: _, [] => none
  | w :: ws, c :: cs => if w = c then afterWord? ws cs else none

def spanDigits (cs : List Char) : List Char × List Char :=
  (cs.takeWhile isAsciiDigit, cs.dropWhile isAsciiDigit)

/-- The digits of an integer, which has no needless zero in front, and the rest. -/
def readWhole? : List Char → Option (List Char × List Char)
  | '0' :: rest => some (['0'], rest)
  | cs =>
    match spanDigits cs with
    | ([], _) => none
    | (ds, rest) => some (ds, rest)

def readFraction : List Char → Option (List Char) × List Char
  | '.' :: cs =>
    match spanDigits cs with
    | ([], _) => (none, '.' :: cs)
    | (ds, rest) => (some ds, rest)
  | cs => (none, cs)

def readExponent : List Char → Option Int × List Char
  | [] => (none, [])
  | e :: cs =>
    if e = 'e' ∨ e = 'E' then
      let (negative, body) := splitSign cs
      match spanDigits body with
      | ([], _) => (none, e :: cs)
      | (ds, rest) => (some (signed negative (natOfDigits (ds.filterMap asciiDigit?))), rest)
    else (none, e :: cs)

def readNumber (negative : Bool) (cs : List Char) : Except ReadError (Value × List Char) :=
  match readWhole? cs with
  | none => .error .malformed
  | some (ws, afterWhole) =>
    let (fraction, afterFraction) := readFraction afterWhole
    let (exponent, rest) := readExponent afterFraction
    let digits := (ws ++ fraction.getD []).filterMap asciiDigit?
    if fraction.isNone && exponent.isNone then
      if maxIntegerDigits < ws.length then .error (.oversizedInteger ws.length)
      else .ok (.int (signed negative (natOfDigits digits)), rest)
    else
      let shift : Int := (fraction.getD []).length
      .ok (.float (Binary64.ofDecimal negative (natOfDigits digits) (exponent.getD 0 - shift)),
        rest)

def words : List (List Char × Value) :=
  [("null".toList, .null), ("true".toList, .bool true), ("false".toList, .bool false),
   ("NaN".toList, .float Binary64.nan), ("Infinity".toList, .float (Binary64.infinity false)),
   ("-Infinity".toList, .float (Binary64.infinity true))]

def readAtom (cs : List Char) : Except ReadError (Value × List Char) :=
  match words.findSome? fun w => (afterWord? w.1 cs).map fun rest => (w.2, rest) with
  | some r => .ok r
  | none =>
    match cs with
    | '-' :: rest => readNumber true rest
    | _ => readNumber false cs

mutual

/-- The value that a text begins with, and the rest; `levels` more may lie within each other. -/
def readValue : (fuel levels : Nat) → List Char → Except ReadError (Value × List Char)
  | 0, _, _ => .error .malformed
  | fuel + 1, levels, cs =>
    match cs with
    | '"' :: rest =>
      match readString? rest with
      | some (s, after) => .ok (.text s, after)
      | none => .error .malformed
    | '[' :: rest =>
      match levels with
      | 0 => .error (.tooDeep .array)
      | levels + 1 =>
        match skipBlank rest with
        | ']' :: after => .ok (.list [], after)
        | inner =>
          match readItems fuel levels inner with
          | .ok (items, after) => .ok (.list items, after)
          | .error e => .error e
    | '{' :: rest =>
      match levels with
      | 0 => .error (.tooDeep .object)
      | levels + 1 =>
        match skipBlank rest with
        | '}' :: after => .ok (.map [], after)
        | inner =>
          match readMembers fuel levels inner with
          | .ok (members, after) => .ok (.map (OrderedMap.ofList members).entries, after)
          | .error e => .error e
    | _ => readAtom cs

def readItems : (fuel levels : Nat) → List Char → Except ReadError (List Value × List Char)
  | 0, _, _ => .error .malformed
  | fuel + 1, levels, cs =>
    match readValue fuel levels cs with
    | .error e => .error e
    | .ok (v, rest) =>
      match skipBlank rest with
      | ']' :: after => .ok ([v], after)
      | ',' :: more =>
        match readItems fuel levels (skipBlank more) with
        | .ok (vs, after) => .ok (v :: vs, after)
        | .error e => .error e
      | _ => .error .malformed

def readMembers : (fuel levels : Nat) → List Char →
    Except ReadError (List (String × Value) × List Char)
  | 0, _, _ => .error .malformed
  | fuel + 1, levels, cs =>
    match cs with
    | '"' :: afterQuote =>
      match readString? afterQuote with
      | none => .error .malformed
      | some (name, afterName) =>
        match skipBlank afterName with
        | ':' :: afterColon =>
          match readValue fuel levels (skipBlank afterColon) with
          | .error e => .error e
          | .ok (v, rest) =>
            match skipBlank rest with
            | '}' :: after => .ok ([(name, v)], after)
            | ',' :: more =>
              match readMembers fuel levels (skipBlank more) with
              | .ok (members, after) => .ok ((name, v) :: members, after)
              | .error e => .error e
            | _ => .error .malformed
        | _ => .error .malformed
    | _ => .error .malformed

end

def read (s : String) : Except ReadError Value :=
  -- every call either takes a character or goes from items or members to a value
  let cs := skipBlank s.toList
  match readValue (2 * cs.length + 2) maxNesting cs with
  | .error e => .error e
  | .ok (v, rest) => if (skipBlank rest).isEmpty then .ok v else .error .malformed

end RelationalModels.Json
