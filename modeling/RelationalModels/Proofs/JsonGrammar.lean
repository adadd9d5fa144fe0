import RelationalModels.Json.Reader
import RelationalModels.Proofs.Numerals

/-!
# The grammar of JSON

What a JSON text writes, stated without a reader: numbers, strings and words, and the arrays and
objects that hold them. `Writes` is the grammar of values, and `Document` adds the white space
around a whole text. `Reaches` says which beginnings of a value end where another value has to
stand, and `RefusedText` that something stands there which is refused for its size.
-/

namespace RelationalModels.Json

open RelationalModels.Decimal RelationalModels.Text

/-! ### Tokens -/

def isGap (c : Char) : Bool := c == ' ' || c == '\t' || c == '\n' || c == '\r'

def Digits (ds : List Char) : Prop := ds ≠ [] ∧ ∀ c ∈ ds, isAsciiDigit c = true

def digitsValue (ds : List Char) : Nat := natOfDigits (ds.filterMap asciiDigit?)

/-- The digits of an integer, which has no needless zero in front. -/
def WholeDigits (ds : List Char) : Prop := ds = ['0'] ∨ (Digits ds ∧ ∀ c ∈ ds.head?, c ≠ '0')

inductive Minus : Bool → List Char → Prop
  | none : Minus false []
  | minus : Minus true ['-']

inductive Fraction : Option (List Char) → List Char → Prop
  | none : Fraction none []
  | some {ds : List Char} (hdigits : Digits ds) : Fraction (some ds) ('.' :: ds)

inductive Exponent : Option Int → List Char → Prop
  | none : Exponent none []
  | some {e : Char} {negative : Bool} {sign ds : List Char} (he : e = 'e' ∨ e = 'E')
      (hsign : Sign negative sign) (hdigits : Digits ds) :
      Exponent (some (signed negative (digitsValue ds))) (e :: (sign ++ ds))

inductive WritesNumber : Value → List Char → Prop
  | integer {negative : Bool} {sign ws : List Char} (hsign : Minus negative sign)
      (hwhole : WholeDigits ws) (hlimit : ws.length ≤ maxIntegerDigits) :
      WritesNumber (.int (signed negative (digitsValue ws))) (sign ++ ws)
  | float {negative : Bool} {sign ws ftext etext : List Char} {fraction : Option (List Char)}
      {exponent : Option Int} (hsign : Minus negative sign) (hwhole : WholeDigits ws)
      (hfraction : Fraction fraction ftext) (hexponent : Exponent exponent etext)
      (hsome : fraction.isSome = true ∨ exponent.isSome = true) :
      WritesNumber (.float (Binary64.ofDecimal negative (digitsValue (ws ++ fraction.getD []))
        (exponent.getD 0 - (fraction.getD []).length))) (sign ++ (ws ++ (ftext ++ etext)))

inductive WritesUnit : Nat → List Char → Prop
  | plain {c : Char} (hquote : c ≠ '"') (hbackslash : c ≠ '\\') (hcontrol : 0x20 ≤ c.toNat) :
      WritesUnit c.toNat [c]
  | letter {c : Char} {n : Nat} (hletter : escaped? c = some n) : WritesUnit n ['\\', c]
  | number {a b c d : Char} {n : Nat} (hnumber : hexUnit? a b c d = some n) :
      WritesUnit n ['\\', 'u', a, b, c, d]

inductive WritesUnits : List Nat → List Char → Prop
  | nil : WritesUnits [] []
  | cons {n : Nat} {ns : List Nat} {unit cs : List Char} (hunit : WritesUnit n unit)
      (hrest : WritesUnits ns cs) : WritesUnits (n :: ns) (unit ++ cs)

inductive WritesString : String → List Char → Prop
  | quoted {ns : List Nat} {body : List Char} (hbody : WritesUnits ns body) :
      WritesString (String.ofList (joinUnits ns)) ('"' :: (body ++ ['"']))

/-! ### Values -/

mutual

/-- A value, in which arrays and objects lie at most `levels` deep. -/
inductive Writes : (levels : Nat) → Value → List Char → Prop
  | word {levels : Nat} {word : List Char} {v : Value} (hword : (word, v) ∈ words) :
      Writes levels v word
  | number {levels : Nat} {v : Value} {cs : List Char} (hnumber : WritesNumber v cs) :
      Writes levels v cs
  | text {levels : Nat} {s : String} {cs : List Char} (hstring : WritesString s cs) :
      Writes levels (.text s) cs
  | emptyArray {levels : Nat} {gap : List Char} (hgap : ∀ c ∈ gap, isGap c = true) :
      Writes (levels + 1) (.list []) ('[' :: (gap ++ [']']))
  | array {levels : Nat} {items : List Value} {cs : List Char}
      (hitems : WritesItems levels items cs) :
      Writes (levels + 1) (.list items) ('[' :: (cs ++ [']']))
  | emptyObject {levels : Nat} {gap : List Char} (hgap : ∀ c ∈ gap, isGap c = true) :
      Writes (levels + 1) (.map []) ('{' :: (gap ++ ['}']))
  | object {levels : Nat} {members : List (String × Value)} {cs : List Char}
      (hmembers : WritesMembers levels members cs) :
      Writes (levels + 1) (.map (OrderedMap.ofList members).entries) ('{' :: (cs ++ ['}']))

inductive WritesItems : (levels : Nat) → List Value → List Char → Prop
  | last {levels : Nat} {v : Value} {item cs : List Char} (hitem : Writes levels v item)
      (hcs : Encloses isGap item cs) : WritesItems levels [v] cs
  | next {levels : Nat} {v : Value} {vs : List Value} {item cs rest : List Char}
      (hitem : Writes levels v item) (hcs : Encloses isGap item cs)
      (hrest : WritesItems levels vs rest) : WritesItems levels (v :: vs) (cs ++ ',' :: rest)

inductive WritesMembers : (levels : Nat) → List (String × Value) → List Char → Prop
  | last {levels : Nat} {name : String} {v : Value} {quoted label item cs : List Char}
      (hname : WritesString name quoted) (hlabel : Encloses isGap quoted label)
      (hitem : Writes levels v item) (hcs : Encloses isGap item cs) :
      WritesMembers levels [(name, v)] (label ++ ':' :: cs)
  | next {levels : Nat} {name : String} {v : Value} {members : List (String × Value)}
      {quoted label item cs rest : List Char} (hname : WritesString name quoted)
      (hlabel : Encloses isGap quoted label) (hitem : Writes levels v item)
      (hcs : Encloses isGap item cs) (hrest : WritesMembers levels members rest) :
      WritesMembers levels ((name, v) :: members) (label ++ ':' :: (cs ++ ',' :: rest))

end

def Document (v : Value) (s : String) : Prop :=
  ∃ cs, Writes maxNesting v cs ∧ Encloses isGap cs s.toList

/-! ### What stands in the way -/

def NoneFirst (p : Char → Bool) (cs : List Char) : Prop := ∀ c ∈ cs.head?, p c = false

def IntegerEnds (rest : List Char) : Prop :=
  NoneFirst isAsciiDigit rest ∧
    (∀ ds text after, Fraction (some ds) text → rest ≠ text ++ after) ∧
      ∀ e text after, Exponent (some e) text → rest ≠ text ++ after

/-- A text that begins with an integer of `n` digits, which are too many to be converted. -/
def OversizedInteger (n : Nat) (cs : List Char) : Prop :=
  ∃ negative sign ws rest, Minus negative sign ∧ WholeDigits ws ∧ IntegerEnds rest ∧
    cs = sign ++ (ws ++ rest) ∧ n = ws.length ∧ maxIntegerDigits < n

/-- What is refused where a value has to stand in which arrays and objects lie `left` deep at most. -/
inductive Refused : (left : Nat) → ReadError → List Char → Prop
  | integer {left n : Nat} {cs : List Char} (hinteger : OversizedInteger n cs) :
      Refused left (.oversizedInteger n) cs
  | array {cs : List Char} : Refused 0 (.tooDeep .array) ('[' :: cs)
  | object {cs : List Char} : Refused 0 (.tooDeep .object) ('{' :: cs)

mutual

/--
The beginning of a value, behind which another value has to stand in which arrays and objects lie
at most `left` deep.
-/
inductive Reaches : (levels left : Nat) → List Char → Prop
  | here {levels : Nat} : Reaches levels levels []
  | array {levels left : Nat} {cs : List Char} (hitem : ReachesItem levels left cs) :
      Reaches (levels + 1) left ('[' :: cs)
  | object {levels left : Nat} {cs : List Char} (hmember : ReachesMember levels left cs) :
      Reaches (levels + 1) left ('{' :: cs)

inductive ReachesItem : (levels left : Nat) → List Char → Prop
  | within {levels left : Nat} {gap cs : List Char} (hgap : ∀ c ∈ gap, isGap c = true)
      (hcs : Reaches levels left cs) : ReachesItem levels left (gap ++ cs)
  | behind {levels left : Nat} {v : Value} {item cs rest : List Char}
      (hitem : Writes levels v item) (hcs : Encloses isGap item cs)
      (hrest : ReachesItem levels left rest) : ReachesItem levels left (cs ++ ',' :: rest)

inductive ReachesMember : (levels left : Nat) → List Char → Prop
  | within {levels left : Nat} {name : String} {quoted label gap cs : List Char}
      (hname : WritesString name quoted) (hlabel : Encloses isGap quoted label)
      (hgap : ∀ c ∈ gap, isGap c = true) (hcs : Reaches levels left cs) :
      ReachesMember levels left (label ++ ':' :: (gap ++ cs))
  | behind {levels left : Nat} {name : String} {v : Value} {quoted label item cs rest : List Char}
      (hname : WritesString name quoted) (hlabel : Encloses isGap quoted label)
      (hitem : Writes levels v item) (hcs : Encloses isGap item cs)
      (hrest : ReachesMember levels left rest) :
      ReachesMember levels left (label ++ ':' :: (cs ++ ',' :: rest))

end

/-- A text that follows the grammar up to something that is refused for its size. -/
def RefusedText (e : ReadError) (s : String) : Prop :=
  ∃ left before rest cs, Reaches maxNesting left before ∧ Refused left e rest ∧
    cs = before ++ rest ∧ ∃ gap, (∀ c ∈ gap, isGap c = true) ∧ s.toList = gap ++ cs

end RelationalModels.Json
