import RelationalModels.Decimal.AttributeNumeral
import RelationalModels.OrderedMap
import RelationalModels.Validation.Validated
import RelationalModels.Value

/-!
# Checks

A check turns a dynamic value into a typed one. Numbers and truth values may be written in several
ways: an integer also as a truth value, as a float without a fraction or as a text; a truth value
also as a zero or a one or as one of a few words. The members of a record are looked up by name,
and a member with two names is taken from the first name that is written.
-/

namespace RelationalModels

open RelationalModels.Decimal

abbrev Check (α : Type) := Value → Validated α

namespace Check

variable {α : Type}

def any : Check Value := .valid

def text : Check String
  | .text s => .valid s
  | _ => .fail .notText

def integer : Check Int
  | .int n => .valid n
  | .bool b => .valid (if b then 1 else 0)
  | .float x =>
    if x.isFinite then
      match x.toInt? with
      | some n => if n.natAbs < Nat.pow 2 63 then .valid n else .fail .oversizedInteger
      | none => .fail .fractionalInteger
    else .fail .infiniteInteger
  | .text s =>
    match AttributeNumeral.ofText s with
    | .value n => .valid n
    | .tooLong _ => .fail .oversizedInteger
    | .malformed => .fail .unreadableInteger
  | _ => .fail .notInteger

def trueWords : List String := ["1", "true", "t", "yes", "y", "on"]

def falseWords : List String := ["0", "false", "f", "no", "n", "off"]

/-- The truth value a 64-bit integer stands for. -/
def booleanOfInt (n : Int) : Validated Bool :=
  if n = 1 then .valid true else if n = 0 then .valid false else .fail .unreadableBoolean

def boolean : Check Bool
  | .bool b => .valid b
  | .int n =>
    -- integers beyond 64 bits are refused like values of another kind
    if -(Nat.pow 2 63 : Int) ≤ n ∧ n < Nat.pow 2 63 then booleanOfInt n
    else .fail .notBoolean
  | .float x =>
    match x.toInt? with
    | some n => if n.natAbs < Nat.pow 2 63 then booleanOfInt n else .fail .notBoolean
    | none => .fail .notBoolean
  | .text s =>
    let word := String.ofList (s.toList.map Text.asciiLower)
    if word ∈ trueWords then .valid true
    else if word ∈ falseWords then .valid false
    else .fail .unreadableBoolean
  | _ => .fail .notBoolean

def mapping : Check (OrderedMap Value)
  | .map entries => .valid (OrderedMap.ofList entries)
  | _ => .fail .notMapping

def nullable (check : Check α) : Check (Option α)
  | .null => .valid none
  | v => (check v).map some

def itemsFrom (check : Check α) : Nat → List Value → Validated (List α)
  | _, [] => .valid []
  | n, v :: vs => List.cons <$> (check v).under (.index n) <*> itemsFrom check (n + 1) vs

def listOf (check : Check α) : Check (List α)
  | .list items => itemsFrom check 0 items
  | _ => .fail .notList

def entriesOf (check : Check α) : List (String × Value) → Validated (List (String × α))
  | [] => .valid []
  | e :: rest =>
    List.cons <$> ((check e.2).under (.key e.1)).map (fun a => (e.1, a)) <*> entriesOf check rest

def mapOf (check : Check α) : Check (OrderedMap α) := fun v =>
  (mapping v).refine fun m => (entriesOf check m.entries).map OrderedMap.ofList

def among (options : List (String × α)) : Check α
  | .text s =>
    match options.lookup s with
    | some a => .valid a
    | none => .fail (.notAmong (options.map Prod.fst))
  | _ => .fail (.notAmong (options.map Prod.fst))

def atLeast (bound : Int) : Check Int := fun v =>
  (integer v).refine fun n => if n < bound then .fail (.below bound) else .valid n

def between (low high : Int) : Check Int := fun v =>
  (integer v).refine fun n =>
    if n < low then .fail (.below low)
    else if high < n then .fail (.above high)
    else .valid n

/-- A record, given as a mapping; other values are refused under the record's name. -/
def record (name : String) (members : OrderedMap Value → Validated α) : Check α
  | .map entries => members (OrderedMap.ofList entries)
  | _ => .fail (.notRecord name)

end Check

/-- A member of a record, under the first of its names that is written. -/
def OrderedMap.member? (m : OrderedMap Value) (names : List String) : Option (String × Value) :=
  names.findSome? fun name => (m.get? name).map fun v => (name, v)

def OrderedMap.required {α : Type} (m : OrderedMap Value) (name : String) (check : Check α) :
    Validated α :=
  match m.get? name with
  | some v => (check v).under (.key name)
  | none => (Validated.fail .missing).under (.key name)

def OrderedMap.optional {α : Type} (m : OrderedMap Value) (name : String) (check : Check α)
    (default : α) : Validated α :=
  match m.get? name with
  | some v => (check v).under (.key name)
  | none => .valid default

end RelationalModels
