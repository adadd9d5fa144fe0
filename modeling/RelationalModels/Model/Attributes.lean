import RelationalModels.Validation.Check

/-!
# Attributes of fields

The attributes a field declares, or a template supplies for fields that do not. An attribute is
left out, written as null or written with a value; `Attributes.laidOver` lays one set of attributes
over another, where whatever is written wins.
-/

namespace RelationalModels

inductive Slot (α : Type) where
  | unset
  | null
  | value (a : α)
  deriving DecidableEq

namespace Slot

variable {α : Type}

instance : Inhabited (Slot α) := ⟨unset⟩

def toOption : Slot α → Option α
  | value a => some a
  | _ => none

def laidOver (upper lower : Slot α) : Slot α :=
  match upper with
  | unset => lower
  | s => s

def entry (name : String) (toValue : α → Value) : Slot α → List (String × Value)
  | unset => []
  | null => [(name, .null)]
  | value a => [(name, toValue a)]

/-- A member with several names: the first name that is written counts. -/
def ofMember (m : OrderedMap Value) (names : List String) (check : Check α) :
    Validated (Slot α) :=
  match m.member? names with
  | none => .valid unset
  | some (_, .null) => .valid null
  | some (name, v) => ((check v).under (.key name)).map value

end Slot

structure Attributes where
  type : Slot String := .unset
  maxLength : Slot Int := .unset
  required : Slot Bool := .unset
  unique : Slot Bool := .unset
  comment : Slot String := .unset
  characterSet : Slot String := .unset
  collation : Slot String := .unset
  data : Slot String := .unset
  hasMany : Slot Bool := .unset
  default : Slot Value := .unset
  deriving DecidableEq, Inhabited

namespace Attributes

/-- The attributes a mapping writes; other members are ignored. -/
def ofMap (m : OrderedMap Value) : Validated Attributes :=
  Attributes.mk <$> Slot.ofMember m ["type"] Check.text
    <*> Slot.ofMember m ["maxLength", "max_length"] Check.integer
    <*> Slot.ofMember m ["required"] Check.boolean
    <*> Slot.ofMember m ["unique"] Check.boolean
    <*> Slot.ofMember m ["comment"] Check.text
    <*> Slot.ofMember m ["characterSet", "character_set"] Check.text
    <*> Slot.ofMember m ["collation"] Check.text
    <*> Slot.ofMember m ["data"] Check.text
    <*> Slot.ofMember m ["hasMany", "has_many"] Check.boolean
    <*> Slot.ofMember m ["default"] Check.any

theorem ofMap_eq_valid_iff {m : OrderedMap Value} {a : Attributes} : ofMap m = .valid a ↔
    Slot.ofMember m ["type"] Check.text = .valid a.type ∧
    Slot.ofMember m ["maxLength", "max_length"] Check.integer = .valid a.maxLength ∧
    Slot.ofMember m ["required"] Check.boolean = .valid a.required ∧
    Slot.ofMember m ["unique"] Check.boolean = .valid a.unique ∧
    Slot.ofMember m ["comment"] Check.text = .valid a.comment ∧
    Slot.ofMember m ["characterSet", "character_set"] Check.text = .valid a.characterSet ∧
    Slot.ofMember m ["collation"] Check.text = .valid a.collation ∧
    Slot.ofMember m ["data"] Check.text = .valid a.data ∧
    Slot.ofMember m ["hasMany", "has_many"] Check.boolean = .valid a.hasMany ∧
    Slot.ofMember m ["default"] Check.any = .valid a.default := by
  constructor
  · intro h
    simp only [ofMap, Validated.seq_eq_valid_iff, Validated.map_eq_valid_iff] at h
    obtain ⟨_, _, ⟨_, _, ⟨_, _, ⟨_, _, ⟨_, _, ⟨_, _, ⟨_, _, ⟨_, _, ⟨_, _, ⟨_, htype, rfl⟩,
      hlength, rfl⟩, hrequired, rfl⟩, hunique, rfl⟩, hcomment, rfl⟩, hset, rfl⟩, hcollation, rfl⟩,
      hdata, rfl⟩, hmany, rfl⟩, hdefault, rfl⟩ := h
    exact ⟨htype, hlength, hrequired, hunique, hcomment, hset, hcollation, hdata, hmany, hdefault⟩
  · rintro ⟨htype, hlength, hrequired, hunique, hcomment, hset, hcollation, hdata, hmany, hdefault⟩
    rw [ofMap, htype, hlength, hrequired, hunique, hcomment, hset, hcollation, hdata, hmany,
      hdefault]
    rfl

/-- The first attributes over the second: what the first write wins. -/
def laidOver (upper lower : Attributes) : Attributes where
  type := upper.type.laidOver lower.type
  maxLength := upper.maxLength.laidOver lower.maxLength
  required := upper.required.laidOver lower.required
  unique := upper.unique.laidOver lower.unique
  comment := upper.comment.laidOver lower.comment
  characterSet := upper.characterSet.laidOver lower.characterSet
  collation := upper.collation.laidOver lower.collation
  data := upper.data.laidOver lower.data
  hasMany := upper.hasMany.laidOver lower.hasMany
  default := upper.default.laidOver lower.default

theorem laidOver_unset (a : Attributes) : a.laidOver {} = a := by
  have hslot : ∀ {α : Type} (s : Slot α), s.laidOver .unset = s := fun s => by cases s <;> rfl
  simp only [laidOver, hslot]

def entries (a : Attributes) : List (String × Value) :=
  a.type.entry "type" .text ++ a.maxLength.entry "max_length" .int ++
    a.required.entry "required" .bool ++ a.unique.entry "unique" .bool ++
    a.comment.entry "comment" .text ++ a.characterSet.entry "character_set" .text ++
    a.collation.entry "collation" .text ++ a.data.entry "data" .text ++
    a.hasMany.entry "has_many" .bool ++ a.default.entry "default" id

def toMap (a : Attributes) : OrderedMap Value := OrderedMap.ofList a.entries

end Attributes

def defaultTemplate : OrderedMap Value :=
  .ofList
    [("type", .text "string"), ("maxLength", .int 255), ("required", .bool false),
     ("unique", .bool false), ("comment", .null), ("characterSet", .null), ("collation", .null),
     ("hasMany", .bool false), ("default", .null)]

end RelationalModels
