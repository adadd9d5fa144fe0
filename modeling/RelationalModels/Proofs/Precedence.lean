import RelationalModels.Proofs.Templates

/-!
# Precedence of attributes

An attribute can be written by a field and by a template, in camel case and, for three of the ten,
also in snake case. `field_attributes_precede` states which of these counts where both mappings can
be read: what the field writes, in camel case first, even when it is null, and otherwise what the
template writes. All other names and the choice between two spellings change nothing, and what comes
out is not changed by merging it again.
-/

namespace RelationalModels

inductive FieldAttribute where
  | type
  | maxLength
  | required
  | unique
  | comment
  | characterSet
  | collation
  | data
  | hasMany
  | default
  deriving DecidableEq

namespace FieldAttribute

def name : FieldAttribute → String
  | type => "type"
  | maxLength => "max_length"
  | required => "required"
  | unique => "unique"
  | comment => "comment"
  | characterSet => "character_set"
  | collation => "collation"
  | data => "data"
  | hasMany => "has_many"
  | default => "default"

def all : List FieldAttribute :=
  [type, maxLength, required, unique, comment, characterSet, collation, data, hasMany, default]

def spellings : FieldAttribute → List String
  | maxLength => ["maxLength", "max_length"]
  | characterSet => ["characterSet", "character_set"]
  | hasMany => ["hasMany", "has_many"]
  | a => [a.name]

def convert : FieldAttribute → Check Value
  | maxLength => fun v => (Check.integer v).map .int
  | required | unique | hasMany => fun v => (Check.boolean v).map .bool
  | type | comment | characterSet | collation | data => fun v => (Check.text v).map .text
  | default => Check.any

def validated (a : FieldAttribute) : Check Value
  | .null => .valid .null
  | v => a.convert v

def written? (a : FieldAttribute) (m : OrderedMap Value) : Option Value :=
  a.spellings.findSome? m.get?

end FieldAttribute

/-- Two mappings that write the same attributes, whatever spellings and other names they have. -/
def WriteAlike (m n : OrderedMap Value) : Prop :=
  ∀ a : FieldAttribute, a.written? n = a.written? m

/-! ### One attribute -/

namespace Slot

variable {α : Type} {check : Check α} {s : Slot α} {m n : OrderedMap Value} {names : List String}

theorem member?_value (m : OrderedMap Value) (names : List String) :
    (m.member? names).map Prod.snd = names.findSome? m.get? := by
  induction names with
  | nil => rfl
  | cons name names ih =>
    rw [OrderedMap.member?] at ih ⊢
    rw [List.findSome?_cons, List.findSome?_cons]
    cases m.get? name with
    | none => exact ih
    | some v => rfl

def ofWritten (check : Check α) : Option Value → Validated (Slot α)
  | none => .valid unset
  | some .null => .valid null
  | some v => (check v).map value

theorem ofMember_eq_valid_iff :
    ofMember m names check = .valid s ↔ ofWritten check (names.findSome? m.get?) = .valid s := by
  rw [← member?_value, ofMember]
  rcases m.member? names with _ | ⟨name, v⟩
  · rfl
  · cases v with
    | null => rfl
    | _ =>
      rw [Option.map_some]
      simp only [ofWritten]
      cases check _ <;> simp [Validated.under, Validated.map]

theorem ofMember_congr (h : names.findSome? n.get? = names.findSome? m.get?)
    (hread : ofMember m names check = .valid s) : ofMember n names check = .valid s := by
  rw [ofMember_eq_valid_iff] at hread ⊢
  rw [h]
  exact hread

theorem written?_laidOver (upper lower : Slot α) (toValue : α → Value) :
    (upper.laidOver lower).written? toValue =
      (upper.written? toValue).or (lower.written? toValue) := by
  cases upper <;> rfl

theorem laidOver_laidOver (upper lower : Slot α) :
    (upper.laidOver lower).laidOver lower = upper.laidOver lower := by
  cases upper <;> cases lower <;> rfl

end Slot

/-- What stands for an attribute that is not written, or is written as a value. -/
def Settles (validated : Check Value) : Option Value → Option Value → Prop
  | none, settled => settled = none
  | some v, settled => ∃ w, validated v = .valid w ∧ settled = some w

namespace FieldAttribute

theorem validated_of_ne (a : FieldAttribute) {v : Value} (h : v ≠ .null) :
    a.validated v = a.convert v := by
  cases v with
  | null => exact absurd rfl h
  | _ => rfl

theorem settles_of_ofMember {α : Type} {a : FieldAttribute} {check : Check α} {s : Slot α}
    {m : OrderedMap Value} {toValue : α → Value}
    (hconvert : ∀ v, a.convert v = (check v).map toValue)
    (h : Slot.ofMember m a.spellings check = .valid s) :
    Settles a.validated (a.written? m) (s.written? toValue) := by
  rw [Slot.ofMember_eq_valid_iff] at h
  change Slot.ofWritten check (a.written? m) = .valid s at h
  cases hwritten : a.written? m with
  | none =>
    rw [hwritten] at h
    obtain rfl : Slot.unset = s := Validated.valid.inj h
    rfl
  | some v =>
    rw [hwritten] at h
    -- a null is kept, whatever the check says of it
    by_cases hnull : v = .null
    · subst hnull
      obtain rfl : Slot.null = s := Validated.valid.inj h
      exact ⟨.null, rfl, rfl⟩
    · have hread : (check v).map Slot.value = .valid s := by
        cases v with
        | null => exact absurd rfl hnull
        | _ => exact h
      obtain ⟨x, hx, rfl⟩ := Validated.map_eq_valid_iff.mp hread
      refine ⟨toValue x, ?_, rfl⟩
      rw [a.validated_of_ne hnull, hconvert, hx]
      rfl

end FieldAttribute

/-! ### All attributes -/

namespace Attributes

variable {m n : OrderedMap Value} {a upper lower : Attributes}

def written? (a : Attributes) : FieldAttribute → Option Value
  | .type => a.type.written? .text
  | .maxLength => a.maxLength.written? .int
  | .required => a.required.written? .bool
  | .unique => a.unique.written? .bool
  | .comment => a.comment.written? .text
  | .characterSet => a.characterSet.written? .text
  | .collation => a.collation.written? .text
  | .data => a.data.written? .text
  | .hasMany => a.hasMany.written? .bool
  | .default => a.default.written? id

theorem get?_toMap_name (a : Attributes) (f : FieldAttribute) :
    a.toMap.get? f.name = a.written? f := by
  rw [get?_toMap]
  cases f <;>
    simp [entries, written?, FieldAttribute.name, List.lookup_append, Slot.lookup_entry]

theorem names_toMap {name : String} (h : name ∈ a.toMap.names) :
    ∃ f : FieldAttribute, name = f.name := by
  rw [OrderedMap.names, toMap, OrderedMap.ofList_entries a.entries a.entries_nodup] at h
  have hname : name ∈ FieldAttribute.all.map FieldAttribute.name := a.entries_names_sublist.subset h
  obtain ⟨f, -, hf⟩ := List.mem_map.mp hname
  exact ⟨f, hf.symm⟩

theorem written?_laidOver (upper lower : Attributes) (f : FieldAttribute) :
    (upper.laidOver lower).written? f = (upper.written? f).or (lower.written? f) := by
  cases f <;> exact Slot.written?_laidOver ..

theorem laidOver_laidOver (upper lower : Attributes) :
    (upper.laidOver lower).laidOver lower = upper.laidOver lower := by
  simp only [laidOver, Slot.laidOver_laidOver]

theorem settles_of_ofMap (h : ofMap m = .valid a) (f : FieldAttribute) :
    Settles f.validated (f.written? m) (a.written? f) := by
  obtain ⟨htype, hlength, hrequired, hunique, hcomment, hset, hcollation, hdata, hmany,
    hdefault⟩ := ofMap_eq_valid_iff.mp h
  cases f with
  | type => exact FieldAttribute.settles_of_ofMember (fun _ => rfl) htype
  | maxLength => exact FieldAttribute.settles_of_ofMember (fun _ => rfl) hlength
  | required => exact FieldAttribute.settles_of_ofMember (fun _ => rfl) hrequired
  | unique => exact FieldAttribute.settles_of_ofMember (fun _ => rfl) hunique
  | comment => exact FieldAttribute.settles_of_ofMember (fun _ => rfl) hcomment
  | characterSet => exact FieldAttribute.settles_of_ofMember (fun _ => rfl) hset
  | collation => exact FieldAttribute.settles_of_ofMember (fun _ => rfl) hcollation
  | data => exact FieldAttribute.settles_of_ofMember (fun _ => rfl) hdata
  | hasMany => exact FieldAttribute.settles_of_ofMember (fun _ => rfl) hmany
  | default => exact FieldAttribute.settles_of_ofMember (fun _ => rfl) hdefault

theorem ofMap_of_writeAlike (halike : WriteAlike m n) (h : ofMap m = .valid a) :
    ofMap n = .valid a := by
  obtain ⟨htype, hlength, hrequired, hunique, hcomment, hset, hcollation, hdata, hmany,
    hdefault⟩ := ofMap_eq_valid_iff.mp h
  exact ofMap_eq_valid_iff.mpr ⟨Slot.ofMember_congr (halike .type) htype,
    Slot.ofMember_congr (halike .maxLength) hlength,
    Slot.ofMember_congr (halike .required) hrequired,
    Slot.ofMember_congr (halike .unique) hunique, Slot.ofMember_congr (halike .comment) hcomment,
    Slot.ofMember_congr (halike .characterSet) hset,
    Slot.ofMember_congr (halike .collation) hcollation,
    Slot.ofMember_congr (halike .data) hdata, Slot.ofMember_congr (halike .hasMany) hmany,
    Slot.ofMember_congr (halike .default) hdefault⟩

end Attributes

namespace WriteAlike

theorem refl (m : OrderedMap Value) : WriteAlike m m := fun _ => rfl

theorem insert {name : String} (h : ∀ a : FieldAttribute, name ∉ a.spellings)
    (m : OrderedMap Value) (v : Value) : WriteAlike m (m.insert name v) := by
  intro a
  have hnot := h a
  rw [FieldAttribute.written?, FieldAttribute.written?]
  generalize a.spellings = spellings at hnot ⊢
  induction spellings with
  | nil => rfl
  | cons spelling rest ih =>
    have hne : spelling ≠ name := fun heq => hnot (heq ▸ List.mem_cons_self ..)
    rw [List.findSome?_cons, List.findSome?_cons, OrderedMap.get?_insert, if_neg hne,
      ih fun hmem => hnot (List.mem_cons_of_mem _ hmem)]

end WriteAlike

/-! ### Merging -/

/--
What comes out when the attributes of a field are laid over those of a template: an attribute stands
there when one of the two writes it, with the value that the field writes or else the template, and
nothing else stands there.
-/
structure Precedes (raw template merged : OrderedMap Value) : Prop where
  names : ∀ name ∈ merged.names, ∃ a : FieldAttribute, name = a.name
  mem_names_iff : ∀ a : FieldAttribute, a.name ∈ merged.names ↔
    (a.written? raw).isSome = true ∨ (a.written? template).isSome = true
  own : ∀ (a : FieldAttribute) v, a.written? raw = some v →
    ∃ w, a.validated v = .valid w ∧ merged.get? a.name = some w
  inherited : ∀ (a : FieldAttribute) v, a.written? raw = none → a.written? template = some v →
    ∃ w, a.validated v = .valid w ∧ merged.get? a.name = some w

section Merging

variable {raw template : OrderedMap Value} {upper lower : Attributes}

theorem get?_merged (hraw : Attributes.ofMap raw = .valid upper)
    (htemplate : Attributes.ofMap template = .valid lower) (a : FieldAttribute) :
    Settles a.validated ((a.written? raw).or (a.written? template))
      ((upper.laidOver lower).toMap.get? a.name) := by
  have hupper := Attributes.settles_of_ofMap hraw a
  have hlower := Attributes.settles_of_ofMap htemplate a
  rw [Attributes.get?_toMap_name, Attributes.written?_laidOver]
  cases hwritten : a.written? raw with
  | none =>
    rw [hwritten] at hupper
    have hnone : upper.written? a = none := hupper
    rw [hnone, Option.none_or, Option.none_or]
    exact hlower
  | some v =>
    rw [hwritten] at hupper
    obtain ⟨w, hw, hsome⟩ := hupper
    rw [hsome]
    exact ⟨w, hw, rfl⟩

theorem merged_precedes (hraw : Attributes.ofMap raw = .valid upper)
    (htemplate : Attributes.ofMap template = .valid lower) :
    Precedes raw template (upper.laidOver lower).toMap where
  names _ hname := Attributes.names_toMap hname
  mem_names_iff a := by
    have hsettles := get?_merged hraw htemplate a
    rw [← Bool.or_eq_true, ← Option.isSome_or, ← not_iff_not, ← OrderedMap.get?_eq_none_iff,
      Option.not_isSome_iff_eq_none]
    cases hwritten : (a.written? raw).or (a.written? template) with
    | none =>
      rw [hwritten] at hsettles
      exact iff_of_true hsettles rfl
    | some v =>
      rw [hwritten] at hsettles
      obtain ⟨w, -, hw⟩ := hsettles
      rw [hw]
      exact iff_of_false nofun nofun
  own a v hv := by
    have hsettles := get?_merged hraw htemplate a
    rw [hv] at hsettles
    exact hsettles
  inherited a v hnone hv := by
    have hsettles := get?_merged hraw htemplate a
    rw [hnone, hv] at hsettles
    exact hsettles

/--
What a field writes for an attribute comes out, in the first of its spellings and even when it is a
null, and otherwise what the template writes. Names that are no attribute's and the choice of a
spelling change nothing, and neither does it to merge once more without a template or over the same.
-/
theorem field_attributes_precede (hraw : Attributes.ofMap raw = .valid upper)
    (htemplate : Attributes.ofMap template = .valid lower) :
    ∃ merged : Attributes, (∀ place, mergeAttributes raw template place = .ok merged) ∧
      Precedes raw template merged.toMap ∧
      (∀ raw' template', WriteAlike raw raw' → WriteAlike template template' →
        ∀ place, mergeAttributes raw' template' place = .ok merged) ∧
      (∀ name v, (∀ a : FieldAttribute, name ∉ a.spellings) → ∀ place,
        mergeAttributes (raw.insert name v) template place = .ok merged ∧
          mergeAttributes raw (template.insert name v) place = .ok merged) ∧
      ∀ place, mergeAttributes merged.toMap .empty place = .ok merged ∧
        mergeAttributes merged.toMap template place = .ok merged := by
  have hmerge : ∀ place, mergeAttributes raw template place = .ok (upper.laidOver lower) :=
    fun place => mergeAttributes_eq_ok_iff.mpr ⟨lower, upper, htemplate, hraw, rfl⟩
  have halike : ∀ raw' template', WriteAlike raw raw' → WriteAlike template template' →
      ∀ place, mergeAttributes raw' template' place = .ok (upper.laidOver lower) := by
    intro raw' template' hr ht place
    exact mergeAttributes_eq_ok_iff.mpr ⟨lower, upper, Attributes.ofMap_of_writeAlike ht htemplate,
      Attributes.ofMap_of_writeAlike hr hraw, rfl⟩
  -- what comes out is read again as it is, which makes it a fixed point
  have hread : Attributes.ofMap (upper.laidOver lower).toMap = .valid (upper.laidOver lower) :=
    Attributes.ofMap_written (.refl _) (Attributes.laidOver_default_ne
      (Attributes.default_ne_of_ofMap hraw) (Attributes.default_ne_of_ofMap htemplate))
  refine ⟨upper.laidOver lower, hmerge, merged_precedes hraw htemplate, halike, ?_, ?_⟩
  · intro name v hname place
    exact ⟨halike _ _ (.insert hname raw v) (.refl template) place,
      halike _ _ (.refl raw) (.insert hname template v) place⟩
  · intro place
    refine ⟨mergeAttributes_eq_ok_iff.mpr ⟨{}, _, rfl, hread, ?_⟩,
      mergeAttributes_eq_ok_iff.mpr ⟨lower, _, htemplate, hread, ?_⟩⟩
    · exact (Attributes.laidOver_unset _).symm
    · exact (Attributes.laidOver_laidOver upper lower).symm

end Merging

def titleMapping : OrderedMap Value :=
  .ofList
    [("max_length", .int 9), ("maxLength", .text "80"), ("comment", .null),
     ("label", .text "Title"), ("has_many", .int 0)]

def titleTemplate : OrderedMap Value :=
  .ofList
    [("maxLength", .int 255), ("required", .text "yes"), ("comment", .text "none"),
     ("characterSet", .text "utf8")]

theorem title_attributes_precede :
    ∃ upper lower merged : Attributes, Attributes.ofMap titleMapping = .valid upper ∧
      Attributes.ofMap titleTemplate = .valid lower ∧
      (∀ place, mergeAttributes titleMapping titleTemplate place = .ok merged) ∧
      Precedes titleMapping titleTemplate merged.toMap ∧
      merged.toMap.entries =
        [("max_length", .int 80), ("required", .bool true), ("comment", .null),
          ("character_set", .text "utf8"), ("has_many", .bool false)] ∧
      (∀ place, mergeAttributes (titleMapping.insert "label" .null) titleTemplate place =
        .ok merged) ∧
      ∀ place, mergeAttributes merged.toMap .empty place = .ok merged ∧
        mergeAttributes merged.toMap titleTemplate place = .ok merged := by
  have hraw : Attributes.ofMap titleMapping =
      .valid { maxLength := .value 80, comment := .null, hasMany := .value false } := by
    decide +kernel
  have htemplate : Attributes.ofMap titleTemplate =
      .valid
        { maxLength := .value 255, required := .value true, comment := .value "none",
          characterSet := .value "utf8" } := by
    decide +kernel
  obtain ⟨merged, hmerge, hprecedes, -, hunknown, hagain⟩ := field_attributes_precede hraw htemplate
  have hmerged : mergeAttributes titleMapping titleTemplate ⟨"note", some "title"⟩ =
      .ok
        { maxLength := .value 80, required := .value true, comment := .null,
          characterSet := .value "utf8", hasMany := .value false } := by
    decide +kernel
  obtain rfl := Except.ok.inj ((hmerge ⟨"note", some "title"⟩).symm.trans hmerged)
  have hlabel : ∀ a : FieldAttribute, "label" ∉ a.spellings := by
    intro a
    cases a <;> decide
  exact ⟨_, _, _, hraw, htemplate, hmerge, hprecedes, by decide +kernel,
    fun place => (hunknown "label" .null hlabel place).1, hagain⟩

end RelationalModels
