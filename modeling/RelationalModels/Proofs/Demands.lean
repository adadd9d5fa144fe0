import RelationalModels.Proofs.Compilation

/-!
# What compiling demands of models

Compiling looks at one thing after the other: whether each model can be admitted and then, field by
field, whether the template and the attributes can be read, the type exists and a relation has a
target among the models. `compile_meets_demands` states that a schema is made exactly when all of
this holds, and that any error is that of the first demand that is not met.
-/

namespace RelationalModels

/-! ### Failures of runs over lists -/

section Failure

variable {ε α β γ : Type}

theorem failure?_run (step : α → Except ε β) (run : List α → Except ε γ)
    (hnil : failure? (run []) = none)
    (hcons : ∀ a as, failure? (run (a :: as)) = (failure? (step a)).or (failure? (run as)))
    (as : List α) : failure? (run as) = as.findSome? fun a => failure? (step a) := by
  induction as with
  | nil => exact hnil
  | cons a as ih =>
    rw [hcons, ih, List.findSome?_cons]
    cases failure? (step a) <;> rfl

theorem findSome?_flatMap {f : β → Option γ} {g : α → List β} {as : List α} :
    (as.flatMap g).findSome? f = as.findSome? fun a => (g a).findSome? f := by
  induction as with
  | nil => rfl
  | cons a as ih =>
    rw [List.flatMap_cons, List.findSome?_append, ih, List.findSome?_cons]
    cases (g a).findSome? f <;> rfl

end Failure

/-! ### Demands on fields -/

inductive FieldDemand where
  | template
  | attributes
  | type
  | data
  | target

namespace FieldDemand

def all : List FieldDemand := [template, attributes, type, data, target]

def readFailure? (place : FieldPlace) : Validated Attributes → Option ModelError
  | .invalid issues => some (.invalidAttributes place issues)
  | .valid _ => none

def typeFailure? (place : FieldPlace) (a : Attributes) : Option ModelError :=
  match a.type with
  | .value token =>
    if token ∈ FieldType.all.map FieldType.token then none else some (.unknownType token place)
  | _ => none

def dataFailure? (place : FieldPlace) (a : Attributes) : Option ModelError :=
  if a.type = .value FieldType.relation.token ∧ a.data ∈ [.unset, .null, .value ""] then
    some (.missingAttribute "data" place)
  else none

def targetFailure? (names : List String) (place : FieldPlace) (a : Attributes) :
    Option ModelError :=
  match a.data with
  | .value model =>
    if a.type = .value FieldType.relation.token ∧ model ∉ names then
      some (.unknownTarget model place)
    else none
  | _ => none

/--
The error with which a field fails a demand. The last three demands are about the attributes of the
field over those of the template, when both can be read.
-/
def failure? (names : List String) (template raw : OrderedMap Value) (place : FieldPlace) :
    FieldDemand → Option ModelError
  | .template => readFailure? place (Attributes.ofMap template)
  | .attributes => readFailure? place (Attributes.ofMap raw)
  | .type => (mergeAttributes raw template place).toOption.bind (typeFailure? place)
  | .data => (mergeAttributes raw template place).toOption.bind (dataFailure? place)
  | .target => (mergeAttributes raw template place).toOption.bind (targetFailure? names place)

end FieldDemand

theorem Attributes.isRelation_iff (a : Attributes) :
    FieldType.ofToken? a.typeToken = some .relation ↔ a.type = .value FieldType.relation.token := by
  rw [FieldType.ofToken?_eq_some_iff, Attributes.typeToken]
  cases a.type with
  | unset => simp [Slot.toOption, FieldType.token]
  | null => simp [Slot.toOption, FieldType.token]
  | value token => simp [Slot.toOption]

theorem nonemptyName_eq_none_iff {s : Slot String} :
    nonemptyName s.toOption = none ↔ s ∈ [.unset, .null, .value ""] := by
  cases s with
  | unset => simp [Slot.toOption, nonemptyName]
  | null => simp [Slot.toOption, nonemptyName]
  | value name => by_cases hname : name = "" <;> simp [Slot.toOption, nonemptyName, hname]

theorem value_of_nonemptyName {s : Slot String} {name : String}
    (h : nonemptyName s.toOption = some name) : s = .value name := by
  cases s with
  | unset => cases h
  | null => cases h
  | value other =>
    obtain ⟨hname, -⟩ := nonemptyName_eq_some_iff.mp h
    obtain rfl : other = name := Option.some.inj hname
    rfl

namespace FieldDemand

variable {models : Models} {m : Model} {template raw : OrderedMap Value} {name : String}
  {place : FieldPlace}

theorem failure?_mergeAttributes (raw template : OrderedMap Value) (place : FieldPlace) :
    RelationalModels.failure? (mergeAttributes raw template place) =
      (readFailure? place (Attributes.ofMap template)).or
        (readFailure? place (Attributes.ofMap raw)) := by
  unfold mergeAttributes
  cases Attributes.ofMap template with
  | invalid issues => rfl
  | valid lower => cases Attributes.ofMap raw <;> rfl

theorem typeFailure?_eq (a : Attributes) :
    typeFailure? place a =
      if FieldType.ofToken? a.typeToken = none then some (.unknownType a.typeToken place)
      else none := by
  unfold typeFailure? Attributes.typeToken
  cases a.type with
  | unset => rfl
  | null => rfl
  | value token =>
    by_cases htoken : token ∈ FieldType.all.map FieldType.token
    · have hsome := mt FieldType.ofToken?_eq_none_iff.mp (not_not_intro htoken)
      simp only [Slot.toOption, Option.getD_some, htoken, hsome, if_true, if_false]
    · have hnone := FieldType.ofToken?_eq_none_iff.mpr htoken
      simp only [Slot.toOption, Option.getD_some, htoken, hnone, if_true, if_false]

theorem failure?_settled (a : Attributes) :
    RelationalModels.failure? (match Field.ofAttributes name a ⟨m.id, some name⟩ with
        | .error e => .error e
        | .ok f => Contribution.ofField models m f) =
      (typeFailure? ⟨m.id, some name⟩ a).or ((dataFailure? ⟨m.id, some name⟩ a).or
        (targetFailure? models.names ⟨m.id, some name⟩ a)) := by
  simp only [typeFailure?_eq, dataFailure?, targetFailure?, ← a.isRelation_iff,
    ← nonemptyName_eq_none_iff]
  cases htype : FieldType.ofToken? a.typeToken with
  | none => simp [Field.ofAttributes, htype, RelationalModels.failure?]
  | some type =>
    cases type with
    | scalar type =>
      cases a.data <;>
        simp [Field.ofAttributes, htype, Contribution.ofField, RelationalModels.failure?]
    | relation =>
      cases hdata : nonemptyName a.data.toOption with
      | none => simp [Field.ofAttributes, htype, hdata, RelationalModels.failure?]
      | some target =>
        simp only [value_of_nonemptyName hdata, ← OrderedMap.get?_eq_none_iff]
        cases hget : models.get? target with
        | none =>
          simp [Field.ofAttributes, htype, hdata, Contribution.ofField, hget, Attributes.traits,
            RelationalModels.failure?]
        | some targetModel =>
          cases hmany : a.hasMany.toOption.getD false <;>
            simp [Field.ofAttributes, htype, hdata, Contribution.ofField, hget, hmany,
              RelationalModels.failure?]

theorem findSome?_all (f : FieldDemand → Option ModelError) :
    all.findSome? f =
      (f .template).or ((f .attributes).or ((f .type).or ((f .data).or (f .target)))) := by
  simp only [all, List.findSome?_cons, List.findSome?_nil]
  cases f .template <;> cases f .attributes <;> cases f .type <;> cases f .data <;>
    cases f .target <;> rfl

theorem failure?_ofDeclaration (models : Models) (m : Model) (template : OrderedMap Value)
    (name : String) (raw : OrderedMap Value) :
    RelationalModels.failure? (Contribution.ofDeclaration models m template name raw) =
      all.findSome? (failure? models.names template raw ⟨m.id, some name⟩) := by
  have hread := failure?_mergeAttributes raw template ⟨m.id, some name⟩
  rw [findSome?_all]
  simp only [failure?]
  rw [← Option.or_assoc, ← hread]
  unfold Contribution.ofDeclaration Field.resolve
  dsimp only
  cases hmerge : mergeAttributes raw template ⟨m.id, some name⟩ with
  | error e => rfl
  | ok a => exact failure?_settled a

end FieldDemand

/-! ### Fields that meet their demands -/

structure Attributes.Sound (names : List String) (a : Attributes) : Prop where
  type : a.type = .unset ∨ a.type = .null ∨ ∃ t : FieldType, a.type = .value t.token
  target : a.type = .value FieldType.relation.token →
    ∃ name, a.data = .value name ∧ name ≠ "" ∧ name ∈ names

def SoundField (names : List String) (template raw : OrderedMap Value) : Prop :=
  ∃ lower upper, Attributes.ofMap template = .valid lower ∧ Attributes.ofMap raw = .valid upper ∧
    (upper.laidOver lower).Sound names

namespace FieldDemand

variable {names : List String} {template raw : OrderedMap Value} {place : FieldPlace}

theorem readFailure?_eq_none_iff {v : Validated Attributes} :
    readFailure? place v = none ↔ ∃ a, v = .valid a := by
  cases v <;> simp [readFailure?]

theorem typeFailure?_eq_none_iff {a : Attributes} :
    typeFailure? place a = none ↔
      a.type = .unset ∨ a.type = .null ∨ ∃ t : FieldType, a.type = .value t.token := by
  unfold typeFailure?
  cases a.type with
  | unset => simp
  | null => simp
  | value token =>
    constructor
    · intro h
      by_cases hmem : token ∈ FieldType.all.map FieldType.token
      · obtain ⟨t, -, rfl⟩ := List.mem_map.mp hmem
        exact Or.inr (Or.inr ⟨t, rfl⟩)
      · simp [hmem] at h
    · rintro (h | h | ⟨t, ht⟩)
      · cases h
      · cases h
      · have hmem : token ∈ FieldType.all.map FieldType.token :=
          List.mem_map.mpr ⟨t, t.mem_all, (Slot.value.inj ht).symm⟩
        simp only [hmem, if_true]

theorem targetFailures_eq_none_iff (place : FieldPlace) {a : Attributes} :
    dataFailure? place a = none ∧ targetFailure? names place a = none ↔
      (a.type = .value FieldType.relation.token →
        ∃ name, a.data = .value name ∧ name ≠ "" ∧ name ∈ names) := by
  unfold dataFailure? targetFailure?
  cases a.data with
  | unset => simp
  | null => simp
  | value name =>
    by_cases htype : a.type = .value FieldType.relation.token <;>
      by_cases hname : name = "" <;> simp [htype, hname]

theorem met_iff_sound : (∀ d ∈ all, d.failure? names template raw place = none) ↔
    SoundField names template raw := by
  constructor
  · intro h
    obtain ⟨lower, hlower⟩ := readFailure?_eq_none_iff.mp (h .template (by simp [all]))
    obtain ⟨upper, hupper⟩ := readFailure?_eq_none_iff.mp (h .attributes (by simp [all]))
    have hmerge : mergeAttributes raw template place = .ok (upper.laidOver lower) :=
      mergeAttributes_eq_ok_iff.mpr ⟨lower, upper, hlower, hupper, rfl⟩
    have htype := h .type (by simp [all])
    have hdata := h .data (by simp [all])
    have htarget := h .target (by simp [all])
    simp only [failure?, hmerge] at htype hdata htarget
    exact ⟨lower, upper, hlower, hupper, typeFailure?_eq_none_iff.mp htype,
      (targetFailures_eq_none_iff place).mp ⟨hdata, htarget⟩⟩
  · rintro ⟨lower, upper, hlower, hupper, htype, htarget⟩ d -
    have hmerge : mergeAttributes raw template place = .ok (upper.laidOver lower) :=
      mergeAttributes_eq_ok_iff.mpr ⟨lower, upper, hlower, hupper, rfl⟩
    obtain ⟨hdata, htarget⟩ := (targetFailures_eq_none_iff place).mpr htarget
    cases d with
    | template => exact readFailure?_eq_none_iff.mpr ⟨lower, hlower⟩
    | attributes => exact readFailure?_eq_none_iff.mpr ⟨upper, hupper⟩
    | type =>
      rw [failure?, hmerge]
      exact typeFailure?_eq_none_iff.mpr htype
    | data =>
      rw [failure?, hmerge]
      exact hdata
    | target =>
      rw [failure?, hmerge]
      exact htarget

end FieldDemand

/-! ### Demands on sets of models -/

inductive Demand where
  | admission (name : String) (source : ModelSource)
  | field (model : Model) (name : String) (raw : OrderedMap Value) (demand : FieldDemand)

def Demand.failure? (names : List String) (template : OrderedMap Value) :
    Demand → Option ModelError
  | admission name source => RelationalModels.failure? (Model.parse name source)
  | field model name raw demand => demand.failure? names template raw ⟨model.id, some name⟩

def Model.demands (m : Model) : List Demand :=
  m.fields.entries.flatMap fun e => FieldDemand.all.map (.field m e.1 e.2)

def admittedModels (sources : OrderedMap ModelSource) : List Model :=
  sources.entries.filterMap fun e => (Model.parse e.1 e.2).toOption

/-- All demands in their order: that on every model as a whole comes before those on fields. -/
def demands (sources : OrderedMap ModelSource) : List Demand :=
  sources.entries.map (fun e => .admission e.1 e.2) ++
    (admittedModels sources).flatMap Model.demands

section Compiling

variable {sources : OrderedMap ModelSource} {models : Models} {m : Model}
  {template : OrderedMap Value} {collation : Option String}

theorem failure?_parseModels (sources : OrderedMap ModelSource) :
    failure? (parseModels sources) =
      sources.entries.findSome? fun e => failure? (Model.parse e.1 e.2) := by
  have hparse := failure?_run (fun e : String × ModelSource => Model.parse e.1 e.2)
    parseEntries rfl (by
      rintro ⟨name, source⟩ rest
      rw [parseEntries]
      cases Model.parse name source with
      | error e => rfl
      | ok m => cases parseEntries rest <;> rfl) sources.entries
  rw [← hparse, parseModels]
  cases parseEntries sources.entries <;> rfl

theorem admittedModels_of_parse (h : parseModels sources = .ok models) :
    admittedModels sources = models.values := by
  have hentries := parseEntries_eq_ok_iff.mp (parseModels_entries h)
  unfold admittedModels OrderedMap.values
  generalize sources.entries = entries at hentries ⊢
  generalize models.entries = ms at hentries ⊢
  induction hentries with
  | nil => rfl
  | cons hparse _ ih =>
    rw [List.map_cons, ← ih]
    exact List.filterMap_cons_some (by rw [hparse.2]; rfl)

theorem mem_admittedModels_iff :
    m ∈ admittedModels sources ↔ ∃ e ∈ sources.entries, Model.parse e.1 e.2 = .ok m := by
  unfold admittedModels
  rw [List.mem_filterMap]
  constructor
  · rintro ⟨e, he, hm⟩
    exact ⟨e, he, ok_of_toOption hm⟩
  · rintro ⟨e, he, hm⟩
    exact ⟨e, he, by rw [hm]; rfl⟩

theorem Model.demands_met_iff {names : List String} :
    (∀ d ∈ m.demands, d.failure? names template = none) ↔
      ∀ field ∈ m.fields.entries, SoundField names template field.2 := by
  simp only [Model.demands, List.forall_mem_flatMap, List.forall_mem_map]
  exact forall₂_congr fun field _ => FieldDemand.met_iff_sound

theorem demands_met_iff : (∀ d ∈ demands sources, d.failure? sources.names template = none) ↔
    ∀ e ∈ sources.entries, ∃ m, Model.parse e.1 e.2 = .ok m ∧
      ∀ field ∈ m.fields.entries, SoundField sources.names template field.2 := by
  simp only [demands, List.forall_mem_append, List.forall_mem_map, List.forall_mem_flatMap,
    Model.demands_met_iff, mem_admittedModels_iff]
  constructor
  · rintro ⟨hadmitted, hfields⟩ e he
    obtain ⟨m, hm⟩ := failure?_eq_none_iff.mp (hadmitted e he)
    exact ⟨m, hm, hfields m ⟨e, he, hm⟩⟩
  · intro h
    refine ⟨fun e he => ?_, ?_⟩
    · obtain ⟨m, hm, -⟩ := h e he
      exact failure?_eq_none_iff.mpr ⟨m, hm⟩
    · rintro m ⟨e, he, hm⟩
      obtain ⟨m', hm', hfields⟩ := h e he
      rw [hm] at hm'
      rw [Except.ok.inj hm']
      exact hfields

theorem failure?_compileModel (models : Models) (m : Model) (template : OrderedMap Value)
    (collation : Option String) :
    failure? (compileModel models m template collation) =
      m.demands.findSome? (Demand.failure? models.names template) := by
  have hfields := failure?_run
    (fun e => Contribution.ofDeclaration models m template e.1 e.2)
    (Contribution.ofDeclarations models m template) rfl (by
      rintro ⟨name, raw⟩ rest
      rw [Contribution.ofDeclarations_cons]
      cases Contribution.ofDeclaration models m template name raw with
      | error e => rfl
      | ok c => cases Contribution.ofDeclarations models m template rest <;> rfl) m.fields.entries
  have hcompile : failure? (compileModel models m template collation) =
      failure? (Contribution.ofDeclarations models m template m.fields.entries) := by
    unfold compileModel
    cases Contribution.ofDeclarations models m template m.fields.entries <;> rfl
  rw [hcompile, hfields, Model.demands, findSome?_flatMap]
  simp only [FieldDemand.failure?_ofDeclaration, List.findSome?_map]
  rfl

theorem failure?_compile (models : Models) (template : OrderedMap Value)
    (collation : Option String) :
    failure? (models.compile template collation) =
      (models.values.flatMap Model.demands).findSome? (Demand.failure? models.names template) := by
  have heach := failure?_run (fun m => compileModel models m template collation)
    (compileEach models template collation) rfl (by
      intro m rest
      rw [compileEach]
      cases compileModel models m template collation with
      | error e => rfl
      | ok out => cases compileEach models template collation rest <;> rfl) models.values
  rw [Models.compile, heach, findSome?_flatMap]
  simp only [failure?_compileModel]

/-- Compiling fails with the first demand that is not met. -/
theorem failure?_compileSchema (sources : OrderedMap ModelSource) (template : OrderedMap Value)
    (collation : Option String) :
    failure? (compileSchema sources template collation) =
      (demands sources).findSome? (Demand.failure? sources.names template) := by
  have hadmission : (sources.entries.map fun e => Demand.admission e.1 e.2).findSome?
      (Demand.failure? sources.names template) = failure? (parseModels sources) := by
    rw [failure?_parseModels, List.findSome?_map]
    rfl
  rw [demands, List.findSome?_append, hadmission, compileSchema]
  cases hparse : parseModels sources with
  | error e => rfl
  | ok models =>
    rw [admittedModels_of_parse hparse, ← parseModels_names hparse, ← failure?_compile]
    rfl

end Compiling

/--
A schema is made exactly when every source gives a model and every field of it is sound; otherwise
the error is that of the first demand that is not met.
-/
theorem compile_meets_demands (sources : OrderedMap ModelSource) (template : OrderedMap Value)
    (collation : Option String) :
    ((∃ schema, compileSchema sources template collation = .ok schema) ↔
        ∀ e ∈ sources.entries, ∃ m, Model.parse e.1 e.2 = .ok m ∧
          ∀ field ∈ m.fields.entries, SoundField sources.names template field.2) ∧
      ∀ e, compileSchema sources template collation = .error e ↔
        ∃ met d rest, demands sources = met ++ d :: rest ∧
          d.failure? sources.names template = some e ∧
          ∀ b ∈ met, b.failure? sources.names template = none := by
  constructor
  · rw [← failure?_eq_none_iff, failure?_compileSchema, List.findSome?_eq_none_iff]
    exact demands_met_iff
  · intro e
    rw [← failure?_eq_some_iff, failure?_compileSchema, List.findSome?_eq_some_iff]

-- the second model is looked at as a whole before the type of the first one's field
example : compileSchema (.ofList
      [("post", .admitted
          ⟨none, none, .ofList [("title", .ofList [("type", .text "shape")])], none, none,
            ⟨none, none⟩⟩),
       ("tag", .raw .null)]) defaultTemplate none = .error (.notAMapping "tag" "NoneType") := by
  decide +kernel

end RelationalModels
