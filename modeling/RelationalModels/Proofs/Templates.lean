import RelationalModels.Proofs.Locality

/-!
# Templates as written-out defaults

A template says nothing that the fields could not say themselves. What the attributes of a field
over those of the template amount to can be written down as a mapping, and this mapping reads back
as the same attributes. `template_written_out` states that models written out in this way need no
template: they compile to the same schema and have the same plans, or fail with the same errors.
-/

namespace RelationalModels

/-! ### Mappings related name by name -/

namespace OrderedMap

variable {α β γ δ : Type} {R : α → β → Prop}

def Pointwise (R : α → β → Prop) (m : OrderedMap α) (n : OrderedMap β) : Prop :=
  List.Forall₂ (fun e e' => e'.1 = e.1 ∧ R e.2 e'.2) m.entries n.entries

theorem exists_pointwise {m : OrderedMap α} (h : ∀ e ∈ m.entries, ∃ b, R e.2 b) :
    ∃ n, Pointwise R m n := by
  have key : ∀ entries : List (String × α), (∀ e ∈ entries, ∃ b, R e.2 b) →
      ∃ entries' : List (String × β),
        List.Forall₂ (fun e e' => e'.1 = e.1 ∧ R e.2 e'.2) entries entries' := by
    intro entries
    induction entries with
    | nil => exact fun _ => ⟨[], .nil⟩
    | cons e rest ih =>
      intro hall
      obtain ⟨b, hb⟩ := hall e (List.mem_cons_self ..)
      obtain ⟨rest', hrest⟩ := ih fun a ha => hall a (List.mem_cons_of_mem _ ha)
      exact ⟨(e.1, b) :: rest', .cons ⟨rfl, hb⟩ hrest⟩
  obtain ⟨entries', hentries⟩ := key m.entries h
  have hnames : m.entries.map Prod.fst = entries'.map Prod.fst :=
    map_eq_of_forall₂ hentries fun e e' he => he.1.symm
  exact ⟨⟨entries', hnames ▸ m.nodup⟩, hentries⟩

namespace Pointwise

variable {m : OrderedMap α} {n : OrderedMap β}

theorem get? (h : Pointwise R m n) (name : String) :
    m.get? name = none ∧ n.get? name = none ∨
      ∃ a b, m.get? name = some a ∧ n.get? name = some b ∧ R a b := by
  unfold Pointwise at h
  unfold OrderedMap.get?
  generalize m.entries = entries, n.entries = entries' at h ⊢
  induction h with
  | nil => exact Or.inl ⟨rfl, rfl⟩
  | cons he _ ih =>
    rw [lookup_entry, lookup_entry, he.1]
    split
    · exact Or.inr ⟨_, _, rfl, rfl, he.2⟩
    · exact ih

theorem values (h : Pointwise R m n) : List.Forall₂ R m.values n.values := by
  rw [OrderedMap.values, OrderedMap.values, List.forall₂_map_left_iff, List.forall₂_map_right_iff]
  exact h.imp fun _ _ he => he.2

theorem mapValues {S : γ → δ → Prop} {f : String → α → γ} {g : String → β → δ}
    (h : Pointwise R m n) (hf : ∀ name a b, R a b → S (f name a) (g name b)) :
    Pointwise S (m.mapValues f) (n.mapValues g) := by
  unfold Pointwise OrderedMap.mapValues
  rw [List.forall₂_map_left_iff, List.forall₂_map_right_iff]
  refine h.imp fun e e' he => ⟨he.1, ?_⟩
  rw [he.1]
  exact hf _ _ _ he.2

end Pointwise

end OrderedMap

/-! ### Attributes read back -/

namespace Slot

variable {α : Type}

def written? (toValue : α → Value) : Slot α → Option Value
  | unset => none
  | null => some .null
  | value a => some (toValue a)

theorem lookup_entry (s : Slot α) (name other : String) (toValue : α → Value) :
    (s.entry name toValue).lookup other =
      if other = name then s.written? toValue else none := by
  cases s <;> simp [entry, written?, OrderedMap.lookup_entry]

theorem entry_names_sublist (s : Slot α) (name : String) (toValue : α → Value) :
    ((s.entry name toValue).map Prod.fst).Sublist [name] := by
  cases s <;> simp [entry]

theorem ofMember_written (name : String) (toValue : α → Value) (s : Slot α) {check : Check α}
    {m : OrderedMap Value} (hget : m.get? name = s.written? toValue)
    (hcheck : ∀ a, s = value a → toValue a ≠ .null ∧ check (toValue a) = .valid a) :
    ofMember m [name] check = .valid s := by
  have hmember : m.member? [name] = (s.written? toValue).map fun v => (name, v) := by
    simp [OrderedMap.member?, hget]
  unfold ofMember
  rw [hmember]
  cases s with
  | unset => rfl
  | null => rfl
  | value a =>
    obtain ⟨hnull, hvalid⟩ := hcheck a rfl
    simp only [written?, Option.map_some]
    rw [hvalid]
    rfl

theorem ofMember_second {m : OrderedMap Value} {first : String} (h : m.get? first = none)
    (second : String) (check : Check α) :
    ofMember m [first, second] check = ofMember m [second] check := by
  simp [ofMember, OrderedMap.member?, h]

theorem ofMember_any_ne {m : OrderedMap Value} {names : List String} {s : Slot Value}
    (h : ofMember m names Check.any = .valid s) : s ≠ .value .null := by
  unfold ofMember at h
  split at h
  · cases h
    nofun
  · cases h
    nofun
  · next v hv _ =>
    cases h
    intro hnull
    exact hv (Slot.value.inj hnull)

end Slot

namespace Attributes

theorem entries_names_sublist (a : Attributes) : (a.entries.map Prod.fst).Sublist
    ["type", "max_length", "required", "unique", "comment", "character_set", "collation", "data",
      "has_many", "default"] := by
  have hsublist : (a.entries.map Prod.fst).Sublist
      (["type"] ++ ["max_length"] ++ ["required"] ++ ["unique"] ++ ["comment"] ++
        ["character_set"] ++ ["collation"] ++ ["data"] ++ ["has_many"] ++ ["default"]) := by
    simp only [entries, List.map_append]
    repeat apply List.Sublist.append
    all_goals apply Slot.entry_names_sublist
  exact hsublist

theorem entries_nodup (a : Attributes) : (a.entries.map Prod.fst).Nodup :=
  List.Nodup.sublist a.entries_names_sublist (by decide)

theorem get?_toMap (a : Attributes) (name : String) :
    a.toMap.get? name = a.entries.lookup name := by
  rw [OrderedMap.get?, toMap, OrderedMap.ofList_entries a.entries a.entries_nodup]

theorem default_ne_of_ofMap {m : OrderedMap Value} {a : Attributes} (h : ofMap m = .valid a) :
    a.default ≠ .value .null := by
  obtain ⟨-, -, -, -, -, -, -, -, -, hdefault⟩ := ofMap_eq_valid_iff.mp h
  exact Slot.ofMember_any_ne hdefault

theorem ofMap_written {a : Attributes} {w : OrderedMap Value}
    (hw : w.entries.Perm a.toMap.entries) (hdefault : a.default ≠ .value .null) :
    ofMap w = .valid a := by
  have hget : ∀ name, w.get? name = a.entries.lookup name := fun name => by
    rw [OrderedMap.get?_of_perm hw, get?_toMap]
  -- a null among the values of a default would come back as a written null
  have hlast : Slot.ofMember w ["default"] Check.any = .valid a.default := by
    apply Slot.ofMember_written "default" id a.default
    · simp [hget, entries, List.lookup_append, Slot.lookup_entry]
    · intro v hv
      exact ⟨fun hnull => hdefault (hv.trans (congrArg _ hnull)), rfl⟩
  rw [ofMap_eq_valid_iff, Slot.ofMember_second, Slot.ofMember_second, Slot.ofMember_second]
  · refine ⟨Slot.ofMember_written "type" .text a.type ?_ ?_,
      Slot.ofMember_written "max_length" .int a.maxLength ?_ ?_,
      Slot.ofMember_written "required" .bool a.required ?_ ?_,
      Slot.ofMember_written "unique" .bool a.unique ?_ ?_,
      Slot.ofMember_written "comment" .text a.comment ?_ ?_,
      Slot.ofMember_written "character_set" .text a.characterSet ?_ ?_,
      Slot.ofMember_written "collation" .text a.collation ?_ ?_,
      Slot.ofMember_written "data" .text a.data ?_ ?_,
      Slot.ofMember_written "has_many" .bool a.hasMany ?_ ?_, hlast⟩
    -- what stands under each name, and that the checks accept it
    all_goals simp [hget, entries, List.lookup_append, Slot.lookup_entry, Check.text,
      Check.integer, Check.boolean]
  -- the camel-case names are never written
  all_goals simp [hget, entries, List.lookup_append, Slot.lookup_entry]

theorem laidOver_default_ne {upper lower : Attributes} (hupper : upper.default ≠ .value .null)
    (hlower : lower.default ≠ .value .null) : (upper.laidOver lower).default ≠ .value .null := by
  cases hd : upper.default <;> simp_all [laidOver, Slot.laidOver]

end Attributes

/-! ### Fields written out -/

/-- A mapping that writes what the attributes of a field over those of the template amount to. -/
def WritesOut (template raw w : OrderedMap Value) : Prop :=
  ∃ a, (∀ place, mergeAttributes raw template place = .ok a) ∧ w.entries.Perm a.toMap.entries

theorem mergeAttributes_anywhere {template raw : OrderedMap Value} {place : FieldPlace}
    {a : Attributes} (h : mergeAttributes raw template place = .ok a) (other : FieldPlace) :
    mergeAttributes raw template other = .ok a :=
  mergeAttributes_eq_ok_iff.mpr (mergeAttributes_eq_ok_iff.mp h)

namespace WritesOut

variable {template raw w : OrderedMap Value}

instance : Decidable (WritesOut template raw w) :=
  match hmerge : mergeAttributes raw template ⟨none, none⟩ with
  | .error e => .isFalse fun ⟨_, h, _⟩ => nomatch hmerge.symm.trans (h _)
  | .ok a => decidable_of_iff (w.entries.Perm a.toMap.entries) (by
    constructor
    · exact fun hw => ⟨a, mergeAttributes_anywhere hmerge, hw⟩
    · rintro ⟨b, hb, hw⟩
      obtain rfl : b = a := Except.ok.inj ((hb _).symm.trans hmerge)
      exact hw)

theorem of_merge {a : Attributes} {place : FieldPlace}
    (h : mergeAttributes raw template place = .ok a) : WritesOut template raw a.toMap :=
  ⟨a, mergeAttributes_anywhere h, .refl _⟩

theorem merge_eq (h : WritesOut template raw w) (place : FieldPlace) :
    mergeAttributes w .empty place = mergeAttributes raw template place := by
  obtain ⟨a, hmerge, hw⟩ := h
  obtain ⟨lower, upper, hlower, hupper, rfl⟩ := mergeAttributes_eq_ok_iff.mp (hmerge place)
  have hdefault : (upper.laidOver lower).default ≠ .value .null :=
    Attributes.laidOver_default_ne (Attributes.default_ne_of_ofMap hupper)
      (Attributes.default_ne_of_ofMap hlower)
  have hread := Attributes.ofMap_written hw hdefault
  rw [hmerge place, mergeAttributes_eq_ok_iff]
  exact ⟨{}, _, rfl, hread, (Attributes.laidOver_unset _).symm⟩

theorem resolve_eq (h : WritesOut template raw w) (name : String) (id : Option String) :
    Field.resolve name w .empty id = Field.resolve name raw template id := by
  have hmerge := h.merge_eq ⟨id, some name⟩
  unfold Field.resolve
  dsimp only
  rw [hmerge]

end WritesOut

def Model.WrittenOut (template : OrderedMap Value) (m m' : Model) : Prop :=
  ∃ fields, m.fields.Pointwise (WritesOut template) fields ∧ m' = { m with fields := fields }

def Models.WrittenOut (template : OrderedMap Value) (models models' : Models) : Prop :=
  models.Pointwise (Model.WrittenOut template) models'

def Models.asSources (models : Models) : OrderedMap ModelSource :=
  models.mapValues fun _ m => .admitted m

theorem parseModels_asSources (models : Models) :
    parseModels models.asSources = .ok (models.mapValues fun name m => m.withId name) := by
  rw [parseModels_eq_ok_iff]
  simp only [Models.asSources, OrderedMap.mapValues, List.forall₂_map_left_iff,
    List.forall₂_map_right_iff, List.forall₂_same]
  simp [Model.parse]

section WrittenOut

variable {template : OrderedMap Value} {models models' : Models} {m m' : Model}

theorem Model.WrittenOut.withId (h : m.WrittenOut template m') (name : String) :
    (m.withId name).WrittenOut template (m'.withId name) := by
  obtain ⟨fields, hfields, rfl⟩ := h
  exact ⟨fields, hfields, rfl⟩

theorem Models.WrittenOut.withIds (h : Models.WrittenOut template models models') :
    Models.WrittenOut template (models.mapValues fun name m => m.withId name)
      (models'.mapValues fun name m => m.withId name) :=
  h.mapValues fun name _ _ hm => hm.withId name

theorem Models.exists_writtenOut (h : ∀ m ∈ models.values, ∀ e ∈ m.fields.entries,
    ∃ a, mergeAttributes e.2 template ⟨m.id, some e.1⟩ = .ok a) :
    ∃ models', Models.WrittenOut template models models' := by
  apply OrderedMap.exists_pointwise
  intro e he
  have hmerges := h e.2 (List.mem_map_of_mem he)
  obtain ⟨fields, hfields⟩ := OrderedMap.exists_pointwise (R := WritesOut template)
    (m := e.2.fields) fun field hfield => by
      obtain ⟨a, ha⟩ := hmerges field hfield
      exact ⟨_, .of_merge ha⟩
  exact ⟨_, fields, hfields, rfl⟩

theorem Models.WrittenOut.tableName (h : Models.WrittenOut template models models')
    (name : String) :
    (models.get? name).map Model.tableName = (models'.get? name).map Model.tableName := by
  rcases h.get? name with ⟨hnone, hnone'⟩ | ⟨m, m', hsome, hsome', fields, -, rfl⟩
  · rw [hnone, hnone']
  · rw [hsome, hsome']
    rfl

/-! ### Compiling -/

theorem compileModel_written (h : Models.WrittenOut template models models')
    (hm : m.WrittenOut template m') (collation : Option String) :
    compileModel models' m' .empty collation = compileModel models m template collation := by
  obtain ⟨fields, hfields, rfl⟩ := hm
  have hcontributions : Contribution.ofDeclarations models m template m.fields.entries =
      Contribution.ofDeclarations models' { m with fields := fields } .empty fields.entries := by
    apply Contribution.ofDeclarations_congr
    refine hfields.imp fun e e' he => ?_
    unfold Contribution.ofDeclaration
    rw [he.1, he.2.resolve_eq]
    cases Field.resolve e.1 e.2 template m.id with
    | error err => rfl
    | ok f => exact Contribution.ofField_congr rfl rfl fun target _ => h.tableName target
  unfold compileModel
  rw [hcontributions]
  rfl

theorem compile_written (h : Models.WrittenOut template models models')
    (collation : Option String) :
    models'.compile .empty collation = models.compile template collation := by
  have key : ∀ {ms ms'}, List.Forall₂ (Model.WrittenOut template) ms ms' →
      compileEach models' .empty collation ms' = compileEach models template collation ms := by
    intro ms ms' hms
    induction hms with
    | nil => rfl
    | cons hm _ ih => rw [compileEach, compileEach, compileModel_written h hm, ih]
  exact key h.values

theorem compileSchema_written (h : Models.WrittenOut template models models')
    (collation : Option String) :
    compileSchema models'.asSources .empty collation =
      compileSchema models.asSources template collation := by
  have hids := h.withIds
  rw [compileSchema, compileSchema, parseModels_asSources, parseModels_asSources]
  exact compile_written hids collation

/-! ### Projecting -/

def Projector.SameWritten (template : OrderedMap Value) (p p' : Projector) : Prop :=
  ∀ {m m'}, Model.WrittenOut template m m' → ∀ base start, p' m' base start = p m base start

theorem projectField_written {deeper? deeper?' : Option Projector}
    (h : Models.WrittenOut template models models') (htable : m.tableName = m'.tableName)
    (hid : m.id = m'.id) (hdeeper : Option.Rel (Projector.SameWritten template) deeper? deeper?')
    (base start : String) (f : Field) :
    projectField models' deeper?' m' base start f =
      projectField models deeper? m base start f := by
  cases f with
  | scalar traits type default => rfl
  | relation traits target hasMany default =>
    cases hdeeper with
    | none => rfl
    | @some deeper deeper' hsame =>
      rcases h.get? target with ⟨hnone, hnone'⟩ | ⟨tm, tm', hsome, hsome', htarget⟩
      · simp only [projectField, hnone, hnone', hid]
      · have hinner := hsame htarget (Naming.joinAlias start traits.name)
          (Naming.extendPath start traits.name)
        obtain ⟨fields, -, rfl⟩ := htarget
        simp only [projectField, hsome, hsome', hinner, htable]
        rfl

theorem projectFields_written {deeper? deeper?' : Option Projector}
    (h : Models.WrittenOut template models models') (hm : m.WrittenOut template m')
    (hdeeper : Option.Rel (Projector.SameWritten template) deeper? deeper?')
    (base start : String) :
    projectFields models' .empty deeper?' m' base start m'.fields.entries =
      projectFields models template deeper? m base start m.fields.entries := by
  obtain ⟨fields, hfields, rfl⟩ := hm
  have hfield : ∀ f, projectField models' deeper?' { m with fields := fields } base start f =
      projectField models deeper? m base start f :=
    projectField_written h rfl rfl hdeeper base start
  unfold OrderedMap.Pointwise at hfields
  dsimp only
  -- the two lists are walked together; that they are the fields of models does not matter for it
  generalize m.fields.entries = entries, fields.entries = entries' at hfields ⊢
  induction hfields with
  | nil => rfl
  | @cons e e' rest rest' he _ ih =>
    obtain ⟨name, raw⟩ := e
    obtain ⟨name', raw'⟩ := e'
    obtain ⟨hname, hwrites⟩ := he
    dsimp only at hname hwrites
    subst hname
    rw [projectFields_cons, projectFields_cons, hwrites.resolve_eq, ih]
    simp only [hfield]

/-- A projection of any depth does not see whether fields are written out. -/
theorem project_written (h : Models.WrittenOut template models models') (depth : Nat) :
    Projector.SameWritten template (project models template depth)
      (project models' .empty depth) := by
  induction depth with
  | zero => exact fun hm => projectFields_written h hm .none
  | succ depth ih => exact fun hm => projectFields_written h hm (.some ih)

theorem plan_written (h : Models.WrittenOut template models models') (name : String)
    (options : QueryOptions) (depth : Nat) :
    models'.plan name options .empty depth = models.plan name options template depth := by
  unfold Models.plan
  rcases h.get? name with ⟨hnone, hnone'⟩ | ⟨m, m', hsome, hsome', hm⟩
  · rw [hnone, hnone']
  · rw [hsome, hsome']
    dsimp only
    rw [project_written h depth hm]
    obtain ⟨fields, -, rfl⟩ := hm
    rfl

theorem resolveQuery_written (h : Models.WrittenOut template models models') (name : String)
    (options : QueryOptions) (depth : Int) :
    resolveQuery models'.asSources name options .empty depth =
      resolveQuery models.asSources name options template depth := by
  -- identifiers are filled in before anything is looked up
  have hids := h.withIds
  unfold resolveQuery
  rw [parseModels_asSources, parseModels_asSources]
  dsimp only
  rw [plan_written hids]

end WrittenOut

/--
Models whose fields merge with a template can be written out, and then they give without a template
the schemas and the plans that they give with it, or the same errors.
-/
theorem template_written_out (models : Models) (template : OrderedMap Value)
    (hmerge : ∀ m ∈ models.values, ∀ e ∈ m.fields.entries,
      ∃ a, mergeAttributes e.2 template ⟨m.id, some e.1⟩ = .ok a) :
    (∃ models', Models.WrittenOut template models models') ∧
      ∀ models', Models.WrittenOut template models models' →
        (∀ collation, compileSchema models.asSources template collation =
          compileSchema models'.asSources .empty collation) ∧
        ∀ name options depth, resolveQuery models.asSources name options template depth =
          resolveQuery models'.asSources name options .empty depth := by
  refine ⟨Models.exists_writtenOut hmerge, fun models' h => ⟨?_, ?_⟩⟩
  · intro collation
    rw [compileSchema_written h]
  · intro name options depth
    rw [resolveQuery_written h]

/-! ### Notes with and without the template -/

def declaredNotes : Models :=
  .ofList
    [("note", .ofFields
       [("text", .ofList [("maxLength", .text "80"), ("required", .text "yes"), ("type", .null)]),
        ("author", .ofList
          [("type", .text "relation"), ("data", .text "user"), ("hasMany", .int 0)])]),
     ("user", .ofFields [("name", .empty)])]

def writtenNotes : Models :=
  .ofList
    [("note", .ofFields
       [("text", .ofList
          [("type", .null), ("max_length", .int 80), ("required", .bool true),
           ("unique", .bool false), ("comment", .null), ("character_set", .null),
           ("collation", .null), ("has_many", .bool false), ("default", .null)]),
        ("author", .ofList
          [("type", .text "relation"), ("max_length", .int 255), ("required", .bool false),
           ("unique", .bool false), ("comment", .null), ("character_set", .null),
           ("collation", .null), ("has_many", .bool false), ("default", .null),
           ("data", .text "user")])]),
     ("user", .ofFields
       [("name", .ofList
          [("type", .text "string"), ("max_length", .int 255), ("required", .bool false),
           ("unique", .bool false), ("comment", .null), ("character_set", .null),
           ("collation", .null), ("has_many", .bool false), ("default", .null)])])]

theorem notes_written_out :
    (∀ m ∈ declaredNotes.values, ∀ e ∈ m.fields.entries,
      ∃ a, mergeAttributes e.2 defaultTemplate ⟨m.id, some e.1⟩ = .ok a) ∧
    Models.WrittenOut defaultTemplate declaredNotes writtenNotes ∧
    (∃ schema, compileSchema declaredNotes.asSources defaultTemplate none = .ok schema ∧
      compileSchema writtenNotes.asSources .empty none = .ok schema) ∧
    resolveQuery declaredNotes.asSources "note" {} defaultTemplate 1 =
      resolveQuery writtenNotes.asSources "note" {} .empty 1 := by
  have hmerges : ∀ m ∈ declaredNotes.values, ∀ e ∈ m.fields.entries,
      (mergeAttributes e.2 defaultTemplate ⟨m.id, some e.1⟩).toOption.isSome = true := by
    decide +kernel
  have hmerge : ∀ m ∈ declaredNotes.values, ∀ e ∈ m.fields.entries,
      ∃ a, mergeAttributes e.2 defaultTemplate ⟨m.id, some e.1⟩ = .ok a := by
    intro m hm e he
    exact exists_ok_of_isSome (hmerges m hm e he)
  have hwritten : Models.WrittenOut defaultTemplate declaredNotes writtenNotes := by
    refine .cons ⟨rfl, _, ?_, rfl⟩ (.cons ⟨rfl, _, ?_, rfl⟩ .nil)
    all_goals
      unfold OrderedMap.Pointwise
      decide +kernel
  obtain ⟨schema, hschema⟩ :
      ∃ schema, compileSchema declaredNotes.asSources defaultTemplate none = .ok schema :=
    exists_ok_of_isSome (by decide +kernel)
  obtain ⟨-, hsame⟩ := template_written_out declaredNotes defaultTemplate hmerge
  obtain ⟨hcompile, hresolve⟩ := hsame writtenNotes hwritten
  exact ⟨hmerge, hwritten, ⟨schema, hschema, by rw [← hcompile, hschema]⟩, hresolve _ _ _⟩

end RelationalModels
