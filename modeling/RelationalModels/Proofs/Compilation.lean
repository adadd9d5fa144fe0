import Mathlib.Data.List.Forall2
import Mathlib.Data.List.Nodup
import RelationalModels.Proofs.Route
import RelationalModels.Schema.Compile

/-!
# What compiled models hold

Compiling succeeds when every declared field contributes something, and the schema is then put
together from these contributions in their order. A column and a foreign key bear the name of their
field, so that a table has no two of one name and each is found under it.
-/

namespace RelationalModels

theorem exists_related {α β : Type} {R : α → β → Prop} {as : List α} {bs : List β}
    (h : List.Forall₂ R as bs) {a : α} (ha : a ∈ as) : ∃ b ∈ bs, R a b := by
  induction h with
  | nil => cases ha
  | @cons a' b as bs hab _ ih =>
    rcases List.mem_cons.mp ha with rfl | ha
    · exact ⟨b, List.mem_cons_self .., hab⟩
    · obtain ⟨b', hb', hr⟩ := ih ha
      exact ⟨b', List.mem_cons_of_mem _ hb', hr⟩

theorem exists_related_left {α β : Type} {R : α → β → Prop} {as : List α} {bs : List β}
    (h : List.Forall₂ R as bs) {b : β} (hb : b ∈ bs) : ∃ a ∈ as, R a b :=
  exists_related h.flip hb

/-! ### Admitted models -/

theorem parseEntries_names {entries : List (String × ModelSource)} {ms : List (String × Model)}
    (h : parseEntries entries = .ok ms) : ms.map Prod.fst = entries.map Prod.fst := by
  induction entries generalizing ms with
  | nil =>
    obtain rfl : [] = ms := Except.ok.inj h
    rfl
  | cons e rest ih =>
    obtain ⟨name, source⟩ := e
    simp only [parseEntries] at h
    split at h
    · cases h
    · next m _ =>
      split at h
      · cases h
      · next ms' hms =>
        obtain rfl : (name, m) :: ms' = ms := Except.ok.inj h
        simp [ih hms]

theorem parseModels_entries {sources : OrderedMap ModelSource} {models : Models}
    (h : parseModels sources = .ok models) : parseEntries sources.entries = .ok models.entries := by
  cases hp : parseEntries sources.entries with
  | error e => simp [parseModels, hp, Except.map] at h
  | ok ms =>
    have hnodup : (ms.map Prod.fst).Nodup := by
      rw [parseEntries_names hp]
      exact sources.nodup
    simp only [parseModels, hp, Except.map, Except.ok.injEq] at h
    rw [← h, OrderedMap.ofList_entries ms hnodup]

theorem parseEntries_eq_ok_iff {entries : List (String × ModelSource)}
    {ms : List (String × Model)} :
    parseEntries entries = .ok ms ↔
      List.Forall₂ (fun e m => m.1 = e.1 ∧ Model.parse e.1 e.2 = .ok m.2) entries ms := by
  induction entries generalizing ms with
  | nil => simp [parseEntries, List.forall₂_nil_left_iff, eq_comm]
  | cons e rest ih =>
    obtain ⟨name, source⟩ := e
    rw [parseEntries, List.forall₂_cons_left_iff]
    constructor
    · intro h
      split at h
      · cases h
      · next m hm =>
        split at h
        · cases h
        · next ms' hms => exact ⟨(name, m), ms', ⟨rfl, hm⟩, ih.mp hms, (Except.ok.inj h).symm⟩
    · rintro ⟨⟨name', m⟩, ms', ⟨rfl, hm⟩, hms, rfl⟩
      simp only [hm, ih.mpr hms]

theorem parseModels_names {sources : OrderedMap ModelSource} {models : Models}
    (h : parseModels sources = .ok models) : models.names = sources.names :=
  parseEntries_names (parseModels_entries h)

/-! ### Contributions -/

namespace Contribution

theorem ofDeclarations_cons (models : Models) (m : Model) (template : OrderedMap Value)
    (name : String) (raw : OrderedMap Value) (rest : List (String × OrderedMap Value)) :
    ofDeclarations models m template ((name, raw) :: rest) =
      match ofDeclaration models m template name raw with
      | .error e => .error e
      | .ok c =>
        match ofDeclarations models m template rest with
        | .error e => .error e
        | .ok cs => .ok (c :: cs) := by
  rfl

theorem ofDeclarations_eq_ok_iff {models : Models} {m : Model} {template : OrderedMap Value}
    {entries : List (String × OrderedMap Value)} {cs : List Contribution} :
    ofDeclarations models m template entries = .ok cs ↔
      List.Forall₂ (fun e c => ofDeclaration models m template e.1 e.2 = .ok c) entries cs := by
  induction entries generalizing cs with
  | nil =>
    rw [List.forall₂_nil_left_iff]
    constructor
    · intro h
      exact (Except.ok.inj h).symm
    · rintro rfl
      rfl
  | cons e rest ih =>
    obtain ⟨name, raw⟩ := e
    rw [ofDeclarations_cons, List.forall₂_cons_left_iff]
    constructor
    · intro h
      split at h
      · cases h
      · next c hc =>
        split at h
        · cases h
        · next cs' hcs => exact ⟨c, cs', hc, ih.mp hcs, (Except.ok.inj h).symm⟩
    · rintro ⟨c, cs', hc, hcs, rfl⟩
      simp only [hc, ih.mpr hcs]

theorem ofDeclaration_eq_ok_iff {models : Models} {m : Model} {template : OrderedMap Value}
    {name : String} {raw : OrderedMap Value} {c : Contribution} :
    ofDeclaration models m template name raw = .ok c ↔
      ∃ f, Field.resolve name raw template m.id = .ok f ∧ ofField models m f = .ok c := by
  unfold ofDeclaration
  constructor
  · intro h
    split at h
    · cases h
    · next f hf => exact ⟨f, hf, h⟩
  · rintro ⟨f, hf, hc⟩
    simp only [hf, hc]

theorem target_of_ofField {models : Models} {m : Model} {traits : FieldTraits} {target : String}
    {hasMany : Bool} {default : Decimal.Number} {c : Contribution}
    (h : ofField models m (.relation traits target hasMany default) = .ok c) :
    ∃ targetModel, models.get? target = some targetModel ∧
      c = if hasMany then
          .junction (.build m.tableName traits.name target targetModel.tableName)
        else
          .reference (.ofField (.relation traits target hasMany default))
            { constraint := Naming.foreignKeyName m.tableName traits.name
              table := targetModel.tableName } := by
  cases hm : models.get? target with
  | none => simp [ofField, hm] at h
  | some tm =>
    refine ⟨tm, rfl, ?_⟩
    cases hasMany <;> simpa [ofField, hm, eq_comm] using h

def columnName? (c : Contribution) : Option String := c.column?.map fun col => col.name

theorem name_of_ofField {models : Models} {m : Model} {f : Field} {c : Contribution}
    (h : ofField models m f = .ok c) :
    (∀ n, c.columnName? = some n → n = f.traits.name) ∧
      ∀ n, c.foreignKey?.map Prod.fst = some n → n = f.traits.name := by
  cases f with
  | scalar t type d =>
    obtain rfl : Contribution.column _ = c := Except.ok.inj h
    simp [columnName?, column?, foreignKey?, Column.ofField, eq_comm]
  | relation t target hasMany d =>
    obtain ⟨tm, -, rfl⟩ := target_of_ofField h
    cases hasMany <;> simp [columnName?, column?, foreignKey?, Column.ofField, eq_comm]

theorem filterMap_names_sublist {models : Models} {m : Model} {template : OrderedMap Value}
    {g : Contribution → Option String}
    (hg : ∀ f c, ofField models m f = .ok c → ∀ n, g c = some n → n = f.traits.name)
    {entries : List (String × OrderedMap Value)} {cs : List Contribution}
    (h : List.Forall₂ (fun e c => ofDeclaration models m template e.1 e.2 = .ok c) entries cs) :
    (cs.filterMap g).Sublist (entries.map Prod.fst) := by
  induction h with
  | nil => simp
  | @cons e c rest cs hc _ ih =>
    obtain ⟨f, hf, hc⟩ := ofDeclaration_eq_ok_iff.mp hc
    cases hn : g c with
    | none => simpa [hn] using ih.cons e.1
    | some n =>
      have hname : n = e.1 := (hg f c hc n hn).trans (Field.resolve_traits_name hf)
      simpa [hn, hname] using ih.cons_cons e.1

theorem filterMap_names_nodup {models : Models} {m : Model} {template : OrderedMap Value}
    {g : Contribution → Option String}
    (hg : ∀ f c, ofField models m f = .ok c → ∀ n, g c = some n → n = f.traits.name)
    {cs : List Contribution}
    (h : List.Forall₂ (fun e c => ofDeclaration models m template e.1 e.2 = .ok c)
      m.fields.entries cs) : (cs.filterMap g).Nodup :=
  (filterMap_names_sublist hg h).nodup m.fields.nodup

end Contribution

/-! ### Tables -/

theorem compileModel_eq_ok_iff {models : Models} {m : Model} {template : OrderedMap Value}
    {collation : Option String} {out : Table × List JunctionTable} :
    compileModel models m template collation = .ok out ↔
      ∃ cs, List.Forall₂ (fun e c => Contribution.ofDeclaration models m template e.1 e.2 = .ok c)
          m.fields.entries cs ∧
        out = (Table.ofContributions m collation cs, cs.filterMap Contribution.junction?) := by
  unfold compileModel
  constructor
  · intro h
    split at h
    · cases h
    · next cs hcs =>
      exact ⟨cs, Contribution.ofDeclarations_eq_ok_iff.mp hcs, (Except.ok.inj h).symm⟩
  · rintro ⟨cs, hcs, rfl⟩
    simp only [Contribution.ofDeclarations_eq_ok_iff.mpr hcs]

/-- A schema is put together from the tables of its models, in their order. -/
theorem compileEach_eq_ok_iff {models : Models} {template : OrderedMap Value}
    {collation : Option String} {ms : List Model} {schema : Schema} :
    compileEach models template collation ms = .ok schema ↔
      ∃ outs, List.Forall₂ (fun m out => compileModel models m template collation = .ok out)
          ms outs ∧
        schema = ⟨outs.map Prod.fst, outs.flatMap Prod.snd⟩ := by
  induction ms generalizing schema with
  | nil =>
    simp [compileEach, List.forall₂_nil_left_iff, eq_comm]
  | cons m ms ih =>
    constructor
    · intro h
      unfold compileEach at h
      split at h
      · cases h
      · next table junctions hm =>
        split at h
        · cases h
        · next s hs =>
          obtain ⟨outs, houts, rfl⟩ := ih.mp hs
          exact ⟨_, List.Forall₂.cons hm houts, (Except.ok.inj h).symm⟩
    · rintro ⟨outs, houts, rfl⟩
      obtain ⟨out, outs, hm, hrest, rfl⟩ := List.forall₂_cons_left_iff.mp houts
      simp [compileEach, hm, ih.mpr ⟨outs, hrest, rfl⟩]

theorem ofContributions_column? {models : Models} {m : Model} {template : OrderedMap Value}
    (collation : Option String) {cs : List Contribution}
    (h : List.Forall₂ (fun e c => Contribution.ofDeclaration models m template e.1 e.2 = .ok c)
      m.fields.entries cs) {c : Contribution} (hc : c ∈ cs) {col : Column}
    (hcol : c.column? = some col) :
    (Table.ofContributions m collation cs).column? col.name = some col := by
  have hnames : ((cs.filterMap Contribution.column?).map fun col => col.name).Nodup := by
    rw [List.map_filterMap]
    exact Contribution.filterMap_names_nodup
      (fun _ _ hf => (Contribution.name_of_ofField hf).1) h
  have hmem : col ∈ cs.filterMap Contribution.column? := List.mem_filterMap.mpr ⟨c, hc, hcol⟩
  -- `find?` stops at the first column of the name, and there is no other
  have hsome : ((cs.filterMap Contribution.column?).find? fun d => d.name == col.name).isSome := by
    rw [List.find?_isSome]
    exact ⟨col, hmem, by simp⟩
  obtain ⟨d, hd⟩ := Option.isSome_iff_exists.mp hsome
  have hname : d.name = col.name := by simpa using List.find?_some hd
  rw [Table.column?, Table.ofContributions, hd]
  exact congrArg some (List.inj_on_of_nodup_map hnames (List.mem_of_find?_eq_some hd) hmem hname)

theorem ofContributions_keys {models : Models} {m : Model} {template : OrderedMap Value}
    (collation : Option String) {cs : List Contribution}
    (h : List.Forall₂ (fun e c => Contribution.ofDeclaration models m template e.1 e.2 = .ok c)
      m.fields.entries cs) :
    (Table.ofContributions m collation cs).foreignKeys.entries =
      cs.filterMap Contribution.foreignKey? := by
  have hnames : ((cs.filterMap Contribution.foreignKey?).map Prod.fst).Nodup := by
    rw [List.map_filterMap]
    exact Contribution.filterMap_names_nodup
      (fun _ _ hf => (Contribution.name_of_ofField hf).2) h
  exact OrderedMap.ofList_entries _ hnames

theorem ofContributions_foreignKey {models : Models} {m : Model} {template : OrderedMap Value}
    (collation : Option String) {cs : List Contribution}
    (h : List.Forall₂ (fun e c => Contribution.ofDeclaration models m template e.1 e.2 = .ok c)
      m.fields.entries cs) {c : Contribution} (hc : c ∈ cs) {name : String} {key : ForeignKey}
    (hkey : c.foreignKey? = some (name, key)) :
    (Table.ofContributions m collation cs).foreignKeys.get? name = some key := by
  rw [OrderedMap.get?_eq_some_iff, ofContributions_keys collation h]
  exact List.mem_filterMap.mpr ⟨c, hc, hkey⟩

namespace JunctionTable

theorem build_foreignKeys (ownerTable fieldName targetModel targetTable name : String) :
    (build ownerTable fieldName targetModel targetTable).foreignKeys.get? name =
      if name = Naming.junctionColumn fieldName then
        some
          { constraint := Naming.foreignKeyName
              (Naming.junctionTableName ownerTable fieldName) targetModel
            table := targetTable }
      else if name = Naming.junctionColumn ownerTable then
        some
          { constraint := Naming.foreignKeyName
              (Naming.junctionTableName ownerTable fieldName) fieldName
            table := ownerTable }
      else none := by
  simp only [build, OrderedMap.ofList, OrderedMap.insertMany, List.foldl_cons, List.foldl_nil,
    OrderedMap.get?_insert]
  rfl

end JunctionTable

/-- Where a model that compiles is found in the schema, and what its fields contribute to it. -/
theorem compiled_model {models : Models} {template : OrderedMap Value}
    {collation : Option String} {schema : Schema}
    (h : models.compile template collation = .ok schema) {m : Model} (hm : m ∈ models.values) :
    ∃ cs, List.Forall₂ (fun e c => Contribution.ofDeclaration models m template e.1 e.2 = .ok c)
        m.fields.entries cs ∧
      compileModel models m template collation =
        .ok (Table.ofContributions m collation cs, cs.filterMap Contribution.junction?) ∧
      Table.ofContributions m collation cs ∈ schema.tables ∧
      ∀ t ∈ cs.filterMap Contribution.junction?, t ∈ schema.junctions := by
  obtain ⟨outs, houts, rfl⟩ := compileEach_eq_ok_iff.mp h
  obtain ⟨out, hmem, hout⟩ := exists_related houts hm
  obtain ⟨cs, hcs, rfl⟩ := compileModel_eq_ok_iff.mp hout
  refine ⟨cs, hcs, hout, List.mem_map_of_mem hmem, ?_⟩
  intro t ht
  exact List.mem_flatMap.mpr ⟨_, hmem, ht⟩

theorem table_compiled {models : Models} {template : OrderedMap Value}
    {collation : Option String} {schema : Schema}
    (h : models.compile template collation = .ok schema) {t : Table} (ht : t ∈ schema.tables) :
    ∃ m ∈ models.values, ∃ js, compileModel models m template collation = .ok (t, js) := by
  obtain ⟨outs, houts, rfl⟩ := compileEach_eq_ok_iff.mp h
  obtain ⟨out, hout, rfl⟩ := List.mem_map.mp ht
  obtain ⟨m, hm, hcompiled⟩ := exists_related_left houts hout
  exact ⟨m, hm, out.2, hcompiled⟩

theorem junction_compiled {models : Models} {template : OrderedMap Value}
    {collation : Option String} {schema : Schema}
    (h : models.compile template collation = .ok schema) {j : JunctionTable}
    (hj : j ∈ schema.junctions) :
    ∃ m ∈ models.values, ∃ t js, compileModel models m template collation = .ok (t, js) ∧
      j ∈ js := by
  obtain ⟨outs, houts, rfl⟩ := compileEach_eq_ok_iff.mp h
  obtain ⟨out, hout, hj⟩ := List.mem_flatMap.mp hj
  obtain ⟨m, hm, hcompiled⟩ := exists_related_left houts hout
  exact ⟨m, hm, out.1, out.2, hcompiled, hj⟩

theorem compileSchema_eq_ok {sources : OrderedMap ModelSource} {template : OrderedMap Value}
    {collation : Option String} {schema : Schema}
    (h : compileSchema sources template collation = .ok schema) :
    ∃ models, parseModels sources = .ok models ∧ models.compile template collation = .ok schema := by
  cases hp : parseModels sources with
  | error e => simp [compileSchema, hp] at h
  | ok models => exact ⟨models, rfl, by simpa only [compileSchema, hp] using h⟩

end RelationalModels
