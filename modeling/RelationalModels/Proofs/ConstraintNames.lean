import RelationalModels.Proofs.Qualification
import RelationalModels.Proofs.TableNames

/-!
# Names of foreign keys

A foreign key is named after its table and a suffix: its field, or the model that it points at when
it leads from a junction table to the target. `constraint_names_nodup_iff` states when the foreign
keys of a schema have different names, provided that the tables do: the two keys of a junction table
need different suffixes, and no two keys on different tables are glued to one name.
`single_tag_clashes` shows a relation that is named like the model it leads to.
-/

namespace RelationalModels

def Table.constraintNames (t : Table) : List String :=
  t.foreignKeys.values.map ForeignKey.constraint

def Schema.constraintNames (s : Schema) : List String := s.allTables.flatMap Table.constraintNames

theorem Naming.foreignKeyName_eq (p : String × String) :
    Naming.foreignKeyName p.1 p.2 = "FK_" ++ glued p := by
  simp [Naming.foreignKeyName, glued, String.append_assoc]

theorem map_foreignKeyName_nodup_iff {ps : List (String × String)} :
    (ps.map fun p => Naming.foreignKeyName p.1 p.2).Nodup ↔
      ps.Nodup ∧ ∀ p ∈ ps, ∀ q ∈ ps, ¬ RunsInto p q := by
  have hnames : (ps.map fun p => Naming.foreignKeyName p.1 p.2) =
      (ps.map glued).map fun s => "FK_" ++ s := by
    rw [List.map_map]
    exact List.map_congr_left fun p _ => Naming.foreignKeyName_eq p
  have hinjective : Function.Injective fun s : String => "FK_" ++ s := by
    intro s t hst
    simpa using hst
  rw [hnames, List.nodup_map_iff hinjective, map_glued_nodup_iff]

/-! ### Suffixes -/

/--
The suffixes of the keys of a junction table: the field, for the key to the owner, and then the
model that it leads to. The first key is lost when the sides are merged.
-/
def Field.linkSuffixes (table : String) (f : Field) : List String :=
  (if f.traits.name = table then [] else [f.traits.name]) ++ f.target?.toList

theorem Field.linkSuffixes_nodup_iff {table : String} {f : Field} :
    (f.linkSuffixes table).Nodup ↔
      (f.traits.name ≠ table → f.target? ≠ some f.traits.name) := by
  by_cases hname : f.traits.name = table
  · cases ht : f.target? <;> simp [linkSuffixes, hname, ht]
  · cases ht : f.target? with
    | none => simp [linkSuffixes, hname, ht]
    | some target => simp [linkSuffixes, hname, ht, eq_comm]

def Models.keySuffixes (models : Models) (template : OrderedMap Value) :
    List (String × List String) :=
  (models.values.map fun m => (m.tableName,
    ((m.settled template).filter fun f => f.role = .reference).map fun f => f.traits.name)) ++
  (models.fieldsOf template .junction).map fun p =>
    (glued (p.1.tableName, p.2.traits.name), p.2.linkSuffixes p.1.tableName)

def Models.keyParts (models : Models) (template : OrderedMap Value) : List (String × String) :=
  (models.keySuffixes template).flatMap fun t => t.2.map fun s => (t.1, s)

theorem JunctionOf.constraintNames {models : Models} {m : Model} {f : Field} {j : JunctionTable}
    (h : JunctionOf models m f j) :
    j.toTable.constraintNames = (f.linkSuffixes m.tableName).map (Naming.foreignKeyName j.name) := by
  obtain ⟨name, target, ⟨htarget, -⟩, -, rfl⟩ := h.target
  by_cases hname : f.traits.name = m.tableName
  · rw [Table.constraintNames, OrderedMap.values, JunctionTable.build_keys_of_eq hname]
    simp [Field.linkSuffixes, hname, htarget, JunctionTable.build]
  · rw [Table.constraintNames, OrderedMap.values, JunctionTable.build_keys_of_ne hname]
    simp [Field.linkSuffixes, hname, htarget, JunctionTable.build]

theorem Partitioned.constraintNames {models : Models} {m : Model} {fields : List Field}
    {t : Table} {js : List JunctionTable} (h : Partitioned models m fields t js) :
    t.constraintNames = ((fields.filter fun f => f.role = .reference).map fun f =>
      f.traits.name).map (Naming.foreignKeyName m.tableName) := by
  have hkeys := map_eq_of_forall₂ h.keys
    (g := fun f => Naming.foreignKeyName m.tableName f.traits.name) (k := fun e => e.2.constraint)
    fun f e he => he.constraint.symm
  rw [Table.constraintNames, OrderedMap.values, List.map_map, List.map_map, Function.comp_def,
    Function.comp_def, hkeys]

section Compiled

variable {models : Models} {template : OrderedMap Value} {collation : Option String}
  {schema : Schema}

theorem keySuffixes_of_compile (h : models.compile template collation = .ok schema) :
    List.Forall₂ (fun s t => t.name = s.1 ∧
        t.constraintNames = s.2.map (Naming.foreignKeyName s.1))
      (models.keySuffixes template) schema.allTables := by
  have hjunctions := junctions_of_compile h
  obtain ⟨outs, rfl, houts⟩ := partitioned_of_compile h
  refine List.rel_append ?_ ?_
  · rw [List.forall₂_map_left_iff, List.forall₂_map_right_iff]
    exact houts.imp fun m out hout => ⟨hout.2.name, hout.2.constraintNames⟩
  · rw [List.forall₂_map_left_iff, List.forall₂_map_right_iff]
    refine hjunctions.imp ?_
    intro p j hj
    have hkeys := hj.constraintNames
    rw [hj.name] at hkeys
    exact ⟨hj.name, hkeys⟩

theorem constraintNames_of_compile (h : models.compile template collation = .ok schema) :
    schema.constraintNames =
      (models.keyParts template).map fun p => Naming.foreignKeyName p.1 p.2 := by
  have htables := map_eq_of_forall₂ (keySuffixes_of_compile h)
    (g := fun s => s.2.map (Naming.foreignKeyName s.1)) (k := Table.constraintNames)
    fun s t hst => hst.2.symm
  rw [Schema.constraintNames, List.flatMap_def, ← htables, ← List.flatMap_def, Models.keyParts,
    List.map_flatMap]
  simp only [List.map_map, Function.comp_def]

theorem suffix_mem_of_compile (h : models.compile template collation = .ok schema)
    {k : String × String} (hk : k ∈ models.keyParts template) :
    (∃ m ∈ models.values, k.2 ∈ m.fields.names) ∨ k.2 ∈ models.names := by
  obtain ⟨t, ht, hk⟩ := List.mem_flatMap.mp hk
  obtain ⟨s, hs, rfl⟩ := List.mem_map.mp hk
  rcases List.mem_append.mp ht with ht | ht
  · obtain ⟨m, hm, rfl⟩ := List.mem_map.mp ht
    obtain ⟨f, hf, rfl⟩ := List.mem_map.mp hs
    exact Or.inl ⟨m, hm, (Model.mem_settled_iff.mp (List.mem_filter.mp hf).1).name_mem⟩
  · obtain ⟨⟨m, f⟩, hp, rfl⟩ := List.mem_map.mp ht
    obtain ⟨hm, hf, -⟩ := Models.mem_fieldsOf.mp hp
    rcases List.mem_append.mp hs with hs | hs
    · split at hs
      · cases hs
      · rw [List.mem_singleton.mp hs]
        exact Or.inl ⟨m, hm, (Model.mem_settled_iff.mp hf).name_mem⟩
    · obtain ⟨j, -, hj⟩ := exists_related (junctions_of_compile h) hp
      obtain ⟨name, target, ⟨htarget, hget⟩, -⟩ := hj.target
      obtain rfl : name = s := Option.some.inj (htarget.symm.trans (Option.mem_toList.mp hs))
      exact Or.inr (List.mem_map_of_mem ((OrderedMap.get?_eq_some_iff _ _ _).mp hget))

end Compiled

/-! ### Keys kept apart -/

/--
The keys of a junction table have different suffixes, and no two keys are glued to one name: a key
of a table `t` with the suffix `x_s`, and one of a table `t_x` with the suffix `s`, would both be
called `FK_t_x_s`.
-/
structure Models.KeysApart (models : Models) (template : OrderedMap Value) : Prop where
  sides : ∀ p ∈ models.fieldsOf template .junction, p.2.traits.name ≠ p.1.tableName →
    p.2.target? ≠ some p.2.traits.name
  keys : ∀ k ∈ models.keyParts template, ∀ l ∈ models.keyParts template, ¬ RunsInto k l

theorem Models.keyParts_nodup_iff {models : Models} {template : OrderedMap Value}
    (hnames : ((models.keySuffixes template).map Prod.fst).Nodup) :
    (models.keyParts template).Nodup ↔
      ∀ p ∈ models.fieldsOf template .junction, p.2.traits.name ≠ p.1.tableName →
        p.2.target? ≠ some p.2.traits.name := by
  rw [keyParts, nodup_flatMap_pairs hnames]
  constructor
  · intro hall p hp
    rw [← Field.linkSuffixes_nodup_iff]
    exact hall (glued (p.1.tableName, p.2.traits.name), _)
      (List.mem_append_right _ (List.mem_map_of_mem hp))
  · intro hsides t ht
    rcases List.mem_append.mp ht with ht | ht
    · obtain ⟨m, -, rfl⟩ := List.mem_map.mp ht
      exact m.settled_names_nodup template _
    · obtain ⟨p, hp, rfl⟩ := List.mem_map.mp ht
      exact Field.linkSuffixes_nodup_iff.mpr (hsides p hp)

theorem keys_apart_of_no_underscore {models : Models} {template : OrderedMap Value}
    {collation : Option String} {schema : Schema}
    (h : models.compile template collation = .ok schema)
    (hfields : models.FieldNames fun name => '_' ∉ name.toList)
    (hmodels : ∀ name ∈ models.names, '_' ∉ name.toList) :
    ∀ k ∈ models.keyParts template, ∀ l ∈ models.keyParts template, ¬ RunsInto k l := by
  rintro k hk l - ⟨x, -, hsecond⟩
  have hplain : '_' ∉ k.2.toList := by
    rcases suffix_mem_of_compile h hk with ⟨m, hm, hname⟩ | hname
    · exact hfields m hm _ hname
    · exact hmodels _ hname
  refine hplain ?_
  rw [hsecond, glued_toList]
  simp

/--
Where all tables have different names, all foreign keys have different names exactly when they are
kept apart. Without an underscore in the fields and the names of the models it is enough that no
relation to many rows is named like the model it leads to, unless it is named like its own table.
-/
theorem constraint_names_nodup_iff {sources : OrderedMap ModelSource} {models : Models}
    {template : OrderedMap Value} {collation : Option String} {schema : Schema}
    (h : compileSchema sources template collation = .ok schema)
    (hparse : parseModels sources = .ok models)
    (hnames : (schema.allTables.map fun t => t.name).Nodup) :
    (schema.constraintNames.Nodup ↔ models.KeysApart template) ∧
      ((models.FieldNames fun name => '_' ∉ name.toList) →
        (∀ name ∈ models.names, '_' ∉ name.toList) →
        (schema.constraintNames.Nodup ↔
          ∀ p ∈ models.fieldsOf template .junction, p.2.traits.name ≠ p.1.tableName →
            p.2.target? ≠ some p.2.traits.name)) := by
  have hcompile := compile_of_admitted h hparse
  have htables : (models.keySuffixes template).map Prod.fst = schema.allTables.map fun t => t.name :=
    map_eq_of_forall₂ (keySuffixes_of_compile hcompile) fun s t hst => hst.1.symm
  rw [← htables] at hnames
  have hiff : ((models.keyParts template).map fun p => Naming.foreignKeyName p.1 p.2).Nodup ↔ _ :=
    map_foreignKeyName_nodup_iff
  rw [← constraintNames_of_compile hcompile, Models.keyParts_nodup_iff hnames] at hiff
  constructor
  · rw [hiff]
    exact ⟨fun ⟨hsides, hkeys⟩ => ⟨hsides, hkeys⟩, fun hapart => ⟨hapart.sides, hapart.keys⟩⟩
  · intro hfields hmodels
    have hkeys := keys_apart_of_no_underscore hcompile hfields hmodels
    rw [hiff]
    exact ⟨fun hboth => hboth.1, fun hsides => ⟨hsides, hkeys⟩⟩

theorem blog_keys_apart :
    compileSchema blog defaultTemplate (some "utf8_general_ci") = .ok blogSchema ∧
      parseModels blog = .ok blogModels ∧ (blogSchema.allTables.map fun t => t.name).Nodup ∧
      (blogModels.FieldNames fun name => '_' ∉ name.toList) ∧
      (∀ name ∈ blogModels.names, '_' ∉ name.toList) ∧ blogSchema.constraintNames.Nodup ∧
      blogModels.KeysApart defaultTemplate := by
  have hnames : (blogSchema.allTables.map fun t => t.name).Nodup := by decide +kernel
  have hfields : blogModels.FieldNames fun name => '_' ∉ name.toList := by
    unfold Models.FieldNames
    decide +kernel
  have hmodels : ∀ name ∈ blogModels.names, '_' ∉ name.toList := by decide +kernel
  have hsides : ∀ p ∈ blogModels.fieldsOf defaultTemplate .junction,
      p.2.traits.name ≠ p.1.tableName → p.2.target? ≠ some p.2.traits.name := by
    decide +kernel
  obtain ⟨hiff, hplain⟩ := constraint_names_nodup_iff blog_compiles blog_admitted hnames
  have hnodup := (hplain hfields hmodels).mpr hsides
  exact ⟨blog_compiles, blog_admitted, hnames, hfields, hmodels, hnodup, hiff.mp hnodup⟩

/-! ### Posts under a tag -/

def singleTag : OrderedMap ModelSource :=
  .ofList
    [("post", .admitted (.ofFields
       [("title", .empty), ("tag", declaredRelation "tag" true false)])),
     ("tag", .admitted (.ofFields [("label", .empty)]))]

def singleTagSchema : Schema where
  tables :=
    [{ name := "post", columns := [textColumn "title"] },
     { name := "tag", columns := [textColumn "label"] }]
  junctions := [.build "post" "tag" "tag" "tag"]

/-- Both keys of the junction table are named after the field and its model at once. -/
theorem single_tag_clashes :
    compileSchema singleTag defaultTemplate none = .ok singleTagSchema ∧
      (singleTagSchema.allTables.map fun t => t.name).Nodup ∧
      singleTagSchema.constraintNames = ["FK_post_tag_tag", "FK_post_tag_tag"] ∧
      ¬ singleTagSchema.constraintNames.Nodup := by
  decide +kernel

end RelationalModels
