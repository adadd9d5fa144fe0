import RelationalModels.Proofs.Junctions

/-!
# Names of tables

A junction table is named after the table of its owner and its field, with an underscore between
them. An underscore may also stand in the names themselves, and a model may have a table of the same
name. `table_names_nodup_iff` states when the tables of a schema have different names, provided that
those of the models do: no model has the table that a relation to many rows makes, and no two such
relations are glued to one name. `annotated_tags_clash` shows a model with the table of a relation.
-/

namespace RelationalModels

/-! ### Glued names -/

def glued (p : String × String) : String := p.1 ++ "_" ++ p.2

/--
The first name of `q` is that of `p` with something behind it, and the second name of `p` is the
same with that of `q` behind it.
-/
def RunsInto (p q : String × String) : Prop := ∃ x, q.1 = glued (p.1, x) ∧ p.2 = glued (x, q.2)

theorem glued_toList (p : String × String) :
    (glued p).toList = p.1.toList ++ '_' :: p.2.toList := by
  simp [glued]

theorem RunsInto.glued_eq {p q : String × String} (h : RunsInto p q) : glued p = glued q := by
  obtain ⟨x, hfirst, hsecond⟩ := h
  apply String.toList_injective
  rw [glued_toList, glued_toList, hfirst, hsecond, glued_toList, glued_toList]
  simp

theorem runsInto_of_toList {p q : String × String} {rest : List Char}
    (hfirst : q.1.toList = p.1.toList ++ '_' :: rest)
    (hsecond : p.2.toList = rest ++ '_' :: q.2.toList) : RunsInto p q := by
  refine ⟨String.ofList rest, ?_, ?_⟩
  · apply String.toList_injective
    rw [hfirst, glued_toList, String.toList_ofList]
  · apply String.toList_injective
    rw [hsecond, glued_toList, String.toList_ofList]

theorem eq_or_runsInto {p q : String × String} {middle : List Char}
    (hfirst : q.1.toList = p.1.toList ++ middle)
    (hrest : '_' :: p.2.toList = middle ++ '_' :: q.2.toList) : p = q ∨ RunsInto p q := by
  cases middle with
  | nil =>
    have hsame : q.1 = p.1 := String.toList_injective (by simpa using hfirst)
    have hsecond : p.2 = q.2 := String.toList_injective (List.cons.inj hrest).2
    exact Or.inl (Prod.ext hsame.symm hsecond)
  | cons c rest =>
    obtain ⟨rfl, hsecond⟩ := List.cons.inj hrest
    exact Or.inr (runsInto_of_toList hfirst hsecond)

/-- One name is glued from two pairs only when one of these runs into the other. -/
theorem glued_eq_iff {p q : String × String} :
    glued p = glued q ↔ p = q ∨ RunsInto p q ∨ RunsInto q p := by
  constructor
  · intro h
    have hlist := congrArg String.toList h
    rw [glued_toList, glued_toList, List.append_eq_append_iff] at hlist
    -- one first name begins with the other, and what is left of it is empty or begins with the gap
    rcases hlist with ⟨middle, hfirst, hrest⟩ | ⟨middle, hfirst, hrest⟩
    · exact (eq_or_runsInto hfirst hrest).imp_right Or.inl
    · exact (eq_or_runsInto hfirst hrest).imp Eq.symm Or.inr
  · rintro (rfl | h | h)
    · rfl
    · exact h.glued_eq
    · exact h.glued_eq.symm

theorem not_runsInto_self (p : String × String) : ¬ RunsInto p p := by
  rintro ⟨x, hfirst, -⟩
  have hlength := congrArg (fun s : String => s.toList.length) hfirst
  simp [glued_toList] at hlength

theorem map_glued_nodup_iff {ps : List (String × String)} :
    (ps.map glued).Nodup ↔ ps.Nodup ∧ ∀ p ∈ ps, ∀ q ∈ ps, ¬ RunsInto p q := by
  constructor
  · intro h
    refine ⟨h.of_map _, ?_⟩
    intro p hp q hq hruns
    obtain rfl : p = q := List.inj_on_of_nodup_map h hp hq hruns.glued_eq
    exact not_runsInto_self p hruns
  · rintro ⟨hnodup, hruns⟩
    refine (List.nodup_map_iff_inj_on hnodup).mpr ?_
    intro p hp q hq hglued
    rcases glued_eq_iff.mp hglued with heq | hpq | hqp
    · exact heq
    · exact absurd hpq (hruns p hp q hq)
    · exact absurd hqp (hruns q hq p hp)

theorem nodup_flatMap_pairs {α : Type} {key : α → String} {g : α → List String} {as : List α}
    (h : (as.map key).Nodup) :
    (as.flatMap fun a => (g a).map fun s => (key a, s)).Nodup ↔ ∀ a ∈ as, (g a).Nodup := by
  have hgroup : ∀ a, ((g a).map fun s => (key a, s)).Nodup ↔ (g a).Nodup :=
    fun a => List.nodup_map_iff fun s t hst => (Prod.mk.inj hst).2
  have hapart : as.Pairwise
      (Function.onFun List.Disjoint fun a => (g a).map fun s => (key a, s)) := by
    refine (List.pairwise_map.mp h).imp ?_
    intro a b hne p ha hb
    obtain ⟨s, -, rfl⟩ := List.mem_map.mp ha
    obtain ⟨t, -, ht⟩ := List.mem_map.mp hb
    exact hne (Prod.mk.inj ht).1.symm
  rw [List.nodup_flatMap]
  constructor
  · rintro ⟨hall, -⟩ a ha
    exact (hgroup a).mp (hall a ha)
  · intro hall
    exact ⟨fun a ha => (hgroup a).mpr (hall a ha), hapart⟩

/-! ### Names of base tables and junction tables -/

def Models.junctionParts (models : Models) (template : OrderedMap Value) :
    List (String × String) :=
  (models.fieldsOf template .junction).map fun p => (p.1.tableName, p.2.traits.name)

theorem Models.junctionParts_nodup {models : Models} (template : OrderedMap Value)
    (hbase : (models.values.map Model.tableName).Nodup) : (models.junctionParts template).Nodup := by
  have hparts : models.junctionParts template = models.values.flatMap fun m =>
      (((m.settled template).filter fun f => f.role = .junction).map fun f => f.traits.name).map
        fun s => (m.tableName, s) := by
    simp only [junctionParts, fieldsOf, List.map_flatMap, List.map_map, Function.comp_def]
  rw [hparts, nodup_flatMap_pairs hbase]
  exact fun m _ => m.settled_names_nodup template _

section Compiled

variable {models : Models} {template : OrderedMap Value} {collation : Option String}
  {schema : Schema}

theorem base_names_of_compile (h : models.compile template collation = .ok schema) :
    schema.tables.map (fun t => t.name) = models.values.map Model.tableName := by
  obtain ⟨outs, rfl, houts⟩ := partitioned_of_compile h
  have hnames := map_eq_of_forall₂ houts (g := Model.tableName) (k := fun out => out.1.name)
    fun m out hout => hout.2.name.symm
  rw [List.map_map, hnames]
  rfl

theorem JunctionOf.name {models : Models} {m : Model} {f : Field} {j : JunctionTable}
    (h : JunctionOf models m f j) : j.name = glued (m.tableName, f.traits.name) := by
  obtain ⟨name, target, -, -, rfl⟩ := h.target
  rfl

theorem table_names_of_compile (h : models.compile template collation = .ok schema) :
    schema.allTables.map (fun t => t.name) =
      models.values.map Model.tableName ++ (models.junctionParts template).map glued := by
  have hjunctions := map_eq_of_forall₂ (junctions_of_compile h)
    (g := fun p => glued (p.1.tableName, p.2.traits.name)) (k := fun j => j.name)
    fun p j hj => hj.name.symm
  rw [Schema.allTables, List.map_append, base_names_of_compile h, List.map_map,
    Models.junctionParts, List.map_map, Function.comp_def, Function.comp_def, hjunctions]

end Compiled

/--
No model has the table that a relation to many rows makes, and no two such relations are glued to
one name: for a model with the table `t` and a field `x_f`, and one with the table `t_x` and a field
`f`, the junction tables would both be `t_x_f`.
-/
structure Models.TablesApart (models : Models) (template : OrderedMap Value) : Prop where
  base : ∀ m ∈ models.values, ∀ p ∈ models.junctionParts template, m.tableName ≠ glued p
  junctions : ∀ p ∈ models.junctionParts template, ∀ q ∈ models.junctionParts template,
    ¬ RunsInto p q

theorem Models.tablesApart_of_no_underscore {models : Models} (template : OrderedMap Value)
    (h : ∀ m ∈ models.values, '_' ∉ m.tableName.toList) : models.TablesApart template where
  base m hm p _ hname := by
    refine h m hm ?_
    rw [hname, glued_toList]
    simp
  junctions p _ q hq hruns := by
    obtain ⟨x, hfirst, -⟩ := hruns
    obtain ⟨⟨m, f⟩, hmem, rfl⟩ := List.mem_map.mp hq
    refine h m (Models.mem_fieldsOf.mp hmem).1 ?_
    rw [show m.tableName = glued (p.1, x) from hfirst, glued_toList]
    simp

/--
Where the tables of the models have different names, all tables of their schema have different names
exactly when they are kept apart. Without an underscore in the tables of the models they are.
-/
theorem table_names_nodup_iff {sources : OrderedMap ModelSource} {models : Models}
    {template : OrderedMap Value} {collation : Option String} {schema : Schema}
    (h : compileSchema sources template collation = .ok schema)
    (hparse : parseModels sources = .ok models)
    (hbase : (schema.tables.map fun t => t.name).Nodup) :
    ((schema.allTables.map fun t => t.name).Nodup ↔ models.TablesApart template) ∧
      ((∀ m ∈ models.values, '_' ∉ m.tableName.toList) →
        (schema.allTables.map fun t => t.name).Nodup) := by
  have hcompile := compile_of_admitted h hparse
  rw [base_names_of_compile hcompile] at hbase
  have hiff : (schema.allTables.map fun t => t.name).Nodup ↔ models.TablesApart template := by
    -- the base tables are different by assumption, which leaves the junctions among themselves and
    -- against the base tables
    rw [table_names_of_compile hcompile, List.nodup_append, map_glued_nodup_iff]
    constructor
    · rintro ⟨-, ⟨-, hruns⟩, hdisjoint⟩
      refine ⟨?_, hruns⟩
      intro m hm p hp
      exact hdisjoint _ (List.mem_map_of_mem hm) _ (List.mem_map_of_mem hp)
    · rintro ⟨hdisjoint, hruns⟩
      refine ⟨hbase, ⟨Models.junctionParts_nodup template hbase, hruns⟩, ?_⟩
      intro s hs t ht
      obtain ⟨m, hm, rfl⟩ := List.mem_map.mp hs
      obtain ⟨p, hp, rfl⟩ := List.mem_map.mp ht
      exact hdisjoint m hm p hp
  exact ⟨hiff, fun hplain => hiff.mpr (Models.tablesApart_of_no_underscore template hplain)⟩

theorem blog_tables_apart :
    compileSchema blog defaultTemplate (some "utf8_general_ci") = .ok blogSchema ∧
      parseModels blog = .ok blogModels ∧ (blogSchema.tables.map fun t => t.name).Nodup ∧
      (∀ m ∈ blogModels.values, '_' ∉ m.tableName.toList) ∧
      blogModels.TablesApart defaultTemplate ∧
      (blogSchema.allTables.map fun t => t.name).Nodup := by
  have hbase : (blogSchema.tables.map fun t => t.name).Nodup := by decide +kernel
  have hplain : ∀ m ∈ blogModels.values, '_' ∉ m.tableName.toList := by decide +kernel
  obtain ⟨hiff, hnodup⟩ := table_names_nodup_iff blog_compiles blog_admitted hbase
  exact ⟨blog_compiles, blog_admitted, hbase, hplain, hiff.mp (hnodup hplain), hnodup hplain⟩

/-! ### Tags of posts with notes -/

def annotatedTags : OrderedMap ModelSource :=
  .ofList
    [("post", .admitted (.ofFields
       [("title", .empty), ("tags", declaredRelation "tag" true false)])),
     ("tag", .admitted (.ofFields [("label", .empty)])),
     ("post_tags", .admitted (.ofFields [("note", .empty)]))]

def annotatedTagsSchema : Schema where
  tables :=
    [{ name := "post", columns := [textColumn "title"] },
     { name := "tag", columns := [textColumn "label"] },
     { name := "post_tags", columns := [textColumn "note"] }]
  junctions := [.build "post" "tags" "tag" "tag"]

/-- The model of notes has the table that the relation to tags makes. -/
theorem annotated_tags_clash :
    compileSchema annotatedTags defaultTemplate none = .ok annotatedTagsSchema ∧
      (annotatedTagsSchema.tables.map fun t => t.name).Nodup ∧
      (annotatedTagsSchema.allTables.map fun t => t.name) =
        ["post", "tag", "post_tags", "post_tags"] ∧
      ¬ (annotatedTagsSchema.allTables.map fun t => t.name).Nodup := by
  decide +kernel

end RelationalModels
