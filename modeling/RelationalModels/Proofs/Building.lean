import RelationalModels.Proofs.Junctions
import RelationalModels.Proofs.Qualification
import RelationalModels.Proofs.References
import RelationalModels.Sql.Registry

/-!
# Tables that can be built

A schema names the columns of a base table, and the surrogate key is only put in front of them when
the table is built. `base_tables_build_iff` states that every base table of a schema is built, in
whatever registry and under whatever beginning of names, exactly when no column of its model has the
name of the surrogate key; otherwise it is refused for its second column of that name.
`numbered_posts_refused` shows a model with a number of its own.
-/

namespace RelationalModels.Sql

/-! ### Faults -/

theorem columnFault?_eq_none_iff {table : String} {seen : List String} {columns : List SqlColumn} :
    columnFault? table seen columns = none ↔
      (∀ n ∈ columns.map SqlColumn.name, n ≠ "" ∧ n ∉ seen) ∧
        (columns.map SqlColumn.name).Nodup := by
  induction columns generalizing seen with
  | nil => simp [columnFault?]
  | cons c rest ih =>
    by_cases hempty : c.name = ""
    · simp [columnFault?, hempty]
    by_cases hseen : c.name ∈ seen
    · simp [columnFault?, hempty, hseen]
    have hnext : columnFault? table seen (c :: rest) = columnFault? table (c.name :: seen) rest := by
      simp [columnFault?, hempty, hseen]
    rw [hnext, ih, List.map_cons, List.nodup_cons, List.forall_mem_cons]
    constructor
    · rintro ⟨hrest, hnodup⟩
      refine ⟨⟨⟨hempty, hseen⟩, fun n hn => ⟨(hrest n hn).1, ?_⟩⟩, ?_, hnodup⟩
      · exact fun hmem => (hrest n hn).2 (List.mem_cons_of_mem _ hmem)
      · exact fun hmem => (hrest _ hmem).2 (List.mem_cons_self ..)
    · rintro ⟨⟨-, hrest⟩, hnew, hnodup⟩
      refine ⟨fun n hn => ⟨(hrest n hn).1, ?_⟩, hnodup⟩
      rw [List.mem_cons, not_or]
      exact ⟨fun heq => hnew (heq ▸ hn), (hrest n hn).2⟩

theorem columnFault?_of_seen {table name : String} {seen : List String} {columns : List SqlColumn}
    (hnonempty : ∀ n ∈ columns.map SqlColumn.name, n ≠ "")
    (hnodup : (columns.map SqlColumn.name).Nodup) (hname : name ∈ columns.map SqlColumn.name)
    (hseen : ∀ n ∈ columns.map SqlColumn.name, n ∈ seen ↔ n = name) :
    columnFault? table seen columns = some (.duplicateColumn table name) := by
  induction columns generalizing seen with
  | nil => cases hname
  | cons c rest ih =>
    rw [List.map_cons] at hnonempty hnodup hname hseen
    obtain ⟨hempty, hnonempty⟩ := List.forall_mem_cons.mp hnonempty
    obtain ⟨hhead, hseen⟩ := List.forall_mem_cons.mp hseen
    obtain ⟨hnew, hnodup⟩ := List.nodup_cons.mp hnodup
    by_cases heq : c.name = name
    · have hmem : c.name ∈ seen := hhead.mpr heq
      simp [columnFault?, hempty, hmem, ← heq]
    · have hmem : c.name ∉ seen := fun hmem => heq (hhead.mp hmem)
      have hnext : columnFault? table seen (c :: rest) =
          columnFault? table (c.name :: seen) rest := by
        simp [columnFault?, hempty, hmem]
      rw [hnext]
      -- the column that was seen last is none of those that follow
      refine ih hnonempty hnodup ((List.mem_cons.mp hname).resolve_left (Ne.symm heq)) ?_
      intro n hn
      have hne : n ≠ c.name := fun h => hnew (h ▸ hn)
      rw [List.mem_cons, or_iff_right hne]
      exact hseen n hn

theorem constraintFault?_eq_none_iff {kind : ConstraintKind} {table : String}
    {columns : List SqlColumn} {names : List String} :
    constraintFault? kind table columns names = none ↔
      ∀ n ∈ names, n ∈ columns.map SqlColumn.name := by
  simp [constraintFault?]

theorem foreignKeysOf_columns (front : String) (t : Table) :
    (SqlTable.foreignKeysOf front t).map SqlForeignKey.column = t.foreignKeys.names := by
  simp [SqlTable.foreignKeysOf, OrderedMap.names]

theorem fault?_of_keys {front : String} {t : Table}
    (hprimary : ∀ n ∈ SqlTable.primaryKeyOf t, n ∈ (SqlTable.columnsOf t).map SqlColumn.name)
    (hkeys : ∀ n ∈ t.foreignKeys.names, n ∈ (SqlTable.columnsOf t).map SqlColumn.name) :
    SqlTable.fault? front t = columnFault? (front ++ t.name) [] (SqlTable.columnsOf t) := by
  have hfirst : constraintFault? .primaryKey (front ++ t.name) (SqlTable.columnsOf t)
      (SqlTable.primaryKeyOf t) = none := constraintFault?_eq_none_iff.mpr hprimary
  have hsecond : constraintFault? .foreignKey (front ++ t.name) (SqlTable.columnsOf t)
      ((SqlTable.foreignKeysOf front t).map SqlForeignKey.column) = none := by
    rw [foreignKeysOf_columns]
    exact constraintFault?_eq_none_iff.mpr hkeys
  rw [SqlTable.fault?, hfirst, hsecond]
  cases columnFault? (front ++ t.name) [] (SqlTable.columnsOf t) <;> rfl

/-! ### Building -/

namespace Registry

/-- The registry in which a table is entered: without its earlier one, and with placeholders. -/
def prepared (reg : Registry) (front : String) (t : Table) : Registry :=
  (addPlaceholders (front ++ t.name) (SqlTable.foreignKeysOf front t)
    (reg.erase (front ++ t.name))).1

theorem addPlaceholders_ok {name : String} {keys : List SqlForeignKey} {reg : Registry}
    (h : ∀ k ∈ keys, k.targetColumn ≠ "") : (addPlaceholders name keys reg).2 = none := by
  induction keys generalizing reg with
  | nil => rfl
  | cons k keys ih =>
    obtain ⟨hk, hrest⟩ := List.forall_mem_cons.mp h
    rw [addPlaceholders]
    split
    · exact ih hrest
    · simpa [hk] using ih hrest

/-- A table whose foreign keys name their targets is entered, unless something is wrong with it. -/
theorem build_eq {reg : Registry} {front : String} {t : Table}
    (h : ∀ e ∈ t.foreignKeys.entries, e.2.column ≠ "") :
    reg.build front t =
      match SqlTable.fault? front t with
      | some e => (reg.prepared front t, .error e)
      | none => ((reg.prepared front t).insert (front ++ t.name) (SqlTable.assemble front t),
          .ok (SqlTable.assemble front t)) := by
  have hkeys : ∀ k ∈ SqlTable.foreignKeysOf front t, k.targetColumn ≠ "" := by
    intro k hk
    obtain ⟨e, he, rfl⟩ := List.mem_map.mp hk
    exact h e he
  have hok : (addPlaceholders (front ++ t.name) (SqlTable.foreignKeysOf front t)
      (reg.erase (front ++ t.name))).2 = none := addPlaceholders_ok hkeys
  rw [build, prepared]
  rcases hplaced : addPlaceholders (front ++ t.name) (SqlTable.foreignKeysOf front t)
    (reg.erase (front ++ t.name)) with ⟨placed, error⟩
  rw [hplaced] at hok
  obtain rfl : error = none := hok
  rfl

end Registry

end RelationalModels.Sql

namespace RelationalModels

open RelationalModels.Sql

def Table.Builds (t : Table) : Prop :=
  ∀ (reg : Registry) (front : String),
    (reg.build front t).2 = .ok (SqlTable.assemble front t) ∧
      (reg.build front t).1.get? (front ++ t.name) = some (SqlTable.assemble front t)

def Table.RefusedFor (t : Table) (column : String) : Prop :=
  ∀ (reg : Registry) (front : String),
    (reg.build front t).2 = .error (.duplicateColumn (front ++ t.name) column)

theorem Table.RefusedFor.not_builds {t : Table} {column : String} (h : t.RefusedFor column) :
    ¬ t.Builds := by
  intro hbuilds
  have hok := (hbuilds .empty "").1
  rw [h .empty ""] at hok
  cases hok

/-! ### Columns of base tables -/

def Model.DeclaresKey (template : OrderedMap Value) (m : Model) : Prop :=
  ∃ f ∈ m.settled template, f.role ≠ .junction ∧ f.traits.name = Naming.surrogateKey

theorem Table.modelColumns_names (t : Table) :
    (t.columns.map SqlColumn.ofColumn).map SqlColumn.name = t.columns.map fun c => c.name := by
  rw [List.map_map]
  rfl

theorem Table.columnsOf_names {t : Table} (hid : t.hasId = true) :
    (SqlTable.columnsOf t).map SqlColumn.name =
      Naming.surrogateKey :: t.columns.map fun c => c.name := by
  rw [SqlTable.columnsOf, if_pos hid, List.map_append, modelColumns_names]
  rfl

theorem Table.name_mem_of_column? {t : Table} {name : String} {c : Column}
    (h : t.column? name = some c) : name ∈ t.columns.map fun c => c.name := by
  have hname : c.name = name := by simpa using List.find?_some h
  rw [← hname]
  exact List.mem_map_of_mem (List.mem_of_find?_eq_some h)

section Base

variable {models : Models} {m : Model} {template : OrderedMap Value} {t : Table}
  {js : List JunctionTable}

theorem Partitioned.column_names (hp : Partitioned models m (m.settled template) t js) :
    (t.columns.map fun c => c.name) =
      ((m.settled template).filter fun f => f.role ≠ .junction).map fun f => f.traits.name := by
  rw [hp.columns, List.map_map]
  rfl

theorem Partitioned.column_names_nodup (hp : Partitioned models m (m.settled template) t js) :
    (t.columns.map fun c => c.name).Nodup := by
  rw [hp.column_names]
  exact m.settled_names_nodup template _

theorem Partitioned.columns_named (hp : Partitioned models m (m.settled template) t js)
    (hnames : ∀ n ∈ m.fields.names, n ≠ "") : ∀ n ∈ t.columns.map (fun c => c.name), n ≠ "" := by
  rw [hp.column_names]
  intro n hn
  exact hnames n ((m.settled_names_sublist template).subset ((List.filter_sublist.map _).subset hn))

theorem Partitioned.key_mem_iff (hp : Partitioned models m (m.settled template) t js) :
    Naming.surrogateKey ∈ t.columns.map (fun c => c.name) ↔ m.DeclaresKey template := by
  rw [hp.column_names]
  simp [Model.DeclaresKey, and_assoc]

theorem Partitioned.fault (hp : Partitioned models m (m.settled template) t js)
    (hid : t.hasId = true) (front : String) :
    SqlTable.fault? front t = columnFault? (front ++ t.name) [] (SqlTable.columnsOf t) := by
  apply fault?_of_keys
  · intro n hn
    rw [SqlTable.primaryKeyOf, if_pos hid, List.mem_singleton] at hn
    rw [hn, Table.columnsOf_names hid]
    exact List.mem_cons_self ..
  · intro n hn
    obtain ⟨e, he, rfl⟩ := List.mem_map.mp hn
    obtain ⟨f, -, hkey⟩ := exists_related_left hp.keys he
    obtain ⟨c, hcolumn, -⟩ := hkey.column
    rw [Table.columnsOf_names hid]
    exact List.mem_cons_of_mem _ (Table.name_mem_of_column? hcolumn)

theorem Partitioned.targets_named (hp : Partitioned models m (m.settled template) t js) :
    ∀ e ∈ t.foreignKeys.entries, e.2.column ≠ "" := by
  intro e he
  obtain ⟨f, -, hkey⟩ := exists_related_left hp.keys he
  obtain ⟨name, target, -, -, hcolumn⟩ := hkey.references
  rw [hcolumn]
  decide

theorem Partitioned.builds (hp : Partitioned models m (m.settled template) t js)
    (hid : t.hasId = true) (hnames : ∀ n ∈ m.fields.names, n ≠ "")
    (hkey : ¬ m.DeclaresKey template) : t.Builds := by
  intro reg front
  have hnone : columnFault? (front ++ t.name) [] (SqlTable.columnsOf t) = none := by
    rw [columnFault?_eq_none_iff, Table.columnsOf_names hid, List.nodup_cons, hp.key_mem_iff,
      List.forall_mem_cons]
    refine ⟨⟨by decide, ?_⟩, hkey, hp.column_names_nodup⟩
    exact fun n hn => ⟨hp.columns_named hnames n hn, List.not_mem_nil⟩
  rw [Registry.build_eq hp.targets_named, hp.fault hid, hnone]
  exact ⟨rfl, by simp [OrderedMap.get?_insert]⟩

theorem Partitioned.refused (hp : Partitioned models m (m.settled template) t js)
    (hid : t.hasId = true) (hnames : ∀ n ∈ m.fields.names, n ≠ "")
    (hkey : m.DeclaresKey template) : t.RefusedFor Naming.surrogateKey := by
  intro reg front
  -- the surrogate key comes first, and is seen when the model's own column of that name follows
  have hfirst : columnFault? (front ++ t.name) [] (SqlTable.columnsOf t) =
      columnFault? (front ++ t.name) [Naming.surrogateKey]
        (t.columns.map SqlColumn.ofColumn) := by
    rw [SqlTable.columnsOf, if_pos hid]
    rfl
  have hfault : columnFault? (front ++ t.name) [] (SqlTable.columnsOf t) =
      some (.duplicateColumn (front ++ t.name) Naming.surrogateKey) := by
    rw [hfirst]
    refine columnFault?_of_seen ?_ ?_ ?_ (by simp) <;> rw [t.modelColumns_names]
    · exact hp.columns_named hnames
    · exact hp.column_names_nodup
    · exact hp.key_mem_iff.mpr hkey
  rw [Registry.build_eq hp.targets_named, hp.fault hid, hfault]

end Base

/-! ### Schemas -/

structure BuiltFor (template : OrderedMap Value) (m : Model) (t : Table) : Prop where
  name : t.name = m.tableName
  hasId : t.hasId = true
  builds_iff : t.Builds ↔ ¬ m.DeclaresKey template
  columns_iff : ((SqlTable.columnsOf t).map SqlColumn.name).Nodup ↔ ¬ m.DeclaresKey template
  refused : m.DeclaresKey template → t.RefusedFor Naming.surrogateKey

theorem Partitioned.builtFor {models : Models} {m : Model} {template : OrderedMap Value}
    {t : Table} {js : List JunctionTable}
    (hp : Partitioned models m (m.settled template) t js) (hid : t.hasId = true)
    (hnames : ∀ n ∈ m.fields.names, n ≠ "") : BuiltFor template m t where
  name := hp.name
  hasId := hid
  builds_iff := by
    constructor
    · intro hbuilds hkey
      exact (hp.refused hid hnames hkey).not_builds hbuilds
    · exact hp.builds hid hnames
  columns_iff := by
    rw [Table.columnsOf_names hid, List.nodup_cons, hp.key_mem_iff]
    exact and_iff_left hp.column_names_nodup
  refused := hp.refused hid hnames

/--
Where all fields have names, the base table of each model is built, whatever the registry and the
beginning of names, exactly when no column of the model has the name of the surrogate key. A model
with such a column compiles too, but its table is refused.
-/
theorem base_tables_build_iff {sources : OrderedMap ModelSource} {models : Models}
    {template : OrderedMap Value} {collation : Option String} {schema : Schema}
    (h : compileSchema sources template collation = .ok schema)
    (hparse : parseModels sources = .ok models) (hnames : models.FieldNames (· ≠ "")) :
    List.Forall₂ (BuiltFor template) models.values schema.tables := by
  have hcompile := compile_of_admitted h hparse
  obtain ⟨outs, houts, rfl⟩ := compileEach_eq_ok_iff.mp hcompile
  rw [List.forall₂_map_right_iff]
  refine ((List.forall₂_and_left _ _).mpr ⟨hnames, houts⟩).imp ?_
  rintro m ⟨t, js⟩ ⟨hnames, hout⟩
  obtain ⟨fields, hfields, hp⟩ := compileModel_partitioned hout
  rw [← Model.settled_of_resolveFields hfields] at hp
  exact hp.builtFor (compileModel_base hout).1 hnames

theorem blog_tables_build :
    compileSchema blog defaultTemplate (some "utf8_general_ci") = .ok blogSchema ∧
      parseModels blog = .ok blogModels ∧ blogModels.FieldNames (· ≠ "") ∧
      List.Forall₂ (BuiltFor defaultTemplate) blogModels.values blogSchema.tables ∧
      ∀ m ∈ blogModels.values, ¬ m.DeclaresKey defaultTemplate := by
  have hnames : blogModels.FieldNames (· ≠ "") := by
    unfold Models.FieldNames
    decide +kernel
  have hkeys : ∀ m ∈ blogModels.values, ¬ m.DeclaresKey defaultTemplate := by
    unfold Model.DeclaresKey
    decide +kernel
  exact ⟨blog_compiles, blog_admitted, hnames,
    base_tables_build_iff blog_compiles blog_admitted hnames, hkeys⟩

/-! ### Posts with numbers -/

def numberedPosts : OrderedMap ModelSource :=
  .ofList
    [("post", .admitted (.ofFields
      [("id", .ofList [("type", .text "int")]), ("title", .empty)]))]

def numberedPostsModels : Models :=
  .ofList
    [("post", (Model.ofFields
      [("id", .ofList [("type", .text "int")]), ("title", .empty)]).withId "post")]

def numberedPostsTable : Table where
  name := "post"
  columns := [{ name := "id", sqlType := "int", storage := .int }, textColumn "title"]

/-- The number has the name of the surrogate key, so that the table compiles and is refused. -/
theorem numbered_posts_refused :
    compileSchema numberedPosts defaultTemplate none = .ok ⟨[numberedPostsTable], []⟩ ∧
      parseModels numberedPosts = .ok numberedPostsModels ∧
      numberedPostsModels.FieldNames (· ≠ "") ∧
      (∀ m ∈ numberedPostsModels.values, m.tableName ≠ "") ∧ numberedPostsTable.hasId = true ∧
      (Registry.build .empty "" numberedPostsTable).2 = .error (.duplicateColumn "post" "id") ∧
      ¬ ((SqlTable.columnsOf numberedPostsTable).map SqlColumn.name).Nodup := by
  unfold Models.FieldNames
  decide +kernel

end RelationalModels
