import RelationalModels.Proofs.Orchestration
import RelationalModels.Proofs.Partition
import RelationalModels.Service.Recording

/-!
# Foreign keys lead to tables of the same schema

Each foreign key of a compiled schema stands on a column of its own table and points at the
surrogate key of one of the base tables. `compiled_schema_closed` states this together with the order
of creation: whoever creates the tables is handed every table that a junction table points at before
that junction table.
-/

namespace RelationalModels

structure Table.Closed (schema : Schema) (t : Table) : Prop where
  keys : ∀ e ∈ t.foreignKeys.entries, ∃ c, t.column? e.1 = some c ∧ c.storage = .foreignKey
  primaryKeys : ∀ k ∈ t.primaryKeys,
    k ∈ t.columns.map (fun c => c.name) ∨ t.hasId = true ∧ k = Naming.surrogateKey
  references : ∀ e ∈ t.foreignKeys.entries, e.2.column = Naming.surrogateKey ∧
    ∃ b ∈ schema.tables, b.hasId = true ∧ b.name = e.2.table

/-- Each junction table stands behind all base tables that its foreign keys point at. -/
def AfterReferenced (schema : Schema) (handed : List Table) : Prop :=
  ∀ before j after, j ∈ schema.junctions → handed = before ++ j.toTable :: after →
    ∀ e ∈ j.foreignKeys.entries, (∃ b ∈ before, b.hasId = true ∧ b.name = e.2.table) ∧
      ∀ b ∈ schema.tables, b.name = e.2.table → b ∈ before

/-! ### Junction tables -/

namespace JunctionTable

variable {ownerTable fieldName targetModel targetTable : String}

theorem build_key {e : String × ForeignKey}
    (he : e ∈ (build ownerTable fieldName targetModel targetTable).foreignKeys.entries) :
    (e.1 = Naming.junctionColumn fieldName ∨ e.1 = Naming.junctionColumn ownerTable) ∧
      (e.2.table = targetTable ∨ e.2.table = ownerTable) ∧ e.2.column = Naming.surrogateKey := by
  have hget := (OrderedMap.get?_eq_some_iff _ e.1 e.2).mpr he
  rw [build_foreignKeys] at hget
  split at hget
  · next hname =>
    rw [← Option.some.inj hget]
    exact ⟨Or.inl hname, Or.inl rfl, rfl⟩
  · split at hget
    · next hname =>
      rw [← Option.some.inj hget]
      exact ⟨Or.inr hname, Or.inr rfl, rfl⟩
    · cases hget

theorem build_column? {name : String}
    (hname : name = Naming.junctionColumn fieldName ∨ name = Naming.junctionColumn ownerTable) :
    (build ownerTable fieldName targetModel targetTable).column? name = some (Column.link name) := by
  have hcolumns : (build ownerTable fieldName targetModel targetTable).columns =
      [Column.link (Naming.junctionColumn ownerTable),
       Column.link (Naming.junctionColumn fieldName)] := rfl
  have hlink : ∀ s, (Column.link s).name = s := fun _ => rfl
  rw [Table.column?, hcolumns]
  -- the owner's column comes first, and is found also when both have one name
  by_cases howner : Naming.junctionColumn ownerTable = name
  · simp [hlink, howner]
  · obtain rfl : name = Naming.junctionColumn fieldName := by
      rcases hname with hname | hname
      · exact hname
      · exact absurd hname.symm howner
    simp [hlink, howner]

end JunctionTable

/-! ### Tables of one model -/

section Compiled

variable {models : Models} {template : OrderedMap Value} {collation : Option String}
  {schema : Schema} {m : Model} {fields : List Field} {t : Table} {js : List JunctionTable}

theorem base_table_mem (h : models.compile template collation = .ok schema)
    (hm : m ∈ models.values) : ∃ b ∈ schema.tables, b.hasId = true ∧ b.name = m.tableName := by
  obtain ⟨cs, -, -, hmem, -⟩ := compiled_model h hm
  exact ⟨_, hmem, rfl, rfl⟩

theorem compileModel_base (h : compileModel models m template collation = .ok (t, js)) :
    t.hasId = true ∧ t.primaryKeys = [Naming.surrogateKey] := by
  obtain ⟨cs, -, hout⟩ := compileModel_eq_ok_iff.mp h
  obtain ⟨rfl, -⟩ := Prod.mk.inj hout
  exact ⟨rfl, rfl⟩

theorem compileModel_junction (h : compileModel models m template collation = .ok (t, js))
    {j : JunctionTable} (hj : j ∈ js) : j.hasId = false := by
  obtain ⟨fields, -, hp⟩ := compileModel_partitioned h
  obtain ⟨f, -, hjunction⟩ := exists_related_left hp.junctions hj
  obtain ⟨name, target, -, -, rfl⟩ := hjunction.target
  rfl

theorem Partitioned.table_closed (hp : Partitioned models m fields t js)
    (h : models.compile template collation = .ok schema) (hid : t.hasId = true)
    (hprimary : t.primaryKeys = [Naming.surrogateKey]) : t.Closed schema where
  keys e he := by
    obtain ⟨f, -, hkey⟩ := exists_related_left hp.keys he
    obtain ⟨c, hcolumn, -, hstorage⟩ := hkey.column
    exact ⟨c, hcolumn, hstorage⟩
  primaryKeys k hk := by
    rw [hprimary, List.mem_singleton] at hk
    exact Or.inr ⟨hid, hk⟩
  references e he := by
    obtain ⟨f, -, hkey⟩ := exists_related_left hp.keys he
    obtain ⟨name, target, ⟨-, hget⟩, htable, hcolumn⟩ := hkey.references
    rw [htable]
    exact ⟨hcolumn, base_table_mem h (OrderedMap.mem_values_of_get? hget)⟩

theorem Partitioned.junction_closed (hp : Partitioned models m fields t js)
    (h : models.compile template collation = .ok schema) (hm : m ∈ models.values)
    {j : JunctionTable} (hj : j ∈ js) : j.toTable.Closed schema := by
  obtain ⟨f, -, hjunction⟩ := exists_related_left hp.junctions hj
  obtain ⟨name, target, ⟨-, hget⟩, -, rfl⟩ := hjunction.target
  have htarget := base_table_mem h (OrderedMap.mem_values_of_get? hget)
  have howner := base_table_mem h hm
  constructor
  case keys =>
    intro e he
    exact ⟨_, JunctionTable.build_column? (JunctionTable.build_key he).1, rfl⟩
  case primaryKeys =>
    intro k hk
    exact Or.inl hk
  case references =>
    intro e he
    obtain ⟨-, htable, hcolumn⟩ := JunctionTable.build_key he
    refine ⟨hcolumn, ?_⟩
    rcases htable with htable | htable
    · rwa [htable]
    · rwa [htable]

/-! ### Schemas -/

theorem compile_closed (h : models.compile template collation = .ok schema) :
    ∀ t ∈ schema.allTables, t.Closed schema := by
  intro t ht
  rcases List.mem_append.mp ht with ht | ht
  · obtain ⟨m, -, js, hcompiled⟩ := table_compiled h ht
    obtain ⟨fields, -, hp⟩ := compileModel_partitioned hcompiled
    obtain ⟨hid, hprimary⟩ := compileModel_base hcompiled
    exact hp.table_closed h hid hprimary
  · obtain ⟨j, hj, rfl⟩ := List.mem_map.mp ht
    obtain ⟨m, hm, base, js, hcompiled, hj⟩ := junction_compiled h hj
    obtain ⟨fields, -, hp⟩ := compileModel_partitioned hcompiled
    exact hp.junction_closed h hm hj

theorem afterReferenced_of_prefix (h : models.compile template collation = .ok schema)
    {handed : List Table} (hbegin : handed <+: schema.allTables) :
    AfterReferenced schema handed := by
  intro before j after hj hsplit e he
  -- what comes before a junction table has all base tables in it, as these come first
  have htables : ∀ b ∈ schema.tables, b ∈ before := by
    obtain ⟨rest, hrest⟩ := hbegin
    rw [hsplit, Schema.allTables, List.append_assoc, List.cons_append,
      List.append_eq_append_iff] at hrest
    rcases hrest with ⟨middle, htables, hmiddle⟩ | ⟨middle, rfl, -⟩
    · cases middle with
      | nil =>
        rw [List.append_nil] at htables
        rw [htables]
        exact fun b hb => hb
      | cons t middle =>
        -- the junction table would be one of the base tables
        obtain ⟨rfl, -⟩ := List.cons.inj hmiddle
        obtain ⟨m, -, js, hbase⟩ := table_compiled h (t := j.toTable) (by rw [htables]; simp)
        obtain ⟨m', -, base, js', hcompiled, hj⟩ := junction_compiled h hj
        have hid := (compileModel_base hbase).1
        rw [compileModel_junction hcompiled hj] at hid
        cases hid
    · intro b hb
      exact List.mem_append_left _ hb
  have hclosed := compile_closed h j.toTable
    (List.mem_append_right _ (List.mem_map_of_mem hj))
  obtain ⟨-, b, hb, hid, hname⟩ := hclosed.references e he
  exact ⟨⟨b, htables b hb, hid, hname⟩, fun b hb _ => htables b hb⟩

end Compiled

/--
The tables of a compiled schema are closed, and whoever creates them is handed each junction table
after the tables that it points at: all of them in their order, or a beginning when one fails.
-/
theorem compiled_schema_closed {sources : OrderedMap ModelSource} {template : OrderedMap Value}
    {collation : Option String} {schema : Schema}
    (h : compileSchema sources template collation = .ok schema) :
    (∀ t ∈ schema.allTables, t.Closed schema) ∧
      ∀ {σ : Type} (s : Service) (settings : ServiceSettings) (c : Collaborator σ) (state : σ),
        s.currentTemplate settings = template → s.currentCollation settings = collation →
          s.handedOver settings c sources state <+: schema.allTables ∧
          ((s.createSchema settings c sources state).1 = .ok schema →
            s.handedOver settings c sources state = schema.allTables) ∧
          AfterReferenced schema (s.handedOver settings c sources state) := by
  obtain ⟨models, -, hcompile⟩ := compileSchema_eq_ok h
  refine ⟨compile_closed hcompile, ?_⟩
  intro σ s settings c state htemplate hcollation
  have hservice : s.compile settings sources = .ok schema := by
    simp only [Service.compile, htemplate, hcollation, h]
  obtain ⟨hbegin, hall⟩ := s.handedOver_prefix hservice c state
  exact ⟨hbegin, hall, afterReferenced_of_prefix hcompile hbegin⟩

theorem blog_schema_closed :
    compileSchema blog defaultTemplate (some "utf8_general_ci") = .ok blogSchema ∧
      Service.currentTemplate {} {} = defaultTemplate ∧
      Service.currentCollation {} {} = some "utf8_general_ci" ∧
      (∀ t ∈ blogSchema.allTables, t.Closed blogSchema) ∧
      Service.handedOver {} {} (Behaviour.collaborator {}) blog {} <+: blogSchema.allTables ∧
      ((Service.createSchema {} {} (Behaviour.collaborator {}) blog {}).1 = .ok blogSchema →
        Service.handedOver {} {} (Behaviour.collaborator {}) blog {} = blogSchema.allTables) ∧
      AfterReferenced blogSchema (Service.handedOver {} {} (Behaviour.collaborator {}) blog {}) := by
  have htemplate : Service.currentTemplate {} {} = defaultTemplate := rfl
  have hcollation : Service.currentCollation {} {} = some "utf8_general_ci" := by decide +kernel
  obtain ⟨hclosed, hcreated⟩ := compiled_schema_closed blog_compiles
  exact ⟨blog_compiles, htemplate, hcollation, hclosed,
    hcreated {} {} (Behaviour.collaborator {}) {} htemplate hcollation⟩

end RelationalModels
