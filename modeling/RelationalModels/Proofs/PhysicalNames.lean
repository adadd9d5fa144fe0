import RelationalModels.Proofs.Agreement
import RelationalModels.Proofs.References
import RelationalModels.Proofs.Registration
import RelationalModels.Sql.Select

/-!
# The common beginning of table names

All tables of a database may have names with a common beginning. `front_of_physical_names` states
that it is part of the names under which tables are created and read and of nothing else: building
and reading with it is building and reading tables that bear their full names. The tables that a
plan reads are then among those that are built from a schema of the same models.
-/

namespace RelationalModels

/-! ### Full names -/

def Table.withFront (front : String) (t : Table) : Table :=
  { t with
    name := front ++ t.name
    foreignKeys := t.foreignKeys.mapValues fun _ k => { k with table := front ++ k.table } }

def Join.withFront (front : String) (j : Join) : Join :=
  { j with rightTable := front ++ j.rightTable, rightAlias := some j.rightName }

def QueryPlan.withFront (front : String) (plan : QueryPlan) : QueryPlan :=
  { plan with table := front ++ plan.table, joins := plan.joins.map (Join.withFront front) }

/-! ### The tables that a plan reads -/

def QueryPlan.tables (plan : QueryPlan) : List String :=
  plan.table :: plan.joins.map fun j => j.rightTable

theorem followed_junction_compiled {models : Models} {template : OrderedMap Value}
    {collation : Option String} {schema : Schema}
    (h : models.compile template collation = .ok schema) {hop : Hop}
    (hf : hop.Follows models template) (howner : hop.owner ∈ models.values)
    (hmany : hop.hasMany = true) : ∃ t ∈ schema.junctions, t.name = hop.junction := by
  obtain ⟨t, ht, link, second, hjoins, -, -, hfits⟩ := hasMany_fits h hf howner hmany "" ""
  rw [Hop.joins_of_hasMany hmany] at hjoins
  have hlink : hop.junctionJoin "" "" = link := (List.cons.inj hjoins).1
  refine ⟨t, ht, ?_⟩
  rw [hfits.name, ← hlink]
  rfl

/-- A plan without an override of its joins reads tables of every schema of its models. -/
theorem tables_compiled {sources : OrderedMap ModelSource} {template : OrderedMap Value}
    {collation : Option String} {schema : Schema} {name : String} {options : QueryOptions}
    {depth : Int} {plan : QueryPlan}
    (h : compileSchema sources template collation = .ok schema)
    (hplan : resolveQuery sources name options template depth = .ok plan)
    (hjoins : options.joins = none) :
    ∀ table ∈ plan.tables, ∃ t ∈ schema.allTables, t.name = table := by
  obtain ⟨models, hparse, hcompile⟩ := compileSchema_eq_ok h
  obtain ⟨model, vs, -, hmodel, hvs, htable, -, -, hvisits⟩ := plan_visits hplan hparse
  have hbase : ∀ m ∈ models.values, ∃ t ∈ schema.allTables, t.name = m.tableName := by
    intro m hm
    obtain ⟨b, hb, -, hname⟩ := base_table_mem hcompile hm
    exact ⟨b, List.mem_append_left _ hb, hname⟩
  intro table hmem
  rcases List.mem_cons.mp hmem with rfl | hmem
  · rw [htable]
    exact hbase model hmodel
  · obtain ⟨j, hj, rfl⟩ := List.mem_map.mp hmem
    rw [hvisits hjoins] at hj
    obtain ⟨v, hv, hj⟩ := List.mem_flatMap.mp hj
    cases v with
    | column route owner traits => cases hj
    | relation route hop =>
      have hwithin := (hvs.mem_iff _).mp hv
      obtain ⟨howner, hfollows⟩ := hwithin.2.owner_mem hmodel hop (by simp)
      rcases Hop.mem_joins hj with rfl | ⟨hmany, rfl⟩
      · exact hbase hop.target hfollows.target_mem
      · obtain ⟨t, ht, hname⟩ := followed_junction_compiled hcompile hfollows howner hmany
        have hall : t.toTable ∈ schema.allTables :=
          List.mem_append_right _ (List.mem_map_of_mem ht)
        exact ⟨t.toTable, hall, hname⟩

namespace Sql

/-! ### Building -/

def SqlTable.withFront (front : String) (t : SqlTable) : SqlTable :=
  { t with
    name := front ++ t.name
    foreignKeys := t.foreignKeys.map fun k => { k with targetTable := front ++ k.targetTable } }

namespace SqlTable

variable (front : String) (t : Table)

theorem name_withFront : "" ++ (t.withFront front).name = front ++ t.name := by
  simp [Table.withFront]

theorem columnsOf_withFront : columnsOf (t.withFront front) = columnsOf t := rfl

theorem primaryKeyOf_withFront : primaryKeyOf (t.withFront front) = primaryKeyOf t := rfl

theorem foreignKeysOf_withFront : foreignKeysOf "" (t.withFront front) = foreignKeysOf front t := by
  simp [foreignKeysOf, Table.withFront, OrderedMap.mapValues]

theorem assemble_withFront : assemble "" (t.withFront front) = assemble front t := by
  rw [assemble, assemble, foreignKeysOf_withFront, columnsOf_withFront, primaryKeyOf_withFront,
    name_withFront]
  rfl

theorem fault?_withFront : fault? "" (t.withFront front) = fault? front t := by
  rw [fault?, fault?, foreignKeysOf_withFront, columnsOf_withFront, primaryKeyOf_withFront,
    name_withFront]

/-- The beginning of names is not found in columns, keys or the names of constraints. -/
theorem assemble_eq_withFront : assemble front t = (assemble "" t).withFront front := by
  simp [assemble, withFront, foreignKeysOf]

end SqlTable

namespace Registry

theorem build_withFront (reg : Registry) (front : String) (t : Table) :
    reg.build "" (t.withFront front) = reg.build front t := by
  rw [build, build, SqlTable.foreignKeysOf_withFront, SqlTable.fault?_withFront,
    SqlTable.assemble_withFront, SqlTable.name_withFront]

def buildAll (front : String) :
    List Table → Registry → Registry × List (Except SqlError SqlTable)
  | [], reg => (reg, [])
  | t :: rest, reg =>
    let (after, outcome) := reg.build front t
    let (last, outcomes) := buildAll front rest after
    (last, outcome :: outcomes)

theorem buildAll_withFront (front : String) (ts : List Table) (reg : Registry) :
    buildAll "" (ts.map (Table.withFront front)) reg = buildAll front ts reg := by
  induction ts generalizing reg with
  | nil => rfl
  | cons t rest ih => simp only [List.map_cons, buildAll, build_withFront, ih]

theorem get?_of_built {front : String} {ts : List Table} {reg : Registry}
    (h : buildEach front ts .empty = .ok reg) {t : Table} (ht : t ∈ ts) :
    ∃ u ∈ ts, u.name = t.name ∧ reg.get? (front ++ t.name) = some (SqlTable.assemble front u) := by
  have hget := get?_buildEach h (front ++ t.name)
  cases hlast : lastBuilt? front ts (front ++ t.name) with
  | none => exact absurd rfl (lastBuilt?_eq_none_iff.mp hlast t ht)
  | some table =>
    rw [hlast, Option.some_or] at hget
    obtain ⟨u, hfind, rfl⟩ := Option.map_eq_some_iff.mp hlast
    have hname : front ++ u.name = front ++ t.name := by simpa using List.find?_some hfind
    have hmem : u ∈ ts := List.mem_reverse.mp (List.mem_of_find?_eq_some hfind)
    exact ⟨u, hmem, by simpa using hname, hget⟩

end Registry

/-! ### Reading -/

theorem rightName_ne_empty {j : Join} (h : j.rightTable ≠ "") : j.rightName ≠ "" := by
  rw [Join.rightName]
  cases halias : j.alias? with
  | none => exact h
  | some name =>
    have hname : name ≠ "" := by simpa using (Option.filter_eq_some_iff.mp halias).2
    exact hname

theorem rightName_withFront (front : String) {j : Join} (h : j.rightTable ≠ "") :
    (j.withFront front).rightName = j.rightName := by
  have hname : (!j.rightName.isEmpty) = true := by simpa using rightName_ne_empty h
  have halias : (j.withFront front).alias? = some j.rightName := if_pos hname
  rw [Join.rightName, halias, Option.getD_some]

theorem joinClause_withFront (front : String) {j : Join} (h : j.rightTable ≠ "") :
    joinClause "" (j.withFront front) = joinClause front j := by
  have hfull : "" ++ (j.withFront front).rightTable = front ++ j.rightTable := by
    simp [Join.withFront]
  rw [joinClause, joinClause, joinCondition, joinCondition, aliased, aliased,
    rightName_withFront front h, hfull]
  rfl

theorem selectStatement_withFront (front : String) {plan : QueryPlan}
    (h : ∀ j ∈ plan.joins, j.rightTable ≠ "") :
    selectStatement (plan.withFront front) "" = selectStatement plan front := by
  have hjoins : (plan.withFront front).joins.map (joinClause "") =
      plan.joins.map (joinClause front) := by
    rw [QueryPlan.withFront, List.map_map]
    exact List.map_congr_left fun j hj => joinClause_withFront front (h j hj)
  have htable : "" ++ (plan.withFront front).table = front ++ plan.table := by
    simp [QueryPlan.withFront]
  simp only [selectStatement, hjoins, aliased, htable]
  rfl

def afterTableName (j : Join) : String := " AS " ++ writeIdentifier j.rightName ++ joinCondition j

theorem joinClause_eq (front : String) (j : Join) : joinClause front j =
    joinWord j.kind ++ writeIdentifier (front ++ j.rightTable) ++ afterTableName j := by
  simp only [joinClause, aliased, afterTableName, String.append_assoc]

/-- The statement of a plan but for the full names of the tables that it reads. -/
theorem selectStatement_around_names (plan : QueryPlan) :
    ∃ (before after last : String) (word rest : Join → String), ∀ front,
      (selectStatement plan front).sql =
        before ++ writeIdentifier (front ++ plan.table) ++ after ++
          String.join (plan.joins.map fun j =>
            word j ++ writeIdentifier (front ++ j.rightTable) ++ rest j) ++ last := by
  refine ⟨"SELECT " ++ ", ".intercalate (selectList plan) ++ " \nFROM ",
    " AS " ++ writeIdentifier plan.baseAlias,
    filterClause plan.passthrough.conditions.entries ++ orderClause plan.passthrough.orderBy ++
      (limitClause plan.passthrough.limit plan.passthrough.offset).sql,
    fun j => joinWord j.kind, afterTableName, ?_⟩
  intro front
  rw [selectStatement_sql, funext (joinClause_eq front), aliased]
  simp only [String.append_assoc]

/-! ### Tables and plans together -/

/--
Building tables with a common beginning of names is building those that bear their full names, one
after the other and whatever stood in the registry; columns, keys and constraints are built alike.
Reading a plan with it is reading the plan of the full names, whose statement is the same around
these names whatever they begin with. Where a plan comes from the models of a schema and its joins
are not overridden, the tables that it reads are tables of the schema, and stand in a registry in
which these have been built.
-/
theorem front_of_physical_names :
    (∀ (front : String) (ts : List Table) (reg : Registry),
      Registry.buildAll front ts reg =
        Registry.buildAll "" (ts.map (Table.withFront front)) reg) ∧
    (∀ (front : String) (t : Table),
      SqlTable.assemble front t = (SqlTable.assemble "" t).withFront front) ∧
    (∀ (front : String) (plan : QueryPlan), (∀ j ∈ plan.joins, j.rightTable ≠ "") →
      selectStatement plan front = selectStatement (plan.withFront front) "") ∧
    (∀ plan : QueryPlan, ∃ (before after last : String) (word rest : Join → String), ∀ front,
      (selectStatement plan front).sql =
        before ++ writeIdentifier (front ++ plan.table) ++ after ++
          String.join (plan.joins.map fun j =>
            word j ++ writeIdentifier (front ++ j.rightTable) ++ rest j) ++ last) ∧
    ∀ (sources : OrderedMap ModelSource) (template : OrderedMap Value) (collation : Option String)
      (schema : Schema) (name : String) (options : QueryOptions) (depth : Int) (plan : QueryPlan),
      compileSchema sources template collation = .ok schema →
      resolveQuery sources name options template depth = .ok plan → options.joins = none →
      ∀ table ∈ plan.tables, (∃ t ∈ schema.allTables, t.name = table) ∧
        ∀ front reg, Registry.buildEach front schema.allTables .empty = .ok reg →
          ∃ t ∈ schema.allTables, t.name = table ∧
            reg.get? (front ++ table) = some (SqlTable.assemble front t) := by
  refine ⟨?_, SqlTable.assemble_eq_withFront, ?_, selectStatement_around_names, ?_⟩
  · intro front ts reg
    exact (Registry.buildAll_withFront front ts reg).symm
  · intro front plan hplan
    exact (selectStatement_withFront front hplan).symm
  · intro sources template collation schema name options depth plan h hplan hjoins table htable
    have hcompiled := tables_compiled h hplan hjoins table htable
    refine ⟨hcompiled, ?_⟩
    intro front reg hbuilt
    obtain ⟨t, ht, rfl⟩ := hcompiled
    exact Registry.get?_of_built hbuilt ht

theorem mentoring_front_of_names :
    (∀ j ∈ mentoringPlan.joins, j.rightTable ≠ "") ∧
    selectStatement mentoringPlan "app_" = selectStatement (mentoringPlan.withFront "app_") "" ∧
    ∃ schema reg, compileSchema mentoring defaultTemplate none = .ok schema ∧
      resolveQuery mentoring "user" {} defaultTemplate 2 = .ok mentoringPlan ∧
      Registry.buildEach "app_" schema.allTables .empty = .ok reg ∧
      ∀ table ∈ mentoringPlan.tables, (∃ t ∈ schema.allTables, t.name = table) ∧
        ∃ t ∈ schema.allTables, t.name = table ∧
          reg.get? ("app_" ++ table) = some (SqlTable.assemble "app_" t) := by
  obtain ⟨-, -, hstatement, -, hstand⟩ := front_of_physical_names
  have hright : ∀ j ∈ mentoringPlan.joins, j.rightTable ≠ "" := by decide
  obtain ⟨schema, hschema⟩ := mentoring_compiles
  have hbuilds : ((compileSchema mentoring defaultTemplate none).toOption.bind fun schema =>
      (Registry.buildEach "app_" schema.allTables .empty).toOption).isSome = true := by
    decide +kernel
  rw [hschema] at hbuilds
  obtain ⟨reg, hreg⟩ := exists_ok_of_isSome hbuilds
  refine ⟨hright, hstatement "app_" mentoringPlan hright, schema, reg, hschema, mentoring_resolves,
    hreg, ?_⟩
  intro table htable
  obtain ⟨hcompiled, hbuilt⟩ := hstand mentoring defaultTemplate none schema "user" {} 2
    mentoringPlan hschema mentoring_resolves rfl table htable
  exact ⟨hcompiled, hbuilt "app_" reg hreg⟩

end Sql

end RelationalModels
