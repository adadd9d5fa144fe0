import RelationalModels.Proofs.Registration
import RelationalModels.Sql.CreateTable
import RelationalModels.Sql.Executor

/-!
# Statements that forget the past

An executor keeps one registry for all tables that it builds, and a foreign key is written from what
stands there for its target: a placeholder, the table itself, or nothing when the table was refused.
`statement_afterCalls` states that none of this shows: whatever an executor has been asked to do
with the tables of a schema, the statement for one of them, or the error, is that of a fresh
executor.
-/

namespace RelationalModels.Sql

/-! ### Targets of foreign keys -/

theorem cutAtLastDot_dotted {after : String} (h : '.' ∉ after.toList) (before : String) :
    cutAtLastDot (before ++ "." ++ after) = (before, after) := by
  have hchars : (before ++ "." ++ after).toList.reverse =
      after.toList.reverse ++ '.' :: before.toList.reverse := by
    simp
  have hplain : ∀ c ∈ after.toList.reverse, (!(c == '.')) = true := by
    intro c hc
    have hne : c ≠ '.' := fun hdot => h (hdot ▸ List.mem_reverse.mp hc)
    simpa using hne
  rw [cutAtLastDot, Text.cutAtLast, Text.cutAt, hchars, List.takeWhile_append_of_pos hplain,
    List.dropWhile_append_of_pos hplain]
  simp

def SqlForeignKey.Meets (k : SqlForeignKey) (reg : Registry) : Prop :=
  ∃ x, reg.get? k.targetTable = some x ∧ k.targetColumn ∈ x.columns.map SqlColumn.name

theorem SqlForeignKey.resolve_of_meets {k : SqlForeignKey} {reg : Registry} (h : k.Meets reg)
    (hdot : '.' ∉ k.targetColumn.toList) (table : String) :
    k.resolve reg table = .ok (k.targetTable, k.targetColumn) := by
  obtain ⟨x, hx, hcolumn⟩ := h
  have hany : (x.columns.any fun c => c.name == k.targetColumn) = true := by
    simpa using hcolumn
  rw [SqlForeignKey.resolve, SqlForeignKey.target, cutAtLastDot_dotted hdot]
  simp only [hx, hany, if_true]

theorem foreignKeyItems_congr {reg others : Registry} {table : String} {keys : List SqlForeignKey}
    (h : ∀ k ∈ keys, k.resolve reg table = k.resolve others table) :
    foreignKeyItems reg table keys = foreignKeyItems others table keys := by
  induction keys with
  | nil => rfl
  | cons k keys ih =>
    obtain ⟨hk, hrest⟩ := List.forall_mem_cons.mp h
    have hitem : k.item reg table = k.item others table := by
      rw [SqlForeignKey.item, SqlForeignKey.item, hk]
    rw [foreignKeyItems, foreignKeyItems, hitem, ih hrest]

theorem SqlTable.createStatement_congr {reg others : Registry} {t : SqlTable}
    (h : ∀ k ∈ t.foreignKeys, k.resolve reg t.name = k.resolve others t.name) :
    t.createStatement reg = t.createStatement others := by
  rw [createStatement, createStatement, items, items, foreignKeyItems_congr h]

namespace Registry

variable {reg : Registry} {front : String} {t : Table}

theorem render_registry (reg : Registry) (front : String) (t : Table) :
    (reg.render front t).1 = (reg.build front t).1 := by
  rw [render]
  rcases reg.build front t with ⟨after, error | table⟩
  · rfl
  · dsimp only
    cases table.createStatement after <;> rfl

theorem render_outcome (h : ∀ e ∈ t.foreignKeys.entries, e.2.column ≠ "") :
    (reg.render front t).2 =
      match SqlTable.fault? front t with
      | some e => .error e
      | none => ((SqlTable.assemble front t).createStatement (reg.entered front t)).map
          fun sql => (sql, SqlTable.assemble front t) := by
  rw [render, build_eq h, entered]
  cases SqlTable.fault? front t with
  | some e => rfl
  | none =>
    dsimp only
    cases (SqlTable.assemble front t).createStatement _ <;> rfl

end Registry

/-! ### Registries with keys -/

/--
Tables of different names, each of whose foreign keys leads to the surrogate key of one of them that
has it.
-/
structure Selfcontained (ts : List Table) : Prop where
  names : (ts.map fun t => t.name).Nodup
  targets : ∀ t ∈ ts, ∀ e ∈ t.foreignKeys.entries, e.2.column = Naming.surrogateKey ∧
    ∃ b ∈ ts, b.hasId = true ∧ b.name = e.2.table

/-- Whatever stands under the name of a table with a surrogate key has that column. -/
def Registry.Keyed (front : String) (ts : List Table) (reg : Registry) : Prop :=
  ∀ b ∈ ts, b.hasId = true → ∀ x, reg.get? (front ++ b.name) = some x →
    Naming.surrogateKey ∈ x.columns.map SqlColumn.name

theorem Registry.keyed_empty (front : String) (ts : List Table) : Keyed front ts .empty := by
  intro b _ _ x hx
  cases hx

namespace Selfcontained

variable {front : String} {ts : List Table} {t : Table} {reg others : Registry}

theorem key_targets (h : Selfcontained ts) (ht : t ∈ ts) {k : SqlForeignKey}
    (hk : k ∈ SqlTable.foreignKeysOf front t) : k.targetColumn = Naming.surrogateKey ∧
      ∃ b ∈ ts, b.hasId = true ∧ front ++ b.name = k.targetTable := by
  obtain ⟨e, he, rfl⟩ := List.mem_map.mp hk
  obtain ⟨hcolumn, b, hb, hid, hname⟩ := h.targets t ht e he
  exact ⟨hcolumn, b, hb, hid, by rw [hname]⟩

theorem targets_named (h : Selfcontained ts) (ht : t ∈ ts) :
    ∀ e ∈ t.foreignKeys.entries, e.2.column ≠ "" := by
  intro e he
  rw [(h.targets t ht e he).1]
  decide

theorem placed (h : Selfcontained ts) (ht : t ∈ ts) (name : String) (reg : Registry) :
    (Registry.addPlaceholders name (SqlTable.foreignKeysOf front t) reg).2 = none := by
  apply Registry.addPlaceholders_ok
  intro k hk
  rw [(h.key_targets ht hk).1]
  decide

theorem keyed_prepared (h : Selfcontained ts) (ht : t ∈ ts) (hreg : reg.Keyed front ts) :
    (reg.prepared front t).Keyed front ts := by
  intro b hb hid x hx
  rw [Registry.get?_prepared (h.placed ht _ _)] at hx
  split at hx
  · cases hx
  · rcases Option.or_eq_some_iff.mp hx with hold | ⟨-, hnew⟩
    · exact hreg b hb hid x hold
    · obtain ⟨k, hk, -, rfl⟩ := SqlTable.awaited?_eq_some hnew
      rw [(h.key_targets ht hk).1]
      exact List.mem_singleton.mpr rfl

theorem keyed_entered (h : Selfcontained ts) (ht : t ∈ ts) (hreg : reg.Keyed front ts) :
    (reg.entered front t).Keyed front ts := by
  intro b hb hid x hx
  rw [Registry.entered, OrderedMap.get?_insert] at hx
  split at hx
  · next hname =>
    -- names are different, so that it is the table itself that has the surrogate key
    have hsame : b.name = t.name := by simpa using hname
    obtain rfl : b = t := List.inj_on_of_nodup_map h.names hb ht hsame
    obtain rfl := Option.some.inj hx
    have hcolumns := Table.columnsOf_names hid
    simp [SqlTable.assemble, hcolumns]
  · exact h.keyed_prepared ht hreg b hb hid x hx

theorem keyed_build (h : Selfcontained ts) (ht : t ∈ ts) (hreg : reg.Keyed front ts) :
    (reg.build front t).1.Keyed front ts := by
  rw [Registry.build_eq (h.targets_named ht)]
  cases SqlTable.fault? front t with
  | some e => exact h.keyed_prepared ht hreg
  | none => exact h.keyed_entered ht hreg

theorem meets (h : Selfcontained ts) (ht : t ∈ ts) (hreg : reg.Keyed front ts) {k : SqlForeignKey}
    (hk : k ∈ SqlTable.foreignKeysOf front t) :
    k.Meets (reg.entered front t) := by
  obtain ⟨hcolumn, b, hb, hid, hname⟩ := h.key_targets ht hk
  -- the target is the table itself, or stood there before, or is awaited from now on
  have hstands : ((reg.entered front t).get? k.targetTable).isSome = true := by
    rw [Registry.get?_entered (h.placed ht _ _)]
    split
    · rfl
    · rw [Option.isSome_or, SqlTable.isSome_awaited? hk, Bool.or_true]
  obtain ⟨x, hx⟩ := Option.isSome_iff_exists.mp hstands
  refine ⟨x, hx, ?_⟩
  rw [hcolumn]
  exact h.keyed_entered ht hreg b hb hid x (by rw [hname]; exact hx)

/-- The statement for a table, or the error, is the same in any two registries with keys. -/
theorem render_eq (h : Selfcontained ts) (ht : t ∈ ts) (hreg : reg.Keyed front ts)
    (hothers : others.Keyed front ts) :
    (reg.render front t).2 = (others.render front t).2 := by
  have hdot : ∀ k ∈ SqlTable.foreignKeysOf front t, '.' ∉ k.targetColumn.toList := by
    intro k hk
    rw [(h.key_targets ht hk).1]
    decide
  have hstatement : (SqlTable.assemble front t).createStatement (reg.entered front t) =
      (SqlTable.assemble front t).createStatement (others.entered front t) := by
    apply SqlTable.createStatement_congr
    intro k hk
    rw [SqlForeignKey.resolve_of_meets (h.meets ht hreg hk) (hdot k hk),
      SqlForeignKey.resolve_of_meets (h.meets ht hothers hk) (hdot k hk)]
  rw [Registry.render_outcome (h.targets_named ht), Registry.render_outcome (h.targets_named ht),
    hstatement]

end Selfcontained

/-! ### Calls -/

inductive TableCall where
  | build (t : Table)
  | render (t : Table)
  | create (t : Table)

namespace TableCall

def table : TableCall → Table
  | build t => t
  | render t => t
  | create t => t

def perform (x : Executor) : TableCall → Executor
  | build t => { x with registry := (x.registry.build x.front t).1 }
  | render t => { x with registry := (x.registry.render x.front t).1 }
  | create t => (x.createTable t).2

end TableCall

namespace Executor

def afterCalls (x : Executor) (calls : List TableCall) : Executor :=
  calls.foldl TableCall.perform x

def statement (x : Executor) (t : Table) : Except SqlError (String × SqlTable) :=
  (x.registry.render x.front t).2

theorem createTable_registry (x : Executor) (t : Table) :
    (x.createTable t).2.front = x.front ∧
      (x.createTable t).2.registry = (x.registry.build x.front t).1 := by
  rw [createTable]
  rcases x.registry.build x.front t with ⟨after, error | table⟩
  · exact ⟨rfl, rfl⟩
  · dsimp only
    rcases retrying (Backend.createOnce table after) (x.maxAttempts - 1) x.backend with
      ⟨failure | done, backend⟩
    · exact ⟨rfl, rfl⟩
    · exact ⟨rfl, rfl⟩

theorem perform_registry (x : Executor) (c : TableCall) :
    (c.perform x).front = x.front ∧
      (c.perform x).registry = (x.registry.build x.front c.table).1 := by
  cases c with
  | build t => exact ⟨rfl, rfl⟩
  | render t => exact ⟨rfl, Registry.render_registry x.registry x.front t⟩
  | create t => exact createTable_registry x t

theorem afterCalls_keyed {ts : List Table} (h : Selfcontained ts) {calls : List TableCall}
    (hcalls : ∀ c ∈ calls, c.table ∈ ts) {x : Executor} (hx : x.registry.Keyed x.front ts) :
    (x.afterCalls calls).front = x.front ∧ (x.afterCalls calls).registry.Keyed x.front ts := by
  induction calls generalizing x with
  | nil => exact ⟨rfl, hx⟩
  | cons c rest ih =>
    -- each call changes the registry as a build does, and a build keeps the keys
    obtain ⟨hc, hrest⟩ := List.forall_mem_cons.mp hcalls
    obtain ⟨hfront, hregistry⟩ := perform_registry x c
    have hnext : (c.perform x).registry.Keyed (c.perform x).front ts := by
      rw [hfront, hregistry]
      exact h.keyed_build hc hx
    have hrun := ih hrest hnext
    rw [hfront] at hrun
    exact hrun

end Executor

/-! ### Schemas -/

theorem selfcontained_of_compile {models : Models} {template : OrderedMap Value}
    {collation : Option String} {schema : Schema}
    (h : models.compile template collation = .ok schema)
    (hnames : (schema.allTables.map fun t => t.name).Nodup) : Selfcontained schema.allTables where
  names := hnames
  targets t ht e he := by
    obtain ⟨hcolumn, b, hb, hid, hname⟩ := (compile_closed h t ht).references e he
    exact ⟨hcolumn, b, List.mem_append_left _ hb, hid, hname⟩

/--
Where the tables of a schema have different names, the statement for one of them, or the error, does
not depend on what an executor that was fresh at first has been asked to do with them since.
-/
theorem statement_afterCalls {sources : OrderedMap ModelSource} {template : OrderedMap Value}
    {collation : Option String} {schema : Schema} {x : Executor} {calls : List TableCall}
    {t : Table}
    (h : compileSchema sources template collation = .ok schema)
    (hnames : (schema.allTables.map fun t => t.name).Nodup) (hfresh : x.registry = .empty)
    (hcalls : ∀ c ∈ calls, c.table ∈ schema.allTables) (ht : t ∈ schema.allTables) :
    (x.afterCalls calls).statement t = x.statement t := by
  obtain ⟨models, -, hcompile⟩ := compileSchema_eq_ok h
  have hself := selfcontained_of_compile hcompile hnames
  have hx : x.registry.Keyed x.front schema.allTables := by
    rw [hfresh]
    exact Registry.keyed_empty x.front schema.allTables
  obtain ⟨hfront, hkeyed⟩ := Executor.afterCalls_keyed hself hcalls hx
  rw [Executor.statement, Executor.statement, hfront]
  exact hself.render_eq ht hkeyed hx

/-! ### Comments on posts with numbers -/

def postComments : OrderedMap ModelSource :=
  .ofList
    [("comment", .admitted (.ofFields
       [("text", .empty), ("post", declaredRelation "post" false true)])),
     ("post", .admitted (.ofFields
       [("id", .ofList [("type", .text "int")]), ("title", .empty)]))]

def commentTable : Table where
  name := "comment"
  columns := [textColumn "text", Column.link "post"]
  foreignKeys := .ofList [("post", { constraint := "FK_comment_post", table := "post" })]

/-- The tables are created in their order, where the posts are refused, and asked for again. -/
def commentCalls : List TableCall :=
  [.create commentTable, .create numberedPostsTable, .render commentTable,
   .render numberedPostsTable, .build commentTable]

theorem comment_statement_afterCalls :
    compileSchema postComments defaultTemplate none =
        .ok ⟨[commentTable, numberedPostsTable], []⟩ ∧
      ([commentTable, numberedPostsTable].map fun t => t.name).Nodup ∧
      (∀ c ∈ commentCalls, c.table ∈ [commentTable, numberedPostsTable]) ∧
      ({ front := "app_" } : Executor).statement numberedPostsTable =
        .error (.duplicateColumn "app_post" "id") ∧
      (({ front := "app_" } : Executor).afterCalls commentCalls).statement commentTable =
        ({ front := "app_" } : Executor).statement commentTable := by
  have hcompile : compileSchema postComments defaultTemplate none =
      .ok ⟨[commentTable, numberedPostsTable], []⟩ := by decide +kernel
  have hnames : ([commentTable, numberedPostsTable].map fun t => t.name).Nodup := by
    decide +kernel
  have hcalls : ∀ c ∈ commentCalls, c.table ∈ [commentTable, numberedPostsTable] := by
    decide +kernel
  have hrefused : ({ front := "app_" } : Executor).statement numberedPostsTable =
      .error (.duplicateColumn "app_post" "id") := by decide +kernel
  exact ⟨hcompile, hnames, hcalls, hrefused,
    statement_afterCalls hcompile hnames rfl hcalls (List.mem_cons_self ..)⟩

end RelationalModels.Sql
