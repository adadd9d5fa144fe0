import RelationalModels.Proofs.Rendering

/-!
# Errors that an executor lets through

An executor builds a table before it tries a connection, and reports only what goes wrong from then
on. `createTable_surfaces` states when a caller sees an error of the database layer itself: exactly
when the table cannot be built in the registry as it is. In all other cases the table is created, or
there is a report of the error with which the last attempt ended. `numbered_posts_escape` shows a
table of a schema whose error gets through.
-/

namespace RelationalModels.Sql

/-! ### Attempts -/

section Attempts

variable {σ α : Type} {attempt : σ → Except Failure α × σ}

inductive Retries (attempt : σ → Except Failure α × σ) : Nat → σ → σ → Prop
  | none (state : σ) : Retries attempt 0 state state
  | again {n : Nat} {state mid after : σ} {f : Failure} (hfails : attempt state = (.error f, mid))
      (htransient : f.isTransient = true) (hrest : Retries attempt n mid after) :
      Retries attempt (n + 1) state after

def Decides (attempt : σ → Except Failure α × σ) (left : Nat) (last : σ) : Prop :=
  left = 0 ∨ ∀ f, (attempt last).1 = .error f → f.isTransient = false

theorem retrying_decided (attempt : σ → Except Failure α × σ) (more : Nat) (state : σ) :
    ∃ n last, n ≤ more ∧ Retries attempt n state last ∧ Decides attempt (more - n) last ∧
      retrying attempt more state = attempt last := by
  induction more generalizing state with
  | zero => exact ⟨0, state, Nat.le_refl 0, .none state, Or.inl rfl, rfl⟩
  | succ more ih =>
    rcases hfirst : attempt state with ⟨f | a, mid⟩
    · by_cases htransient : f.isTransient = true
      · obtain ⟨n, last, hn, hrest, hdecides, hrun⟩ := ih mid
        have hleft : more + 1 - (n + 1) = more - n := by omega
        refine ⟨n + 1, last, by omega, .again hfirst htransient hrest, ?_, ?_⟩
        · rw [hleft]
          exact hdecides
        · simp only [retrying, hfirst, htransient, if_true, hrun]
      · have hlast : ∀ g, (attempt state).1 = .error g → g.isTransient = false := by
          intro g hg
          rw [hfirst] at hg
          cases hg
          exact Bool.eq_false_iff.mpr htransient
        refine ⟨0, state, Nat.zero_le _, .none state, Or.inr hlast, ?_⟩
        simp only [retrying, hfirst, htransient, Bool.false_eq_true, if_false]
    · have hlast : ∀ g, (attempt state).1 = .error g → g.isTransient = false := by
        intro g hg
        rw [hfirst] at hg
        cases hg
      refine ⟨0, state, Nat.zero_le _, .none state, Or.inr hlast, ?_⟩
      simp only [retrying, hfirst]

theorem Retries.keeps {P : σ → Prop} (hstep : ∀ state, P state → P (attempt state).2) {n : Nat}
    {state last : σ} (h : Retries attempt n state last) (hstate : P state) : P last := by
  induction h with
  | none state => exact hstate
  | again hfails _ _ ih =>
    have hmid := hstep _ hstate
    rw [hfails] at hmid
    exact ih hmid

end Attempts

/-! ### Connections -/

def Backend.FailsInSql (b : Backend) : Prop := ∀ f, some f ∈ b.faults → ∃ e, f = .sql e

namespace Backend

variable {b after : Backend} {table : SqlTable} {reg : Registry}

theorem connect_frame (b : Backend) :
    b.connect.2 = { b with attempts := b.attempts + 1, faults := b.faults.drop 1 } := by
  unfold connect
  dsimp only
  split <;> rfl

theorem createConnected_frame (b : Backend) (table : SqlTable) (reg : Registry) :
    ∃ tables sent, (b.createConnected table reg).2 = { b with tables := tables, sent := sent } := by
  unfold createConnected sendCreate
  split
  · exact ⟨_, _, rfl⟩
  · split
    · exact ⟨_, _, rfl⟩
    · exact ⟨_, _, rfl⟩
    · split
      · exact ⟨_, _, rfl⟩
      · dsimp only
        split
        · exact ⟨_, _, rfl⟩
        · split <;> exact ⟨_, _, rfl⟩

theorem createOnce_frame (b : Backend) (table : SqlTable) (reg : Registry) :
    ∃ tables sent, (b.createOnce table reg).2 =
      { b with
        attempts := b.attempts + 1, faults := b.faults.drop 1, tables := tables, sent := sent } := by
  have hconnected := b.connect_frame
  rcases hconnect : b.connect with ⟨_ | f, mid⟩
  · rw [hconnect] at hconnected
    obtain rfl : mid = _ := hconnected
    obtain ⟨tables, sent, hframe⟩ := createConnected_frame
      { b with attempts := b.attempts + 1, faults := b.faults.drop 1 } table reg
    refine ⟨tables, sent, ?_⟩
    rcases hcreate : createConnected table reg
      { b with attempts := b.attempts + 1, faults := b.faults.drop 1 } with ⟨e | done, last⟩
    · rw [hcreate] at hframe
      simpa only [createOnce, hconnect, hcreate] using hframe
    · rw [hcreate] at hframe
      simpa only [createOnce, hconnect, hcreate] using hframe
  · rw [hconnect] at hconnected
    obtain rfl : mid = _ := hconnected
    refine ⟨b.tables, b.sent, ?_⟩
    simp only [createOnce, hconnect]

theorem connect_error {f : Failure} (h : b.connect.1 = some f) : some f ∈ b.faults := by
  unfold connect at h
  dsimp only at h
  split at h
  · next g rest hfaults =>
    obtain rfl : g = f := Option.some.inj h
    rw [hfaults]
    exact List.mem_cons_self ..
  · cases h

theorem createOnce_error {f : Failure} (h : (b.createOnce table reg).1 = .error f) :
    some f ∈ b.faults ∨ ∃ e, f = .sql e := by
  rcases hconnect : b.connect with ⟨_ | g, mid⟩
  · rcases hcreate : mid.createConnected table reg with ⟨e | done, last⟩
    · simp only [createOnce, hconnect, hcreate, Except.error.injEq] at h
      exact Or.inr ⟨e, h.symm⟩
    · simp only [createOnce, hconnect, hcreate, reduceCtorEq] at h
  · simp only [createOnce, hconnect, Except.error.injEq] at h
    subst h
    exact Or.inl (connect_error (by rw [hconnect]))

theorem FailsInSql.createOnce_keeps (h : b.FailsInSql) :
    (b.createOnce table reg).2.FailsInSql := by
  intro f hf
  obtain ⟨_, _, hframe⟩ := b.createOnce_frame table reg
  rw [hframe] at hf
  exact h f (List.mem_of_mem_drop hf)

theorem FailsInSql.createOnce_error (h : b.FailsInSql) {f : Failure}
    (hf : (b.createOnce table reg).1 = .error f) : ∃ e, f = .sql e :=
  (Backend.createOnce_error hf).elim (h f) id

end Backend

/-! ### Tables that can be built in a registry -/

/--
Nothing keeps a table from being built in a registry: its columns have names of their own, its keys
stand on its columns, and a target that is still unknown gets a placeholder whose key has a name.
-/
structure Registry.CanBuild (reg : Registry) (front : String) (t : Table) : Prop where
  columns_named : ∀ n ∈ (SqlTable.columnsOf t).map SqlColumn.name, n ≠ ""
  columns_nodup : ((SqlTable.columnsOf t).map SqlColumn.name).Nodup
  primaryKey : ∀ n ∈ SqlTable.primaryKeyOf t, n ∈ (SqlTable.columnsOf t).map SqlColumn.name
  foreignKeys : ∀ n ∈ t.foreignKeys.names, n ∈ (SqlTable.columnsOf t).map SqlColumn.name
  placeholders : ∀ name k,
    (SqlTable.foreignKeysOf front t).find? (fun k => k.targetTable == name) = some k →
      name ≠ front ++ t.name → reg.get? name = none → k.targetColumn ≠ ""

theorem SqlTable.fault?_eq_none_iff {front : String} {t : Table} :
    fault? front t = none ↔
      (∀ n ∈ (columnsOf t).map SqlColumn.name, n ≠ "") ∧
        ((columnsOf t).map SqlColumn.name).Nodup ∧
        (∀ n ∈ primaryKeyOf t, n ∈ (columnsOf t).map SqlColumn.name) ∧
        ∀ n ∈ t.foreignKeys.names, n ∈ (columnsOf t).map SqlColumn.name := by
  have hcolumns : columnFault? (front ++ t.name) [] (columnsOf t) = none ↔
      (∀ n ∈ (columnsOf t).map SqlColumn.name, n ≠ "") ∧
        ((columnsOf t).map SqlColumn.name).Nodup := by
    have hfault := @columnFault?_eq_none_iff (front ++ t.name) [] (columnsOf t)
    simpa using hfault
  simp only [fault?, Option.orElse_eq_or, Option.or_eq_none_iff, hcolumns,
    constraintFault?_eq_none_iff, foreignKeysOf_columns, and_assoc]

namespace Registry

variable {reg : Registry} {front : String} {t : Table}

theorem addPlaceholders_eq_none_iff {name : String} {keys : List SqlForeignKey} {reg : Registry} :
    (addPlaceholders name keys reg).2 = none ↔
      ∀ other k, keys.find? (fun k => k.targetTable == other) = some k →
        other ≠ name → reg.get? other = none → k.targetColumn ≠ "" := by
  induction keys generalizing reg with
  | nil => simp [addPlaceholders]
  | cons k keys ih =>
    rw [addPlaceholders]
    by_cases hskip : (k.targetTable == name || reg.contains k.targetTable) = true
    · rw [if_pos hskip, ih]
      refine forall_congr' fun other => ?_
      by_cases htarget : k.targetTable = other
      · -- such a name is the table's own or known, so that no key with this target matters
        subst htarget
        have hknown : k.targetTable = name ∨ reg.get? k.targetTable ≠ none := by
          simpa [OrderedMap.contains, Option.isSome_iff_ne_none] using hskip
        constructor
        · intro _ _ _ hne hunknown
          exact absurd hunknown (hknown.resolve_left hne)
        · intro _ _ _ hne hunknown
          exact absurd hunknown (hknown.resolve_left hne)
      · have hbeq : (k.targetTable == other) = false := beq_false_of_ne htarget
        rw [List.find?_cons_of_neg (by simp [hbeq])]
    · have hnew : k.targetTable ≠ name ∧ reg.get? k.targetTable = none := by
        simpa [OrderedMap.contains] using hskip
      rw [if_neg hskip]
      by_cases hcolumn : k.targetColumn = ""
      · have hempty : k.targetColumn.isEmpty = true := by simp [hcolumn]
        rw [if_pos hempty]
        refine iff_of_false (by simp) ?_
        intro hall
        exact hall k.targetTable k (by simp) hnew.1 hnew.2 hcolumn
      · have hempty : ¬ k.targetColumn.isEmpty = true := by simpa using hcolumn
        rw [if_neg hempty, ih]
        refine forall_congr' fun other => ?_
        rw [OrderedMap.get?_insert]
        by_cases htarget : k.targetTable = other
        · subst htarget
          simp [hcolumn]
        · have hbeq : (k.targetTable == other) = false := beq_false_of_ne htarget
          rw [List.find?_cons_of_neg (by simp [hbeq]), if_neg (Ne.symm htarget)]

theorem build_ok_iff : (∃ table, (reg.build front t).2 = .ok table) ↔
    (addPlaceholders (front ++ t.name) (SqlTable.foreignKeysOf front t)
        (reg.erase (front ++ t.name))).2 = none ∧ SqlTable.fault? front t = none := by
  rw [build]
  rcases addPlaceholders (front ++ t.name) (SqlTable.foreignKeysOf front t)
    (reg.erase (front ++ t.name)) with ⟨placed, _ | e⟩
  · cases SqlTable.fault? front t <;> simp
  · simp

theorem canBuild_iff : (∃ table, (reg.build front t).2 = .ok table) ↔ reg.CanBuild front t := by
  have hplaceholders : (addPlaceholders (front ++ t.name) (SqlTable.foreignKeysOf front t)
      (reg.erase (front ++ t.name))).2 = none ↔
      ∀ name k, (SqlTable.foreignKeysOf front t).find? (fun k => k.targetTable == name) = some k →
        name ≠ front ++ t.name → reg.get? name = none → k.targetColumn ≠ "" := by
    rw [addPlaceholders_eq_none_iff]
    refine forall_congr' fun name => forall_congr' fun k => forall_congr' fun _ => ?_
    refine forall_congr' fun hne => ?_
    rw [OrderedMap.get?_erase, if_neg hne]
  rw [build_ok_iff, hplaceholders, SqlTable.fault?_eq_none_iff]
  constructor
  · rintro ⟨hplaceholders, hnamed, hnodup, hprimary, hforeign⟩
    exact ⟨hnamed, hnodup, hprimary, hforeign, hplaceholders⟩
  · rintro ⟨hnamed, hnodup, hprimary, hforeign, hplaceholders⟩
    exact ⟨hplaceholders, hnamed, hnodup, hprimary, hforeign⟩

theorem build_of_canBuild (h : reg.CanBuild front t) :
    reg.build front t = ((reg.build front t).1, .ok (SqlTable.assemble front t)) := by
  obtain ⟨table, htable⟩ := canBuild_iff.mpr h
  rcases hbuild : reg.build front t with ⟨registry, outcome⟩
  rw [hbuild] at htable
  obtain rfl : outcome = .ok table := htable
  obtain ⟨-, rfl, -⟩ := build_eq_ok hbuild
  rfl

end Registry

/-! ### What a caller sees -/

namespace Executor

variable {x : Executor} {t : Table}

def attempt (x : Executor) (t : Table) : Backend → Except Failure Unit × Backend :=
  Backend.createOnce (SqlTable.assemble x.front t) (x.registry.build x.front t).1

def EndsWith (x : Executor) (t : Table) (e : SqlError) : Prop :=
  ∃ n last, n ≤ x.maxAttempts - 1 ∧ Retries (x.attempt t) n x.backend last ∧
    Decides (x.attempt t) (x.maxAttempts - 1 - n) last ∧ (x.attempt t last).1 = .error (.sql e)

/--
What a caller of an executor sees of errors of the database layer: such an error itself exactly when
the table cannot be built, before any connection is tried, and otherwise at most a report that names
the table and the kind of the error with which the last attempt ended.
-/
structure Surfaces (x : Executor) (t : Table) : Prop where
  escapes_iff : (∃ e, (x.createTable t).1 = .error (.sql e)) ↔ ¬ x.registry.CanBuild x.front t
  escaped : ∀ e, (x.createTable t).1 = .error (.sql e) →
    (x.registry.build x.front t).2 = .error e ∧ (x.createTable t).2.backend = x.backend
  reported : x.registry.CanBuild x.front t → (x.createTable t).1 = .ok () ∨
    ∃ d e, (x.createTable t).1 = .error (.database d) ∧
      d.context = [("table", .text (x.front ++ t.name)), ("original_error", .text e.name)] ∧
      x.EndsWith t e

theorem createTable_of_refused {e : SqlError} (h : (x.registry.build x.front t).2 = .error e) :
    (x.createTable t).1 = .error (.sql e) ∧ (x.createTable t).2.backend = x.backend := by
  rcases hbuild : x.registry.build x.front t with ⟨registry, _ | table⟩
  · rw [hbuild] at h
    obtain rfl := Except.error.inj h
    simp only [createTable, hbuild, and_self]
  · rw [hbuild] at h
    cases h

theorem createTable_of_canBuild (hx : x.backend.FailsInSql)
    (h : x.registry.CanBuild x.front t) :
    (x.createTable t).1 = .ok () ∨ ∃ e, x.EndsWith t e ∧
      (x.createTable t).1 = .error (.database (.table (x.front ++ t.name) e.name)) := by
  have hbuild := Registry.build_of_canBuild h
  obtain ⟨n, last, hn, hretries, hdecides, hrun⟩ :=
    retrying_decided (x.attempt t) (x.maxAttempts - 1) x.backend
  -- the connections that are left fail like those that were used up
  have hlast : last.FailsInSql :=
    hretries.keeps (fun _ hb => hb.createOnce_keeps) hx
  rcases hend : x.attempt t last with ⟨f | done, after⟩
  · have hfails : (x.attempt t last).1 = .error f := by rw [hend]
    obtain ⟨e, rfl⟩ := hlast.createOnce_error hfails
    refine Or.inr ⟨e, ⟨n, last, hn, hretries, hdecides, hfails⟩, ?_⟩
    rw [hend, attempt] at hrun
    rw [createTable, hbuild]
    simp only [hrun, reportSql]
    rfl
  · left
    rw [hend, attempt] at hrun
    rw [createTable, hbuild]
    simp only [hrun]

/--
When connections fail with errors of the database layer only, such an error gets through to the
caller exactly when the table cannot be built in the registry as it is.
-/
theorem createTable_surfaces (hx : x.backend.FailsInSql) (t : Table) : x.Surfaces t := by
  have hrefused : ¬ x.registry.CanBuild x.front t →
      ∃ e, (x.registry.build x.front t).2 = .error e := by
    intro hcannot
    rw [← Registry.canBuild_iff] at hcannot
    cases hbuild : (x.registry.build x.front t).2 with
    | error e => exact ⟨e, rfl⟩
    | ok table => exact absurd ⟨table, hbuild⟩ hcannot
  have hkept : x.registry.CanBuild x.front t → ∀ e, (x.createTable t).1 ≠ .error (.sql e) := by
    intro hcan e he
    rcases createTable_of_canBuild hx hcan with hok | ⟨_, -, herror⟩
    · rw [hok] at he
      cases he
    · rw [herror] at he
      cases he
  constructor
  case escapes_iff =>
    constructor
    · rintro ⟨e, he⟩ hcan
      exact hkept hcan e he
    · intro hcannot
      obtain ⟨e, he⟩ := hrefused hcannot
      exact ⟨e, (createTable_of_refused he).1⟩
  case escaped =>
    intro e he
    obtain ⟨e', he'⟩ := hrefused fun hcan => hkept hcan e he
    obtain ⟨hanswer, hbackend⟩ := createTable_of_refused he'
    rw [hanswer] at he
    obtain rfl : e' = e := Failure.sql.inj (Except.error.inj he)
    exact ⟨he', hbackend⟩
  case reported =>
    intro hcan
    rcases createTable_of_canBuild hx hcan with hok | ⟨e, hends, herror⟩
    · exact Or.inl hok
    · exact Or.inr ⟨_, e, herror, rfl, hends⟩

/-! ### Comments and posts with numbers -/

def interruptedExecutor : Executor where
  front := "app_"
  backend :=
    { faults := [some (.sql (.disconnected "gone")), some (.sql (.other "DataError" false "no"))] }

theorem comments_reported : interruptedExecutor.backend.FailsInSql ∧
    interruptedExecutor.Surfaces commentTable ∧
    (interruptedExecutor.createTable commentTable).1 =
      .error (.database (.table "app_comment" "DataError")) := by
  have hfails : interruptedExecutor.backend.FailsInSql := by
    intro f hf
    simp [interruptedExecutor] at hf
    rcases hf with rfl | rfl
    · exact ⟨_, rfl⟩
    · exact ⟨_, rfl⟩
  refine ⟨hfails, createTable_surfaces hfails commentTable, ?_⟩
  decide +kernel

/-- The table of a schema that is refused for its second `id`, and no report says so. -/
theorem numbered_posts_escape :
    compileSchema numberedPosts defaultTemplate none = .ok ⟨[numberedPostsTable], []⟩ ∧
      ({ front := "" } : Executor).backend.FailsInSql ∧
      (({ front := "" } : Executor).createTable numberedPostsTable).1 =
        .error (.sql (.duplicateColumn "post" "id")) ∧
      ¬ ((({ front := "" } : Executor).createTable numberedPostsTable).1 = .ok () ∨
        ∃ d, (({ front := "" } : Executor).createTable numberedPostsTable).1 =
          .error (.database d)) := by
  have hcompile : compileSchema numberedPosts defaultTemplate none =
      .ok ⟨[numberedPostsTable], []⟩ := by decide +kernel
  have hfails : ({ front := "" } : Executor).backend.FailsInSql := by
    intro f hf
    cases hf
  have hescapes : (({ front := "" } : Executor).createTable numberedPostsTable).1 =
      .error (.sql (.duplicateColumn "post" "id")) := by decide +kernel
  refine ⟨hcompile, hfails, hescapes, ?_⟩
  rw [hescapes]
  rintro (hok | ⟨d, hd⟩)
  · cases hok
  · cases hd

end Executor

end RelationalModels.Sql
