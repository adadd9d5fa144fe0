import Mathlib.Logic.Function.Iterate
import RelationalModels.Proofs.Surfacing

/-!
# Attempts

An executor tries again while connections are lost, but only so many times in all.
`attempts_until_decided` states which attempt a caller hears of: with a limit of `n` it is attempt
`k`, where `k` is the smaller of `n` and the position of the first outcome that is no transient
failure. Just `k` attempts are made. What attempt `k` returns is returned, an error of the database
layer is reported with its name, and any other failure gets through as it is.
-/

namespace RelationalModels.Sql

section Outcomes

variable {σ α : Type}

/-! ### Outcomes in a row -/

def asksAgain : Except Failure α → Bool
  | .error f => f.isTransient
  | .ok _ => false

/--
The number of attempts out of at most `limit`, when outcomes follow in this order: the smaller of
the limit and the position, counted from one, of the first outcome that is no transient failure.
-/
def attemptsMade (limit : Nat) (outcomes : Nat → Except Failure α) : Nat :=
  min limit (((List.range limit).findIdx fun i => !asksAgain (outcomes i)) + 1)

variable {limit k : Nat} {outcomes : Nat → Except Failure α}

theorem attemptsMade_succ (limit : Nat) (outcomes : Nat → Except Failure α) :
    attemptsMade (limit + 1) outcomes =
      if asksAgain (outcomes 0) = true then attemptsMade limit (fun i => outcomes (i + 1)) + 1
      else 1 := by
  rw [attemptsMade, List.range_succ_eq_map, List.findIdx_cons]
  by_cases h : asksAgain (outcomes 0) = true
  · rw [if_pos h, attemptsMade, List.findIdx_map]
    simp only [h, Bool.not_true, cond_false, Function.comp_def, Nat.succ_eq_add_one]
    omega
  · rw [if_neg h]
    simp [h]

theorem attemptsMade_le (limit : Nat) (outcomes : Nat → Except Failure α) :
    attemptsMade limit outcomes ≤ limit := Nat.min_le_left _ _

theorem attemptsMade_pos (h : 1 ≤ limit) (outcomes : Nat → Except Failure α) :
    1 ≤ attemptsMade limit outcomes :=
  Nat.le_min.mpr ⟨h, Nat.le_add_left 1 _⟩

theorem asksAgain_of_lt {i : Nat} (h : i + 1 < attemptsMade limit outcomes) :
    asksAgain (outcomes i) = true := by
  have hfound : i < (List.range limit).findIdx fun i => !asksAgain (outcomes i) := by
    rw [attemptsMade] at h
    omega
  have hnot := List.not_of_lt_findIdx hfound
  simpa using hnot

theorem last_decides (limit : Nat) (outcomes : Nat → Except Failure α) :
    attemptsMade limit outcomes = limit ∨
      asksAgain (outcomes (attemptsMade limit outcomes - 1)) = false := by
  by_cases h : ((List.range limit).findIdx fun i => !asksAgain (outcomes i)) < limit
  · right
    have hmade : attemptsMade limit outcomes - 1 =
        (List.range limit).findIdx fun i => !asksAgain (outcomes i) := by
      rw [attemptsMade]
      omega
    have hwithin : ((List.range limit).findIdx fun i => !asksAgain (outcomes i)) <
        (List.range limit).length := by
      rw [List.length_range]
      exact h
    have hfound := List.findIdx_getElem (w := hwithin)
    rw [List.getElem_range] at hfound
    rw [hmade]
    simpa using hfound
  · left
    rw [attemptsMade]
    omega

theorem attemptsMade_congr {others : Nat → Except Failure α} (hlimit : 1 ≤ limit)
    (h : ∀ i < attemptsMade limit outcomes, others i = outcomes i) :
    attemptsMade limit others = attemptsMade limit outcomes := by
  have hpos := attemptsMade_pos hlimit outcomes
  have hpos' := attemptsMade_pos hlimit others
  have hle := attemptsMade_le limit outcomes
  have hle' := attemptsMade_le limit others
  rcases Nat.lt_trichotomy (attemptsMade limit others) (attemptsMade limit outcomes) with
    hless | hequal | hmore
  · -- the others do not end earlier, since they fail transiently where the first do
    have hearlier : attemptsMade limit others - 1 + 1 < attemptsMade limit outcomes := by omega
    have hagain := asksAgain_of_lt hearlier
    have hlast := (last_decides limit others).resolve_left (by omega)
    rw [h _ (by omega), hagain] at hlast
    cases hlast
  · exact hequal
  · have hearlier : attemptsMade limit outcomes - 1 + 1 < attemptsMade limit others := by omega
    have hagain := asksAgain_of_lt hearlier
    have hlast := (last_decides limit outcomes).resolve_left (by omega)
    rw [h _ (by omega), hlast] at hagain
    cases hagain

/-! ### Attempts in a row -/

def stateAfter (attempt : σ → Except Failure α × σ) (state : σ) (made : Nat) : σ :=
  (fun s => (attempt s).2)^[made] state

def outcomesFrom (attempt : σ → Except Failure α × σ) (state : σ) (i : Nat) : Except Failure α :=
  (attempt (stateAfter attempt state i)).1

theorem stateAfter_succ (attempt : σ → Except Failure α × σ) (state : σ) (made : Nat) :
    stateAfter attempt state (made + 1) = stateAfter attempt (attempt state).2 made :=
  Function.iterate_succ_apply _ _ _

/-- The loop ends with the last attempt that is made, and with the state after it. -/
theorem retrying_eq (attempt : σ → Except Failure α × σ) (more : Nat) (state : σ) :
    retrying attempt more state =
      (outcomesFrom attempt state (attemptsMade (more + 1) (outcomesFrom attempt state) - 1),
        stateAfter attempt state (attemptsMade (more + 1) (outcomesFrom attempt state))) := by
  induction more generalizing state with
  | zero =>
    have hone : attemptsMade 1 (outcomesFrom attempt state) = 1 :=
      Nat.le_antisymm (attemptsMade_le 1 _) (attemptsMade_pos (Nat.le_refl 1) _)
    rw [hone]
    rfl
  | succ more ih =>
    have hshift : (fun i => outcomesFrom attempt state (i + 1)) =
        outcomesFrom attempt (attempt state).2 := by
      funext i
      rw [outcomesFrom, outcomesFrom, stateAfter_succ]
    have hfirst : outcomesFrom attempt state 0 = (attempt state).1 := rfl
    rw [attemptsMade_succ, hshift, hfirst]
    rcases hattempt : attempt state with ⟨f | a, mid⟩
    · by_cases htransient : f.isTransient = true
      · -- the first attempt does not count, and the others are those from the state after it
        have hpos : 1 ≤ attemptsMade (more + 1) (outcomesFrom attempt mid) :=
          attemptsMade_pos (by omega) _
        have hlast : outcomesFrom attempt state (attemptsMade (more + 1) (outcomesFrom attempt mid)) =
            outcomesFrom attempt mid (attemptsMade (more + 1) (outcomesFrom attempt mid) - 1) := by
          obtain ⟨n, hn⟩ : ∃ n, attemptsMade (more + 1) (outcomesFrom attempt mid) = n + 1 :=
            ⟨_, (Nat.sub_add_cancel hpos).symm⟩
          have hn' := congrFun hshift n
          rw [hattempt] at hn'
          rw [hn]
          exact hn'
        rw [retrying, hattempt]
        simp only [asksAgain, htransient, if_true, Nat.add_sub_cancel]
        rw [ih mid, hlast, stateAfter_succ, hattempt]
      · rw [retrying, hattempt]
        simp only [asksAgain, htransient, Bool.false_eq_true, if_false, Nat.sub_self]
        rw [outcomesFrom, stateAfter_succ]
        simp only [stateAfter, Function.iterate_zero, id_eq, hattempt]
    · rw [retrying, hattempt]
      simp only [asksAgain, Bool.false_eq_true, if_false, Nat.sub_self]
      rw [outcomesFrom, stateAfter_succ]
      simp only [stateAfter, Function.iterate_zero, id_eq, hattempt]

def scripted (outcomes : Nat → Except Failure α) (made : Nat) : Except Failure α × Nat :=
  (outcomes made, made + 1)

theorem retrying_scripted (h : 1 ≤ limit) (outcomes : Nat → Except Failure α) :
    retrying (scripted outcomes) (limit - 1) 0 =
      (outcomes (attemptsMade limit outcomes - 1), attemptsMade limit outcomes) := by
  have hstate : ∀ made, stateAfter (scripted outcomes) 0 made = made := by
    intro made
    induction made with
    | zero => rfl
    | succ made ih =>
      rw [stateAfter] at ih ⊢
      rw [Function.iterate_succ_apply', ih]
      rfl
  have houtcomes : outcomesFrom (scripted outcomes) 0 = outcomes := by
    funext i
    rw [outcomesFrom, hstate]
    rfl
  rw [retrying_eq, Nat.sub_add_cancel h, houtcomes, hstate]

end Outcomes

/-! ### Queries with outcomes in any order -/

namespace Backend

theorem queryOnce_frame (b : Backend) (s : Statement) : ∃ sent, (b.queryOnce s).2 =
    { b with attempts := b.attempts + 1, faults := b.faults.drop 1, sent := sent } := by
  have hconnected := b.connect_frame
  rcases hconnect : b.connect with ⟨_ | f, mid⟩
  · rw [hconnect] at hconnected
    obtain rfl : mid = _ := hconnected
    refine ⟨b.sent ++ [.query s], ?_⟩
    simp only [queryOnce, hconnect]
  · rw [hconnect] at hconnected
    obtain rfl : mid = _ := hconnected
    refine ⟨b.sent, ?_⟩
    simp only [queryOnce, hconnect]

theorem stateAfter_queryOnce (b : Backend) (s : Statement) (made : Nat) :
    (stateAfter (queryOnce s) b made).faults = b.faults.drop made ∧
      (stateAfter (queryOnce s) b made).rows = b.rows := by
  induction made generalizing b with
  | zero => exact ⟨rfl, rfl⟩
  | succ made ih =>
    obtain ⟨sent, hframe⟩ := b.queryOnce_frame s
    obtain ⟨hfaults, hrows⟩ := ih (b.queryOnce s).2
    rw [stateAfter_succ, hfaults, hrows, hframe]
    exact ⟨by rw [List.drop_drop, Nat.add_comm], rfl⟩

theorem outcomesFrom_queryOnce (b : Backend) (s : Statement) (i : Nat) :
    outcomesFrom (queryOnce s) b i =
      match b.faults[i]? with
      | some (some f) => .error f
      | _ => .ok b.rows := by
  obtain ⟨hfaults, hrows⟩ := b.stateAfter_queryOnce s i
  rw [outcomesFrom, queryOnce, connect, hfaults, ← List.head?_drop]
  rcases b.faults.drop i with _ | ⟨_ | f, rest⟩
  · exact congrArg Except.ok hrows
  · exact congrArg Except.ok hrows
  · rfl

end Backend

def Backend.following (limit : Nat) (outcomes : Nat → Except Failure (List Value))
    (rows : List Value) : Backend where
  faults := (List.range limit).map fun i => failure? (outcomes i)
  rows := rows

/-- Every sequence of outcomes is one that attempts to run a query can have. -/
theorem exists_backend {limit : Nat} (hlimit : 1 ≤ limit)
    (outcomes : Nat → Except Failure (List Value)) (s : Statement) :
    ∃ b : Backend, attemptsMade limit (outcomesFrom (Backend.queryOnce s) b) =
        attemptsMade limit outcomes ∧
      ∀ i < attemptsMade limit outcomes, outcomesFrom (Backend.queryOnce s) b i = outcomes i := by
  -- the rows of the last attempt are the only ones that can be asked for
  obtain ⟨rows, hrows⟩ : ∃ rows, ∀ answered,
      outcomes (attemptsMade limit outcomes - 1) = .ok answered → answered = rows := by
    cases outcomes (attemptsMade limit outcomes - 1) with
    | error f => exact ⟨[], fun _ h => nomatch h⟩
    | ok rows => exact ⟨rows, fun _ h => (Except.ok.inj h).symm⟩
  have hagree : ∀ i < attemptsMade limit outcomes,
      outcomesFrom (Backend.queryOnce s) (.following limit outcomes rows) i = outcomes i := by
    intro i hi
    have hfault : (Backend.following limit outcomes rows).faults[i]? =
        some (failure? (outcomes i)) := by
      have hlt : i < limit := Nat.lt_of_lt_of_le hi (attemptsMade_le limit outcomes)
      simp [Backend.following, hlt]
    rw [Backend.outcomesFrom_queryOnce, hfault]
    cases houtcome : outcomes i with
    | error f => rfl
    | ok answered =>
      -- only the last attempt can return something
      have hlast : ¬ i + 1 < attemptsMade limit outcomes := by
        intro hearlier
        have hagain := asksAgain_of_lt hearlier
        rw [houtcome] at hagain
        cases hagain
      have hi' : i = attemptsMade limit outcomes - 1 := by omega
      rw [hi'] at houtcome
      exact congrArg Except.ok (hrows answered houtcome).symm
  exact ⟨_, attemptsMade_congr hlimit hagree, hagree⟩

/-! ### Calls -/

/--
What a call comes to whose attempts have these outcomes and are limited in number. The last attempt
that is made is the one before the counted number of them.
-/
structure Concluded {α : Type} (limit : Nat) (outcomes : Nat → Except Failure α)
    (report : (cause : String) → DatabaseError) (before after : Backend)
    (answer : Except Failure α) : Prop where
  attempts : after.attempts = before.attempts + attemptsMade limit outcomes
  again : ∀ i, i + 1 < attemptsMade limit outcomes →
    ∃ f, outcomes i = .error f ∧ f.isTransient = true
  last : attemptsMade limit outcomes = limit ∨
    ∀ f, outcomes (attemptsMade limit outcomes - 1) = .error f → f.isTransient = false
  returned : ∀ a, outcomes (attemptsMade limit outcomes - 1) = .ok a → answer = .ok a
  reported : ∀ e, outcomes (attemptsMade limit outcomes - 1) = .error (.sql e) →
    answer = .error (.database (report e.name)) ∧
      ("original_error", .text e.name) ∈ (report e.name).context
  passed : ∀ f, outcomes (attemptsMade limit outcomes - 1) = .error f → (∀ e, f ≠ .sql e) →
    answer = .error f

theorem attempts_stateAfter {α : Type} {attempt : Backend → Except Failure α × Backend}
    (h : ∀ b, (attempt b).2.attempts = b.attempts + 1) (b : Backend) (made : Nat) :
    (stateAfter attempt b made).attempts = b.attempts + made := by
  induction made generalizing b with
  | zero => rfl
  | succ made ih =>
    rw [stateAfter_succ, ih, h]
    omega

theorem concluded_retrying {α : Type} {attempt : Backend → Except Failure α × Backend}
    {limit : Nat} {report : (cause : String) → DatabaseError} {answer : Except Failure α}
    {b after : Backend} (hlimit : 1 ≤ limit)
    (hattempt : ∀ b, (attempt b).2.attempts = b.attempts + 1)
    (hreport : ∀ cause, ("original_error", .text cause) ∈ (report cause).context)
    (hanswer : answer = (retrying attempt (limit - 1) b).1.mapError (reportSql report))
    (hafter : after = (retrying attempt (limit - 1) b).2) :
    Concluded limit (outcomesFrom attempt b) report b after answer := by
  rw [retrying_eq, Nat.sub_add_cancel hlimit] at hanswer hafter
  subst hanswer hafter
  constructor
  case attempts => exact attempts_stateAfter hattempt b _
  case again =>
    intro i hi
    have hagain := asksAgain_of_lt hi
    cases houtcome : outcomesFrom attempt b i with
    | error f =>
      rw [houtcome] at hagain
      exact ⟨f, rfl, hagain⟩
    | ok a =>
      rw [houtcome] at hagain
      cases hagain
  case last =>
    refine (last_decides limit (outcomesFrom attempt b)).imp_right ?_
    intro hlast f hf
    rw [hf] at hlast
    exact hlast
  case returned =>
    intro a ha
    rw [ha]
    rfl
  case reported =>
    intro e he
    rw [he]
    exact ⟨rfl, hreport e.name⟩
  case passed =>
    intro f hf hother
    rw [hf]
    cases f with
    | sql e => exact absurd rfl (hother e)
    | _ => rfl

namespace Executor

def queryAttempt (x : Executor) (plan : QueryPlan) :
    Backend → Except Failure (List Value) × Backend :=
  Backend.queryOnce (selectStatement plan x.front)

variable {x : Executor}

theorem createTable_eq {t : Table} (h : x.registry.CanBuild x.front t) :
    (x.createTable t).1 = (retrying (x.attempt t) (x.maxAttempts - 1) x.backend).1.mapError
        (reportSql (DatabaseError.table (x.front ++ t.name))) ∧
      (x.createTable t).2.backend =
        (retrying (x.attempt t) (x.maxAttempts - 1) x.backend).2 := by
  rw [createTable, Registry.build_of_canBuild h, attempt]
  dsimp only
  rcases retrying (Backend.createOnce (SqlTable.assemble x.front t)
    (x.registry.build x.front t).1) (x.maxAttempts - 1) x.backend with ⟨f | done, after⟩
  · exact ⟨rfl, rfl⟩
  · exact ⟨rfl, rfl⟩

theorem fetch_eq (x : Executor) (plan : QueryPlan) :
    (x.fetch plan).1 = (retrying (x.queryAttempt plan) (x.maxAttempts - 1) x.backend).1.mapError
        (reportSql (DatabaseError.model plan.model)) ∧
      (x.fetch plan).2.backend =
        (retrying (x.queryAttempt plan) (x.maxAttempts - 1) x.backend).2 := by
  rw [fetch, queryAttempt]
  rcases retrying (Backend.queryOnce (selectStatement plan x.front)) (x.maxAttempts - 1)
    x.backend with ⟨f | rows, after⟩
  · exact ⟨rfl, rfl⟩
  · exact ⟨rfl, rfl⟩

theorem concluded_createTable {t : Table} (hlimit : 1 ≤ x.maxAttempts)
    (h : x.registry.CanBuild x.front t) :
    Concluded x.maxAttempts (outcomesFrom (x.attempt t) x.backend)
      (DatabaseError.table (x.front ++ t.name)) x.backend (x.createTable t).2.backend
      (x.createTable t).1 := by
  obtain ⟨hanswer, hafter⟩ := createTable_eq h
  refine concluded_retrying hlimit ?_ (fun _ => by simp [DatabaseError.context]) hanswer hafter
  intro b
  obtain ⟨_, _, hframe⟩ := b.createOnce_frame (SqlTable.assemble x.front t)
    (x.registry.build x.front t).1
  rw [attempt, hframe]

theorem concluded_fetch (hlimit : 1 ≤ x.maxAttempts) (plan : QueryPlan) :
    Concluded x.maxAttempts (outcomesFrom (x.queryAttempt plan) x.backend)
      (DatabaseError.model plan.model) x.backend (x.fetch plan).2.backend (x.fetch plan).1 := by
  obtain ⟨hanswer, hafter⟩ := x.fetch_eq plan
  refine concluded_retrying hlimit ?_ (fun _ => by simp [DatabaseError.context]) hanswer hafter
  intro b
  obtain ⟨_, hframe⟩ := b.queryOnce_frame (selectStatement plan x.front)
  rw [queryAttempt, hframe]

end Executor

/--
With a limit of at least one attempt, outcomes in any order end with that of attempt `k`, after just
`k` attempts, where `k` is the smaller of the limit and the position of the first outcome that is no
transient failure. So do the attempts of an executor, which returns what attempt `k` returns,
reports an error of the database layer with its name and lets other failures through.
-/
theorem attempts_until_decided {limit : Nat} (hlimit : 1 ≤ limit) :
    (∀ (α : Type) (outcomes : Nat → Except Failure α),
      retrying (scripted outcomes) (limit - 1) 0 =
        (outcomes (attemptsMade limit outcomes - 1), attemptsMade limit outcomes)) ∧
    (∀ x : Executor, x.maxAttempts = limit →
      (∀ t, x.registry.CanBuild x.front t →
        Concluded limit (outcomesFrom (x.attempt t) x.backend)
          (DatabaseError.table (x.front ++ t.name)) x.backend (x.createTable t).2.backend
          (x.createTable t).1) ∧
      ∀ plan, Concluded limit (outcomesFrom (x.queryAttempt plan) x.backend)
        (DatabaseError.model plan.model) x.backend (x.fetch plan).2.backend (x.fetch plan).1) ∧
    ∀ (outcomes : Nat → Except Failure (List Value)) (s : Statement), ∃ b : Backend,
      attemptsMade limit (outcomesFrom (Backend.queryOnce s) b) = attemptsMade limit outcomes ∧
        ∀ i < attemptsMade limit outcomes,
          outcomesFrom (Backend.queryOnce s) b i = outcomes i := by
  refine ⟨fun α outcomes => retrying_scripted hlimit outcomes, ?_,
    fun outcomes s => exists_backend hlimit outcomes s⟩
  rintro x rfl
  exact ⟨fun t ht => Executor.concluded_createTable hlimit ht,
    fun plan => Executor.concluded_fetch hlimit plan⟩

/-! ### Two lost connections -/

def unluckyExecutor : Executor where
  front := "app_"
  backend :=
    { faults :=
        [some (.sql (.disconnected "gone")), some (.sql (.operational true "reset")),
          some (.sql (.integrity "no")), some (.runtime "never reached")] }

theorem unlucky_executor_concludes :
    1 ≤ 3 ∧ unluckyExecutor.maxAttempts = 3 ∧
      unluckyExecutor.registry.CanBuild "app_" commentTable ∧
      attemptsMade 3 (outcomesFrom (unluckyExecutor.attempt commentTable)
        unluckyExecutor.backend) = 3 ∧
      Concluded 3 (outcomesFrom (unluckyExecutor.attempt commentTable) unluckyExecutor.backend)
        (DatabaseError.table "app_comment") unluckyExecutor.backend
        (unluckyExecutor.createTable commentTable).2.backend
        (unluckyExecutor.createTable commentTable).1 ∧
      (unluckyExecutor.createTable commentTable).1 =
        .error (.database (.table "app_comment" "IntegrityError")) := by
  have hcan : unluckyExecutor.registry.CanBuild "app_" commentTable :=
    Registry.canBuild_iff.mp ⟨SqlTable.assemble "app_" commentTable, by decide +kernel⟩
  have hconcluded := ((attempts_until_decided (by decide : 1 ≤ 3)).2.1 unluckyExecutor rfl).1
    commentTable hcan
  exact ⟨by decide, rfl, hcan, by decide +kernel, hconcluded, by decide +kernel⟩

end RelationalModels.Sql
