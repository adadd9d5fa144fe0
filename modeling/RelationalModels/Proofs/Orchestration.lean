import RelationalModels.Service.Service

/-!
# Calls to a collaborator

A collaborator may fail at any call and in any way. It is watched through a log of all calls to it,
which changes nothing about what it does. `service_orchestrates` states what a service asks of an
arbitrary collaborator and what it answers: nothing is asked before models compile or a query
resolves, tables are created in their order until one fails, a plan is run once, and of a failure
the caller hears the library's own error or a report of the cause.
-/

namespace RelationalModels

variable {σ : Type}

/-! ### Failures as callers hear of them -/

def Failure.own? : Failure → Option ServiceError
  | .database e => some (.database e)
  | .model e => some (.model e)
  | .library e => some (.library e)
  | _ => none

/--
What a caller hears of a failure: an error of the library's own is passed on as it is, any other one
becomes a report whose particulars are what it is about and the name of its kind.
-/
structure HeardAs (f : Failure) (role subject : String) (e : ServiceError) : Prop where
  own : ∀ o, f.own? = some o → e = o
  other : f.own? = none → ∃ d, e = .database d ∧
    d.context = [(role, .text subject), ("original_error", .text f.name)]

theorem Failure.report_of_own {f : Failure} {o : ServiceError} (h : f.own? = some o)
    (wrap : String → DatabaseError) : f.report wrap = o := by
  cases f <;> simp_all [own?, report]

theorem Failure.report_of_other {f : Failure} (h : f.own? = none) (wrap : String → DatabaseError) :
    f.report wrap = .database (wrap f.name) := by
  cases f <;> simp_all [own?, report]

theorem Failure.heardAs {wrap : String → DatabaseError} {role subject : String}
    (hwrap : ∀ cause,
      (wrap cause).context = [(role, .text subject), ("original_error", .text cause)])
    (f : Failure) : HeardAs f role subject (f.report wrap) where
  own _ ho := f.report_of_own ho wrap
  other hnone := ⟨wrap f.name, f.report_of_other hnone wrap, hwrap f.name⟩

/-! ### Logs -/

inductive Call where
  | createTable (t : Table)
  | fetch (plan : QueryPlan)
  deriving DecidableEq

def Call.table? : Call → Option Table
  | createTable t => some t
  | fetch _ => none

namespace Collaborator

def logged (c : Collaborator σ) : Collaborator (σ × List Call) where
  createTable t s :=
    let (result, after) := c.createTable t s.1
    (result, after, s.2 ++ [.createTable t])
  fetch plan s :=
    let (result, after) := c.fetch plan s.1
    (result, after, s.2 ++ [.fetch plan])

theorem logged_createTable {c : Collaborator σ} {t : Table} {state after : σ}
    {result : Except Failure Unit} (h : c.createTable t state = (result, after))
    (log : List Call) :
    c.logged.createTable t (state, log) = (result, after, log ++ [.createTable t]) := by
  simp only [logged, h]

theorem logged_fetch {c : Collaborator σ} {plan : QueryPlan} {state after : σ}
    {result : Except Failure (List Value)} (h : c.fetch plan state = (result, after))
    (log : List Call) :
    c.logged.fetch plan (state, log) = (result, after, log ++ [.fetch plan]) := by
  simp only [logged, h]

inductive Creates (c : Collaborator σ) : List Table → σ → σ → Prop
  | nil (state : σ) : Creates c [] state state
  | cons {t : Table} {ts : List Table} {state mid after : σ}
      (hfirst : c.createTable t state = (.ok (), mid)) (hrest : Creates c ts mid after) :
      Creates c (t :: ts) state after

inductive CreationEnd (c : Collaborator σ) (ts : List Table) (state : σ) :
    Except ServiceError Unit → σ → List Call → Prop
  | completed {after : σ} (hall : c.Creates ts state after) :
      CreationEnd c ts state (.ok ()) after (ts.map .createTable)
  | stopped {before rest : List Table} {t : Table} {mid after : σ} {f : Failure}
      {e : ServiceError} (hsplit : ts = before ++ t :: rest) (hbefore : c.Creates before state mid)
      (hfails : c.createTable t mid = (.error f, after)) (heard : HeardAs f "table" t.name e) :
      CreationEnd c ts state (.error e) after ((before ++ [t]).map .createTable)

theorem CreationEnd.cons {c : Collaborator σ} {t : Table} {ts : List Table} {state mid after : σ}
    {result : Except ServiceError Unit} {calls : List Call}
    (hfirst : c.createTable t state = (.ok (), mid))
    (h : CreationEnd c ts mid result after calls) :
    CreationEnd c (t :: ts) state result after (.createTable t :: calls) := by
  cases h with
  | completed hall => exact .completed (.cons hfirst hall)
  | @stopped before rest u later _ f e hsplit hbefore hfails heard =>
    have hmore : t :: ts = (t :: before) ++ u :: rest := by rw [hsplit, List.cons_append]
    exact .stopped hmore (.cons hfirst hbefore) hfails heard

theorem createTables_end (c : Collaborator σ) (ts : List Table) (state : σ) (log : List Call) :
    ∃ result after calls, CreationEnd c ts state result after calls ∧
      c.createTables ts state = (result, after) ∧
      c.logged.createTables ts (state, log) = (result, after, log ++ calls) := by
  induction ts generalizing state log with
  | nil => exact ⟨.ok (), state, [], .completed (.nil state), rfl, by simp [createTables]⟩
  | cons t ts ih =>
    rcases hfirst : c.createTable t state with ⟨failure | done, mid⟩
    · -- the first table fails, and no other one is asked for
      have heard : HeardAs failure "table" t.name (failure.report (DatabaseError.table t.name)) :=
        failure.heardAs fun _ => rfl
      have hsplit : t :: ts = [] ++ t :: ts := rfl
      have hend : CreationEnd c (t :: ts) state _ mid [.createTable t] :=
        .stopped hsplit (.nil state) hfirst heard
      refine ⟨_, mid, _, hend, ?_, ?_⟩
      · simp only [createTables, hfirst]
      · simp only [createTables, logged_createTable hfirst log]
    · obtain ⟨result, after, calls, hend, hplain, hlogged⟩ := ih mid (log ++ [.createTable t])
      refine ⟨result, after, .createTable t :: calls, hend.cons hfirst, ?_, ?_⟩
      · simp only [createTables, hfirst, hplain]
      · simp only [createTables, logged_createTable hfirst log, hlogged, List.append_assoc,
          List.singleton_append]

theorem CreationEnd.tables_prefix {c : Collaborator σ} {ts : List Table} {state after : σ}
    {result : Except ServiceError Unit} {calls : List Call}
    (h : CreationEnd c ts state result after calls) :
    calls.filterMap Call.table? <+: ts ∧ (result = .ok () → calls.filterMap Call.table? = ts) := by
  have htables : ∀ us : List Table, (us.map Call.createTable).filterMap Call.table? = us := by
    intro us
    rw [List.filterMap_map]
    exact List.filterMap_some
  cases h with
  | completed _ =>
    rw [htables]
    exact ⟨List.prefix_refl ts, fun _ => rfl⟩
  | @stopped before rest t _ _ _ _ hsplit _ _ _ =>
    rw [htables, hsplit]
    exact ⟨⟨rest, by simp⟩, nofun⟩

end Collaborator

/-! ### Services -/

def Service.handedOver (s : Service) (settings : ServiceSettings) (c : Collaborator σ)
    (sources : OrderedMap ModelSource) (state : σ) : List Table :=
  (s.createSchema settings c.logged sources (state, [])).2.2.filterMap Call.table?

inductive RunEnd (c : Collaborator σ) (plan : QueryPlan) (model : String) (state : σ) :
    Except ServiceError (List Value) → σ → List Call → Prop
  | read {rows : List Value} {after : σ} (hrows : c.fetch plan state = (.ok rows, after)) :
      RunEnd c plan model state (.ok rows) after [.fetch plan]
  | failed {f : Failure} {after : σ} {e : ServiceError}
      (hfails : c.fetch plan state = (.error f, after)) (heard : HeardAs f "model" model e) :
      RunEnd c plan model state (.error e) after [.fetch plan]

section Orchestration

variable {s : Service} {settings : ServiceSettings} {sources : OrderedMap ModelSource}

theorem Service.createSchema_refused {e : ServiceError} (h : s.compile settings sources = .error e)
    (c : Collaborator σ) (state : σ) :
    s.createSchema settings c sources state = (.error e, state) := by
  simp only [createSchema, h]

theorem Service.createSchema_compiled {schema : Schema}
    (h : s.compile settings sources = .ok schema) {c : Collaborator σ} {state after : σ}
    {result : Except ServiceError Unit}
    (hrun : c.createTables schema.allTables state = (result, after)) :
    s.createSchema settings c sources state = (result.map fun _ => schema, after) := by
  cases result <;> simp only [createSchema, h, hrun, Except.map]

theorem Service.handedOver_prefix {schema : Schema} (h : s.compile settings sources = .ok schema)
    (c : Collaborator σ) (state : σ) :
    s.handedOver settings c sources state <+: schema.allTables ∧
      ((s.createSchema settings c sources state).1 = .ok schema →
        s.handedOver settings c sources state = schema.allTables) := by
  obtain ⟨result, after, calls, hend, hplain, hlogged⟩ :=
    c.createTables_end schema.allTables state []
  obtain ⟨hgiven, hall⟩ := hend.tables_prefix
  rw [handedOver, createSchema_compiled h hlogged, createSchema_compiled h hplain]
  refine ⟨hgiven, fun hok => hall ?_⟩
  cases result with
  | ok done => rfl
  | error e => cases hok

theorem Service.get_refused {model : String} {options : QueryOptions} {e : ServiceError}
    (h : s.resolve settings sources model options = .error e) (c : Collaborator σ) (state : σ) :
    s.get settings c sources model options state = (.error e, state) := by
  simp only [get, h]

theorem Service.get_resolved {model : String} {options : QueryOptions} {plan : QueryPlan}
    (h : s.resolve settings sources model options = .ok plan) (c : Collaborator σ) (state : σ) :
    ∃ result after, RunEnd c plan model state result after [.fetch plan] ∧
      s.get settings c sources model options state = (result, after) ∧
      s.get settings c.logged sources model options (state, []) =
        (result, after, [.fetch plan]) := by
  rcases hfetch : c.fetch plan state with ⟨failure | rows, after⟩
  · have heard : HeardAs failure "model" model (failure.report (DatabaseError.model model)) :=
      failure.heardAs fun _ => rfl
    refine ⟨_, after, .failed hfetch heard, ?_, ?_⟩
    · simp only [get, h, hfetch]
    · simp only [get, h, Collaborator.logged_fetch hfetch, List.nil_append]
  · refine ⟨.ok rows, after, .read hfetch, ?_, ?_⟩
    · simp only [get, h, hfetch]
    · simp only [get, h, Collaborator.logged_fetch hfetch, List.nil_append]

variable (s settings sources) (c : Collaborator σ) (state : σ)

/--
What creating a schema answers and asks of a collaborator: nothing is asked when models do not
compile; otherwise the answer is the schema when all its tables are created, or what is heard of the
first failure.
-/
structure CreatesSchema : Prop where
  unwatched : ∃ calls, s.createSchema settings c.logged sources (state, []) =
    ((s.createSchema settings c sources state).1,
      (s.createSchema settings c sources state).2, calls)
  refused : ∀ e, s.compile settings sources = .error e →
    s.createSchema settings c.logged sources (state, []) = (.error e, state, [])
  compiled : ∀ schema, s.compile settings sources = .ok schema →
    ∃ result after calls, c.CreationEnd schema.allTables state result after calls ∧
      s.createSchema settings c.logged sources (state, []) =
        (result.map fun _ => schema, after, calls)

/--
What reading a model answers and asks of a collaborator: nothing is asked when the query does not
resolve; otherwise its plan is run once, and the answer is the rows or what is heard of the failure.
-/
structure ReadsModel (model : String) (options : QueryOptions) : Prop where
  unwatched : ∃ calls, s.get settings c.logged sources model options (state, []) =
    ((s.get settings c sources model options state).1,
      (s.get settings c sources model options state).2, calls)
  refused : ∀ e, s.resolve settings sources model options = .error e →
    s.get settings c.logged sources model options (state, []) = (.error e, state, [])
  resolved : ∀ plan, s.resolve settings sources model options = .ok plan →
    ∃ result after calls, RunEnd c plan model state result after calls ∧
      s.get settings c.logged sources model options (state, []) = (result, after, calls)

theorem createsSchema : CreatesSchema s settings sources c state where
  unwatched := by
    cases hcompile : s.compile settings sources with
    | error e =>
      refine ⟨[], ?_⟩
      rw [Service.createSchema_refused hcompile, Service.createSchema_refused hcompile]
    | ok schema =>
      obtain ⟨result, after, calls, -, hplain, hlogged⟩ :=
        c.createTables_end schema.allTables state []
      refine ⟨calls, ?_⟩
      rw [Service.createSchema_compiled hcompile hplain,
        Service.createSchema_compiled hcompile hlogged, List.nil_append]
  refused e he := Service.createSchema_refused he c.logged (state, [])
  compiled schema hschema := by
    obtain ⟨result, after, calls, hend, -, hlogged⟩ := c.createTables_end schema.allTables state []
    exact ⟨result, after, calls, hend, Service.createSchema_compiled hschema hlogged⟩

theorem readsModel (model : String) (options : QueryOptions) :
    ReadsModel s settings sources c state model options where
  unwatched := by
    cases hresolve : s.resolve settings sources model options with
    | error e =>
      refine ⟨[], ?_⟩
      rw [Service.get_refused hresolve, Service.get_refused hresolve]
    | ok plan =>
      obtain ⟨result, after, -, hplain, hlogged⟩ := Service.get_resolved hresolve c state
      exact ⟨_, by rw [hplain, hlogged]⟩
  refused e he := Service.get_refused he c.logged (state, [])
  resolved plan hplan := by
    obtain ⟨result, after, hend, -, hlogged⟩ := Service.get_resolved hplan c state
    exact ⟨result, after, _, hend, hlogged⟩

/--
Whatever a collaborator does, a service asks of it and answers for it as described, when it creates
a schema and when it reads a model.
-/
theorem service_orchestrates :
    CreatesSchema s settings sources c state ∧
      ∀ model options, ReadsModel s settings sources c state model options :=
  ⟨createsSchema s settings sources c state, readsModel s settings sources c state⟩

end Orchestration

end RelationalModels
