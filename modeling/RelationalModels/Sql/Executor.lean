import RelationalModels.Service.Session
import RelationalModels.Sql.Backend

/-!
# The executor

The collaborator that speaks SQL. It keeps one registry for all tables it builds, tries a statement
again while connections are lost, a limited number of times in all, and reports errors of the
database layer. A table that cannot be built is a failure before any connection is tried.
-/

namespace RelationalModels.Sql

def defaultAttempts : Nat := 3

/--
An attempt repeated while it fails transiently, `more` times at most after the first; the last
outcome counts.
-/
def retrying {σ α : Type} (attempt : σ → Except Failure α × σ) : (more : Nat) → σ →
    Except Failure α × σ
  | 0, state => attempt state
  | more + 1, state =>
    match attempt state with
    | (.error f, after) =>
      if f.isTransient then retrying attempt more after else (.error f, after)
    | done => done

def reportSql (wrap : (cause : String) → DatabaseError) : Failure → Failure
  | .sql e => .database (wrap e.name)
  | f => f

structure Executor where
  front : String
  maxAttempts : Nat := defaultAttempts
  registry : Registry := .empty
  backend : Backend := {}
  deriving DecidableEq, Inhabited

namespace Executor

def createTable (t : Table) (x : Executor) : Except Failure Unit × Executor :=
  match x.registry.build x.front t with
  -- an error of building is passed on as it is; only those of statements are reported
  | (registry, .error e) => (.error (.sql e), { x with registry := registry })
  | (registry, .ok table) =>
    match retrying (Backend.createOnce table registry) (x.maxAttempts - 1) x.backend with
    | (.error f, backend) =>
      (.error (reportSql (DatabaseError.table table.name) f),
        { x with registry := registry, backend := backend })
    | (.ok (), backend) => (.ok (), { x with registry := registry, backend := backend })

def fetch (plan : QueryPlan) (x : Executor) : Except Failure (List Value) × Executor :=
  match retrying (Backend.queryOnce (selectStatement plan x.front)) (x.maxAttempts - 1)
      x.backend with
  | (.error f, backend) =>
    (.error (reportSql (DatabaseError.model plan.model) f), { x with backend := backend })
  | (.ok rows, backend) => (.ok rows, { x with backend := backend })

def collaborator : Collaborator Executor := ⟨createTable, fetch⟩

def prepare (x : Executor) (faults : List (Option Failure)) (rows : List Value) : Executor :=
  { x with backend := { x.backend with faults := faults, rows := rows, attempts := 0, sent := [] } }

def existingTables (x : Executor) : List String :=
  x.backend.tables.mergeSort fun a b => decide (a ≤ b)

end Executor

/--
One call, to the executor itself or to a service that has it for a collaborator. Tables and plans
arrive as data.
-/
inductive ExecutorStep where
  | createTable (table : Value)
  | fetch (plan : Value)
  | service (step : SessionStep Executor)

def Executor.step (s : Session Executor) : ExecutorStep → Answer × Session Executor
  | .createTable v =>
    match Table.check v with
    | .invalid issues => (.invalid issues, s)
    | .valid t =>
      match s.memory.createTable t with
      | (.error f, x) => (.raw f, { s with memory := x })
      | (.ok (), x) => (.nothing, { s with memory := x })
  | .fetch v =>
    match QueryPlan.check v with
    | .invalid issues => (.invalid issues, s)
    | .valid plan =>
      match s.memory.fetch plan with
      | (.error f, x) => (.raw f, { s with memory := x })
      | (.ok rows, x) => (.rows rows, { s with memory := x })
  | .service step => s.step step

end RelationalModels.Sql
