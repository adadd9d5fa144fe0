import RelationalModels.Query.Resolve
import RelationalModels.Schema.Compile
import RelationalModels.Service.Failure

/-!
# The service

The service compiles models and resolves queries under its configuration, and hands tables and
plans to a collaborator. What the configuration leaves open is taken from the settings at the time
of each call. Nothing is handed over before everything is compiled or resolved, and the first
failure ends a call.
-/

namespace RelationalModels

structure ServiceSettings where
  template : OrderedMap Value := defaultTemplate
  collation : Option String := some "utf8_general_ci"
  joinDepth : Int := defaultJoinDepth
  deriving DecidableEq, Inhabited

/-- What a service was configured with; what is `none` is left to the settings. -/
structure Service where
  template : Option (OrderedMap Value) := none
  collation : Option String := none
  joinDepth : Option Int := none
  deriving DecidableEq, Inhabited

structure Collaborator (σ : Type) where
  createTable : Table → σ → Except Failure Unit × σ
  fetch : QueryPlan → σ → Except Failure (List Value) × σ

def Collaborator.createTables {σ : Type} (c : Collaborator σ) :
    List Table → σ → Except ServiceError Unit × σ
  | [], state => (.ok (), state)
  | t :: rest, state =>
    match c.createTable t state with
    | (.error f, after) => (.error (f.report (DatabaseError.table t.name)), after)
    | (.ok (), after) => c.createTables rest after

namespace Service

variable {σ : Type}

def currentTemplate (s : Service) (settings : ServiceSettings) : OrderedMap Value :=
  s.template.getD settings.template

/-- The collation of tables that declare none; an empty one counts as left open. -/
def currentCollation (s : Service) (settings : ServiceSettings) : Option String :=
  (nonemptyName s.collation).orElse fun _ => settings.collation

def currentDepth (s : Service) (settings : ServiceSettings) : Int :=
  s.joinDepth.getD settings.joinDepth

def compile (s : Service) (settings : ServiceSettings) (sources : OrderedMap ModelSource) :
    Except ServiceError Schema :=
  match compileSchema sources (s.currentTemplate settings) (s.currentCollation settings) with
  | .error e => .error (.model e)
  | .ok schema => .ok schema

def resolve (s : Service) (settings : ServiceSettings) (sources : OrderedMap ModelSource)
    (model : String) (options : QueryOptions) : Except ServiceError QueryPlan :=
  match resolveQuery sources model options (s.currentTemplate settings)
      (s.currentDepth settings) with
  | .error (.model e) => .error (.model e)
  | .error (.negativeDepth d) => .error (.negativeDepth d)
  | .ok plan => .ok plan

def createSchema (s : Service) (settings : ServiceSettings) (c : Collaborator σ)
    (sources : OrderedMap ModelSource) (state : σ) : Except ServiceError Schema × σ :=
  match s.compile settings sources with
  | .error e => (.error e, state)
  | .ok schema =>
    match c.createTables schema.allTables state with
    | (.error e, after) => (.error e, after)
    | (.ok (), after) => (.ok schema, after)

def get (s : Service) (settings : ServiceSettings) (c : Collaborator σ)
    (sources : OrderedMap ModelSource) (model : String) (options : QueryOptions) (state : σ) :
    Except ServiceError (List Value) × σ :=
  match s.resolve settings sources model options with
  | .error e => (.error e, state)
  | .ok plan =>
    match c.fetch plan state with
    | (.error f, after) => (.error (f.report (DatabaseError.model model)), after)
    | (.ok rows, after) => (.ok rows, after)

end Service

end RelationalModels
