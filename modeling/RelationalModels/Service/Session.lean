import RelationalModels.Service.Service

/-!
# Sessions

A session is a sequence of calls to one service, between which settings and template may change.
Every call that needs a collaborator brings one along; what collaborators remember is part of the
session.
-/

namespace RelationalModels

inductive SettingsChange where
  | template (t : OrderedMap Value)
  | collation (c : Option String)
  | joinDepth (d : Int)
  | other
  deriving DecidableEq

def ServiceSettings.apply (s : ServiceSettings) : SettingsChange → ServiceSettings
  | .template t => { s with template := t }
  | .collation c => { s with collation := c }
  | .joinDepth d => { s with joinDepth := d }
  | .other => s

/-- One step of a session. Query options arrive as data and are checked first. -/
inductive SessionStep (σ : Type) where
  | change (c : SettingsChange)
  | writeTemplate (key : String) (value : Value)
  | compile (sources : OrderedMap ModelSource)
  | resolve (sources : OrderedMap ModelSource) (model : String) (options : Value)
  | createSchema (sources : OrderedMap ModelSource) (collaborator : Collaborator σ)
  | get (sources : OrderedMap ModelSource) (model : String) (options : Value)
      (collaborator : Collaborator σ)

inductive Answer where
  | nothing
  | schema (s : Schema)
  | plan (p : QueryPlan)
  | created (names : List String)
  | rows (rows : List Value)
  | invalid (issues : List Issue)
  | failed (e : ServiceError)
  | raw (f : Failure)
  deriving DecidableEq

structure Session (σ : Type) where
  service : Service
  settings : ServiceSettings
  memory : σ

def QueryOptions.ofValue : Value → Validated QueryOptions
  | .null => .valid {}
  | v => QueryOptions.check v

namespace Session

variable {σ : Type}

/-- Writes into the template in use: the one the service was given, or else that of the settings. -/
def writeTemplate (s : Session σ) (key : String) (value : Value) : Session σ :=
  match s.service.template with
  | some t => { s with service := { s.service with template := some (t.insert key value) } }
  | none =>
    let template := s.settings.template.insert key value
    { s with settings := { s.settings with template } }

def step (s : Session σ) : SessionStep σ → Answer × Session σ
  | .change c => (.nothing, { s with settings := s.settings.apply c })
  | .writeTemplate key value => (.nothing, s.writeTemplate key value)
  | .compile sources =>
    match s.service.compile s.settings sources with
    | .error e => (.failed e, s)
    | .ok schema => (.schema schema, s)
  | .resolve sources model options =>
    match QueryOptions.ofValue options with
    | .invalid issues => (.invalid issues, s)
    | .valid o =>
      match s.service.resolve s.settings sources model o with
      | .error e => (.failed e, s)
      | .ok plan => (.plan plan, s)
  | .createSchema sources c =>
    match s.service.createSchema s.settings c sources s.memory with
    | (.error e, m) => (.failed e, { s with memory := m })
    | (.ok schema, m) => (.created (schema.allTables.map Table.name), { s with memory := m })
  | .get sources model options c =>
    match QueryOptions.ofValue options with
    | .invalid issues => (.invalid issues, s)
    | .valid o =>
      match s.service.get s.settings c sources model o s.memory with
      | (.error e, m) => (.failed e, { s with memory := m })
      | (.ok rows, m) => (.rows rows, { s with memory := m })

def run (s : Session σ) : List (SessionStep σ) → List (Answer × Session σ)
  | [] => []
  | a :: rest =>
    let answered := s.step a
    answered :: answered.2.run rest

end Session

end RelationalModels
