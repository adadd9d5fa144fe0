import RelationalModels.Decimal.Shortest
import RelationalModels.Json.Reader
import RelationalModels.Model.FieldType
import RelationalModels.Service.Service
import RelationalModels.Value.Shown

/-!
# Settings

What can be set from outside: by a caller, or by environment variables. Names are matched in any
case. A caller's members win over the environment, and a mapping given by both is united entry by
entry. `Settings.load` unites the two and checks every member.
-/

namespace RelationalModels

structure Settings where
  databaseUrl : String
  poolSize : Int
  poolOverflow : Int
  poolPrePing : Bool
  tableFront : String
  collation : String
  template : OrderedMap Value
  joinDepth : Int
  logLevel : String
  retryAttempts : Int
  retryMinWait : Int
  retryMaxWait : Int
  deriving DecidableEq

def Settings.builtIn : Settings where
  databaseUrl := "sqlite+aiosqlite:///./modelschema.db"
  poolSize := 5
  poolOverflow := 10
  poolPrePing := true
  tableFront := ""
  collation := "utf8_general_ci"
  template := defaultTemplate
  joinDepth := defaultJoinDepth
  logLevel := "INFO"
  retryAttempts := 3
  retryMinWait := 1
  retryMaxWait := 10

instance : Inhabited Settings := ⟨Settings.builtIn⟩

inductive SettingsError where
  | unreadable (name : String)
  | tooDeep (nesting : Json.Nesting)
  | incomparableType (kind : String)
  | invalid (issues : List Issue)
  deriving DecidableEq

def SettingsError.message : SettingsError → String
  | unreadable name =>
    "error parsing value for field \"" ++ name ++ "\" from source \"EnvSettingsSource\""
  | tooDeep nesting => nesting.message
  | incomparableType kind => "unhashable type: '" ++ kind ++ "'"
  | invalid issues => toString issues.length ++ " validation error(s)"

namespace Settings

/-! ### Checks -/

def bracketed (texts : List String) : String :=
  "[" ++ ", ".intercalate (texts.map fun s => "'" ++ s ++ "'") ++ "]"

def sortedTypeTokens : List String :=
  (FieldType.all.map FieldType.token).mergeSort fun a b => decide (a ≤ b)

def plainText : Value → String
  | .text s => s
  | v => v.shown

/-- A template may leave its type open, but a declared one has to exist. -/
def templateCheck : Check (OrderedMap Value) := fun v =>
  (Check.mapping v).refine fun template =>
    let refused (declared : Value) : Validated (OrderedMap Value) :=
      .fail (.refused ("Invalid default field type '" ++ plainText declared ++
        "'. Must be one of: " ++ bracketed sortedTypeTokens))
    match template.get? "type" with
    | none => .valid template
    | some .null => .valid template
    | some (.text token) =>
      if (FieldType.ofToken? token).isSome then .valid template else refused (.text token)
    | some declared => refused declared

def levelNames : List String := ["DEBUG", "INFO", "WARNING", "ERROR", "CRITICAL"]

def levelCheck : Check String := fun v =>
  (Check.text v).refine fun s =>
    let name := String.ofList (s.toList.flatMap Text.upperToAscii)
    if name ∈ levelNames then .valid name
    else
      .fail (.refused ("Invalid log_level '" ++ s ++ "'. Must be one of: " ++ bracketed levelNames))

def ofMap (m : OrderedMap Value) : Validated Settings :=
  Settings.mk <$> m.optional "database_url" Check.text builtIn.databaseUrl
    <*> m.optional "db_pool_size" (Check.between 1 100) builtIn.poolSize
    <*> m.optional "db_max_overflow" (Check.between 0 50) builtIn.poolOverflow
    <*> m.optional "db_pool_pre_ping" Check.boolean builtIn.poolPrePing
    <*> m.optional "table_prefix" Check.text builtIn.tableFront
    <*> m.optional "default_collation" Check.text builtIn.collation
    <*> m.optional "field_defaults" templateCheck builtIn.template
    <*> m.optional "max_join_depth" (Check.between 0 4) builtIn.joinDepth
    <*> m.optional "log_level" levelCheck builtIn.logLevel
    <*> m.optional "retry_max_attempts" (Check.between 1 10) builtIn.retryAttempts
    <*> m.optional "retry_min_wait" (Check.between 0 30) builtIn.retryMinWait
    <*> m.optional "retry_max_wait" (Check.between 1 120) builtIn.retryMaxWait

def entries (s : Settings) : List (String × Value) :=
  [("database_url", .text s.databaseUrl), ("db_pool_size", .int s.poolSize),
   ("db_max_overflow", .int s.poolOverflow), ("db_pool_pre_ping", .bool s.poolPrePing),
   ("table_prefix", .text s.tableFront), ("default_collation", .text s.collation),
   ("field_defaults", .map s.template.entries), ("max_join_depth", .int s.joinDepth),
   ("log_level", .text s.logLevel), ("retry_max_attempts", .int s.retryAttempts),
   ("retry_min_wait", .int s.retryMinWait), ("retry_max_wait", .int s.retryMaxWait)]

def names : List String := builtIn.entries.map Prod.fst

/-! ### Sources -/

mutual

/-- One value over another: mappings are united, anything else replaces what lies under it. -/
def layOver : Value → Value → Value
  | .map upper, .map lower => .map (layEntriesOver upper (OrderedMap.ofList lower)).entries
  | upper, _ => upper

def layEntriesOver : List (String × Value) → OrderedMap Value → OrderedMap Value
  | [], lower => lower
  | (name, v) :: rest, lower =>
    let united :=
      match lower.get? name with
      | some w => layOver v w
      | none => v
    layEntriesOver rest (lower.insert name united)

end

def variableStart : String := "MODELSCHEMA_"

def variableText? (environment : List (String × String)) (name : String) : Option String :=
  environment.reverse.findSome? fun e =>
    if Text.eqIgnoringAsciiCase e.1 (variableStart ++ name) then some e.2 else none

/--
The entry that the environment gives for a member. The template is written as JSON, where a null
counts as not given; any other member is the text itself.
-/
def entryOf (environment : List (String × String)) (name : String) :
    Except SettingsError (List (String × Value)) :=
  match variableText? environment name with
  | none => .ok []
  | some s =>
    if name = "field_defaults" then
      match Json.read s with
      | .error (.tooDeep nesting) => .error (.tooDeep nesting)
      | .error _ => .error (.unreadable name)
      | .ok .null => .ok []
      | .ok v => .ok [(name, v)]
    else .ok [(name, .text s)]

def entriesOf (environment : List (String × String)) :
    List String → Except SettingsError (List (String × Value))
  | [] => .ok []
  | name :: rest =>
    match entryOf environment name with
    | .error e => .error e
    | .ok first =>
      match entriesOf environment rest with
      | .error e => .error e
      | .ok others => .ok (first ++ others)

def incomparableType? (m : OrderedMap Value) : Option String :=
  match m.get? "field_defaults" with
  | some (.map template) =>
    match (OrderedMap.ofList template).get? "type" with
    | some (.list items) => some (Value.kindName (.list items))
    | some (.map entries) => some (Value.kindName (.map entries))
    | _ => none
  | _ => none

/-- What a caller gives for the members: the names may be in any case, and the first one counts. -/
def givenEntries (given : OrderedMap Value) : List (String × Value) :=
  names.filterMap fun name =>
    (given.entries.find? fun e => Text.eqIgnoringAsciiCase e.1 name).map fun e => (name, e.2)

def load (given : OrderedMap Value) (environment : List (String × String)) :
    Except SettingsError Settings :=
  match entriesOf environment names with
  | .error e => .error e
  | .ok entries =>
    -- what the caller gives wins over the environment, member by member also in the template
    let members := layEntriesOver (givenEntries given) (OrderedMap.ofList entries)
    match incomparableType? members with
    | some kind => .error (.incomparableType kind)
    | none =>
      match ofMap members with
      | .valid s => .ok s
      | .invalid issues => .error (.invalid issues)

/-! ### The part that the service reads -/

def forService (s : Settings) : ServiceSettings := ⟨s.template, some s.collation, s.joinDepth⟩

end Settings

end RelationalModels
