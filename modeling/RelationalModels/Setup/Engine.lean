import RelationalModels.Setup.ConnectionPool
import RelationalModels.Setup.Settings

/-!
# Engines

An engine opens the connections to one database, over a pool. The settings say which database it is
and how many connections a server gets, each of which is renewed every hour; a caller may override
each choice. `Engine.build` makes an engine or says why it cannot be made.
-/

namespace RelationalModels

structure EngineSettings where
  address : Value
  poolSize : Value
  poolOverflow : Value
  poolPrePing : Value
  logLevel : Value
  deriving DecidableEq, Inhabited

def Settings.forEngine (s : Settings) : EngineSettings where
  address := .text s.databaseUrl
  poolSize := .int s.poolSize
  poolOverflow := .int s.poolOverflow
  poolPrePing := .bool s.poolPrePing
  logLevel := .text s.logLevel

structure Engine where
  echo : Bool
  isServer : Bool
  pool : ConnectionPool
  deriving DecidableEq, Inhabited

namespace Engine

def recycleAfter : Int := 3600

def chosenOptions (s : EngineSettings) (u : DatabaseUrl) : OrderedMap Value :=
  let echo : Value := .bool (s.logLevel == .text "DEBUG")
  if u.backend = "sqlite" then .ofList [("echo", echo)]
  else
    .ofList
      [("echo", echo), ("pool_size", s.poolSize), ("max_overflow", s.poolOverflow),
       ("pool_pre_ping", s.poolPrePing), ("pool_recycle", .int recycleAfter)]

def ownOptions : List String :=
  ["async_creator", "connect_args", "creator", "echo", "empty_in_strategy", "enable_from_linting",
   "execution_options", "future", "hide_parameters", "logging_name", "module", "plugins", "pool",
   "poolclass", "query_cache_size", "strategy", "_coerce_config", "_initialize", "_is_async"]

def checkManner (options : OrderedMap Value) : Except EngineError Unit := do
  let isOn (name : String) : Bool := ((options.get? name).map Value.isTruthy).getD false
  if isOn "server_side_cursors" then throw .serverCursors
  if isOn "async_creator" && isOn "creator" then throw .twoCreators
  match options.get? "strategy" with
  | none => return
  | some (.text "mock") => throw .idleStrategy
  | some strategy => throw (.unknownStrategy strategy)

def pluginNames : Value → Except EngineError (List String)
  | .list items => .ok (items.map Settings.plainText)
  | .map entries => .ok (entries.map Prod.fst)
  -- a text is taken for the list of its characters
  | .text s => .ok (s.toList.map fun c => String.ofList [c])
  | v => .error (.notIterable v.kindName)

/-- The parameters of an address that name plugins, and would not reach the driver. -/
def pluginParameters : List String := ["plugin", "plugins"]

def checkPlugins (u : DatabaseUrl) (options : OrderedMap Value) : Except EngineError Unit := do
  let further ← pluginNames ((options.get? "plugins").getD (.list []))
  match (u.query.get? "plugin").getD [] ++ further with
  | [] => return
  | name :: _ => throw (.unknownPlugin name)

def checkEntry (index : Nat) : Value → Except EngineError Unit
  | .text s => if s.length = 2 then .ok () else .error (.entryLength index s.length)
  | .map entries =>
    if entries.length = 2 then .ok () else .error (.entryLength index entries.length)
  | .list [.list items, _] => .error (.notLookedUp (Value.kindName (.list items)))
  | .list [.map entries, _] => .error (.notLookedUp (Value.kindName (.map entries)))
  | .list items => if items.length = 2 then .ok () else .error (.entryLength index items.length)
  | _ => .error (.notEntry index)

def checkEntries (index : Nat) : List Value → Except EngineError Unit
  | [] => .ok ()
  | v :: vs => do
    checkEntry index v
    checkEntries (index + 1) vs

def checkPassedOn : Value → Except EngineError Unit
  | .map _ => .ok ()
  | .list items => checkEntries 0 items
  | .text s => checkEntries 0 (s.toList.map fun c => .text (String.ofList [c]))
  | v => .error (.notIterable v.kindName)

/-- The kind of pool: a caller's wish, which can only be the driver's own, or else what fits. -/
def poolKind (d : DatabaseDriver) (u : DatabaseUrl) (options : OrderedMap Value) :
    Except EngineError PoolKind :=
  match options.get? "poolclass" with
  -- a null leaves the choice to the driver, also for a database in memory
  | some .null => .ok (d.poolKind u)
  | some v => .error (.lacking v.kindName "__dict__")
  | none => .ok (if u.backend = "sqlite" && u.isInMemory then .shared else d.poolKind u)

def ofOptions (u : DatabaseUrl) (options : OrderedMap Value) : Except EngineError Engine := do
  checkManner options
  checkPlugins u options
  let driver ← (DatabaseDriver.ofScheme u.scheme).mapError .driver
  if let .uninstalled package := driver then throw (.missingPackage package)
  let u := u.withoutParameters pluginParameters
  (driver.checkParameters u).mapError .parameter
  checkPassedOn ((options.get? "connect_args").getD (.map []))
  let kind ← poolKind driver u options
  let pool ← ConnectionPool.ofOptions kind options
  if let some v := options.get? "future" then
    if !v.isTruthy then throw .notPresent
  let taken := driver.options ++ kind.options ++ ownOptions
  let unused := options.names.filter fun name => !taken.contains name
  if !unused.isEmpty then
    throw (.unusedOptions unused (driver.dialectName ++ "/" ++ kind.name ++ "/Engine"))
  let echo ← checkEcho ((options.get? "echo").getD .null)
  if !driver.isAsync then throw (.blockingDriver driver.name)
  return { echo := echo, isServer := u.backend != "sqlite", pool := pool }

def build (s : EngineSettings) (address : Value) (overrides : OrderedMap Value) :
    Except EngineError Engine :=
  match if address.isTruthy then address else s.address with
  | .text text =>
    match DatabaseUrl.ofText text with
    | .error e => .error (.address e)
    | .ok u =>
      if overrides.contains "url" then .error .twoAddresses
      else ofOptions u ((chosenOptions s u).insertMany overrides.entries)
  | v => .error (.notAddress v)

end Engine

end RelationalModels
