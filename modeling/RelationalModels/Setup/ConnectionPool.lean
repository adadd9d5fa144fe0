import RelationalModels.Setup.EngineError

/-!
# Connection pools

A database in memory lives on one connection that all users share; any other has a pool of
connections. `ConnectionPool.ofOptions` makes a pool from the options of an engine, some of which
only one kind of pool takes.
-/

namespace RelationalModels

inductive PoolKind where
  | shared
  | queue
  | asyncQueue
  | perThread
  deriving DecidableEq, Inhabited

namespace PoolKind

def name : PoolKind → String
  | shared => "StaticPool"
  | queue => "QueuePool"
  | asyncQueue => "AsyncAdaptedQueuePool"
  | perThread => "SingletonThreadPool"

def isQueue : PoolKind → Bool
  | queue => true
  | asyncQueue => true
  | _ => false

def options : PoolKind → List String
  | shared => common
  | perThread => "pool_size" :: common
  | _ => ["pool_size", "max_overflow", "pool_timeout", "pool_use_lifo"] ++ common
where
  common : List String :=
    ["pool_recycle", "echo_pool", "pool_logging_name", "pool_reset_on_return", "pool_events",
     "dialect", "pool_pre_ping", "_dispatch"]

end PoolKind

def DatabaseUrl.isInMemory (u : DatabaseUrl) : Bool :=
  match u.database with
  | none => true
  | some name => name.isEmpty || name == ":memory:"

def DatabaseDriver.poolKind (d : DatabaseDriver) (u : DatabaseUrl) : PoolKind :=
  let isFile := !u.isInMemory && u.single? "mode" != some "memory"
  match d with
  | aiosqlite => if isFile then .asyncQueue else .shared
  | pysqlite => if isFile then .queue else .perThread
  | _ => .asyncQueue

structure ConnectionPool where
  kind : PoolKind
  size : Value
  overflow : Value
  prePing : Value
  recycle : Value
  deriving DecidableEq, Inhabited

def checkEcho : Value → Except EngineError Bool
  | .null => .ok false
  | .bool b => .ok b
  | .text "debug" => .ok true
  | .list items => .error (.notLookedUp (Value.kindName (.list items)))
  | .map entries => .error (.notLookedUp (Value.kindName (.map entries)))
  | v =>
    if v.isZero then .ok false
    else if v.isOne then .ok true
    else .error (.unknownEcho v)

def isReset (v : Value) : Bool :=
  [Value.null, .text "rollback", .text "none", .text "commit"].contains v || v.isOne || v.isZero

namespace ConnectionPool

def defaultSize : Value := .int 5

def defaultOverflow : Value := .int 10

/-- The pool that options describe; without a limit on its size there is none on further ones. -/
def ofOptions (kind : PoolKind) (options : OrderedMap Value) :
    Except EngineError ConnectionPool := do
  let option (name : String) (default : Value) : Value := (options.get? name).getD default
  let _ ← checkEcho (option "echo_pool" .null)
  let reset := option "pool_reset_on_return" (.bool true)
  if !isReset reset then throw (.unknownReset reset)
  let size := option "pool_size" defaultSize
  if kind.isQueue && !size.isNumber then throw (.poolSize size.kindName)
  return {
    kind := kind
    size := size
    overflow := if size.isZero then .int (-1) else option "max_overflow" defaultOverflow
    prePing := option "pool_pre_ping" (.bool false)
    recycle := option "pool_recycle" (.int (-1)) }

end ConnectionPool

end RelationalModels
