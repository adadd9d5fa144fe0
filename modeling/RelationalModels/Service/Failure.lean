import RelationalModels.Model.Error
import RelationalModels.Sql.Error

/-!
# Failures

Collaborators create tables and run queries, and may fail in any way. The library reports such a
failure as a `DatabaseError` that remembers the name of its cause; its own errors pass unchanged.
-/

namespace RelationalModels

open RelationalModels.Sql

inductive DatabaseError where
  | table (name cause : String)
  | model (name cause : String)
  | reported (text : String) (details : List (String × Value))
  deriving DecidableEq

namespace DatabaseError

def message : DatabaseError → String
  | table name _ => "Could not create table '" ++ name ++ "'"
  | model name _ => "Could not read model '" ++ name ++ "'"
  | reported text _ => text

def context : DatabaseError → List (String × Value)
  | table name cause => [("table", .text name), ("original_error", .text cause)]
  | model name cause => [("model", .text name), ("original_error", .text cause)]
  | reported _ details => details

end DatabaseError

structure LibraryError where
  kind : String
  text : String
  details : List (String × Value) := []
  deriving DecidableEq

inductive Failure where
  | database (e : DatabaseError)
  | model (e : ModelError)
  | library (e : LibraryError)
  | sql (e : SqlError)
  | unfitValue (text : String)
  | absentKey (key : String)
  | runtime (text : String)
  | foreign (kind text : String)
  deriving DecidableEq

namespace Failure

def name : Failure → String
  | database _ => "DatabaseError"
  | model _ => "ConfigurationError"
  | library e => e.kind
  | sql e => e.name
  | unfitValue _ => "ValueError"
  | absentKey _ => "KeyError"
  | runtime _ => "RuntimeError"
  | foreign kind _ => kind

def message : Failure → String
  | database e => e.message
  | model e => e.message
  | library e => e.text
  | sql e => e.message
  | unfitValue text => text
  | absentKey key => Text.shown key
  | runtime text => text
  | foreign _ text => text

def isTransient : Failure → Bool
  | sql e => e.isTransient
  | _ => false

end Failure

inductive ServiceError where
  | model (e : ModelError)
  | negativeDepth (depth : Int)
  | database (e : DatabaseError)
  | library (e : LibraryError)
  deriving DecidableEq

/-- A failure as the library reports it: under `wrap`, unless it is one of its own errors. -/
def Failure.report (wrap : (cause : String) → DatabaseError) : Failure → ServiceError
  | .database e => .database e
  | .model e => .model e
  | .library e => .library e
  | f => .database (wrap f.name)

end RelationalModels
