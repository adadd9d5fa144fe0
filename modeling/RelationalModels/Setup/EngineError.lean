import RelationalModels.Setup.ConnectionParameters
import RelationalModels.Value.Number
import RelationalModels.Value.Shown

/-!
# Errors of engines

Why no engine can be made: the address, the driver or the parameters are at fault, or an option has
a value that its place does not take.
-/

namespace RelationalModels

inductive EngineError where
  | notAddress (v : Value)
  | address (e : UrlError)
  | driver (e : DriverError)
  | missingPackage (name : String)
  | parameter (e : ParameterError)
  | blockingDriver (name : String)
  | twoAddresses
  | serverCursors
  | twoCreators
  | unknownStrategy (v : Value)
  | idleStrategy
  | unknownPlugin (name : String)
  | notIterable (kind : String)
  | notEntry (index : Nat)
  | entryLength (index length : Nat)
  | notLookedUp (kind : String)
  | lacking (kind member : String)
  | poolSize (kind : String)
  | unknownReset (v : Value)
  | unknownEcho (v : Value)
  | notPresent
  | unusedOptions (names : List String) (configuration : String)
  deriving DecidableEq

def EngineError.message : EngineError → String
  | notAddress v => "Expected string or URL object, got " ++ v.shown
  | address e => e.message
  | driver e => e.message
  | missingPackage name => "No module named '" ++ name ++ "'"
  | parameter e => e.message
  | blockingDriver name =>
    "The asyncio extension requires an async driver to be used. The loaded '" ++ name ++
      "' is not async."
  | twoAddresses => "create_async_engine() got multiple values for argument 'url'"
  | serverCursors =>
    "Can't set server_side_cursors for async engine globally; use the connection.stream() " ++
      "method for an async streaming result set"
  | twoCreators => "Can only specify one of 'async_creator' or 'creator', not both."
  | unknownStrategy v => "unknown strategy: " ++ v.shown
  | idleStrategy => "create_mock_engine() missing 1 required positional argument: 'executor'"
  | unknownPlugin name => "Can't load plugin: sqlalchemy.plugins:" ++ name
  | notIterable kind => "'" ++ kind ++ "' object is not iterable"
  | notEntry index =>
    "cannot convert dictionary update sequence element #" ++ toString index ++ " to a sequence"
  | entryLength index length =>
    "dictionary update sequence element #" ++ toString index ++ " has length " ++ toString length ++
      "; 2 is required"
  | notLookedUp kind => "unhashable type: '" ++ kind ++ "'"
  | lacking kind member => "'" ++ kind ++ "' object has no attribute '" ++ member ++ "'"
  | poolSize kind => "unsupported operand type(s) for -: 'int' and '" ++ kind ++ "'"
  | unknownReset v => "Invalid value for 'pool_reset_on_return': " ++ v.shown
  | unknownEcho v => v.shown
  | notPresent => "The 'future' parameter passed to create_engine() may only be set to True."
  | unusedOptions names configuration =>
    "Invalid argument(s) " ++ ",".intercalate (names.map fun name => "'" ++ name ++ "'") ++
      " sent to create_engine(), using configuration " ++ configuration ++
      ".  Please check that the keyword arguments are appropriate for this combination of " ++
      "components."

end RelationalModels
