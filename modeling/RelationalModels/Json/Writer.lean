import RelationalModels.Decimal.Shortest
import RelationalModels.Json.StringBody
import RelationalModels.Value

/-!
# Writing JSON

`write` gives the JSON text of a value, without white space between its tokens.
-/

namespace RelationalModels.Json

def commaSeparated : List String → String := String.intercalate ","

mutual

def write : Value → String
  | .null => "null"
  | .bool b => if b then "true" else "false"
  | .int n => toString n
  | .float x => x.text
  | .text s => quote s
  | .list items => "[" ++ commaSeparated (writeItems items) ++ "]"
  | .map entries => "\x7b" ++ commaSeparated (writeMembers entries) ++ "\x7d"

def writeItems : List Value → List String
  | [] => []
  | v :: vs => write v :: writeItems vs

def writeMembers : List (String × Value) → List String
  | [] => []
  | (name, v) :: rest => (quote name ++ ":" ++ write v) :: writeMembers rest

end

end RelationalModels.Json
