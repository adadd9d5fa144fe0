import RelationalModels.Decimal.Shortest
import RelationalModels.Text.Shown
import RelationalModels.Value

/-!
# Values as messages show them

A message shows a text between quotes, a list between square brackets and a mapping between curly
ones, so that the kind of a value can be told from its looks.
-/

namespace RelationalModels.Value

mutual

def shown : Value → String
  | .null => "None"
  | .bool true => "True"
  | .bool false => "False"
  | .int n => toString n
  | .float x => x.text
  | .text s => Text.shown s
  | .list items => "[" ++ ", ".intercalate (shownItems items) ++ "]"
  | .map entries => "\x7b" ++ ", ".intercalate (shownEntries entries) ++ "\x7d"

def shownItems : List Value → List String
  | [] => []
  | v :: vs => shown v :: shownItems vs

def shownEntries : List (String × Value) → List String
  | [] => []
  | (name, v) :: rest => (Text.shown name ++ ": " ++ shown v) :: shownEntries rest

end

end RelationalModels.Value
