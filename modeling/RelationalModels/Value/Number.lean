import RelationalModels.Value

/-!
# Values as numbers and truth values

Where a value of any kind may stand, a truth value counts as a number, and every value counts as
true or false.
-/

namespace RelationalModels.Value

def toInt? : Value → Option Int
  | .bool b => some (if b then 1 else 0)
  | .int n => some n
  | .float x => x.toInt?
  | _ => none

def isZero (v : Value) : Bool := v.toInt? == some 0

def isOne (v : Value) : Bool := v.toInt? == some 1

def isNumber : Value → Bool
  | .bool _ => true
  | .int _ => true
  | .float _ => true
  | _ => false

/-- Whether a value counts as true: it is no null or zero, and not empty. -/
def isTruthy : Value → Bool
  | .null => false
  | .text s => !s.isEmpty
  | .list items => !items.isEmpty
  | .map entries => !entries.isEmpty
  | v => !v.isZero

end RelationalModels.Value
