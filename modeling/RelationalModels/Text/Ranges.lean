/-!
# Tables of code points

Character classes and case maps are given as lists of ranges. `Ranges.mem` decides a class and
`Run.apply?` evaluates one line of a case map.
-/

namespace RelationalModels.Text

abbrev Ranges := List (Nat × Nat)

def Ranges.mem (ranges : Ranges) (n : Nat) : Bool :=
  ranges.any fun r => decide (r.1 ≤ n) && decide (n ≤ r.2)

/-- Every `stride`-th code point from `first` to `last`, mapped by adding `shift`. -/
structure Run where
  first : Nat
  last : Nat
  stride : Nat
  shift : Int

def Run.apply? (r : Run) (n : Nat) : Option Nat :=
  if r.first ≤ n ∧ n ≤ r.last ∧ (n - r.first) % r.stride = 0 then
    some ((n : Int) + r.shift).toNat
  else none

def applyRuns? (runs : List Run) (n : Nat) : Option Nat := runs.findSome? fun r => r.apply? n

end RelationalModels.Text
