import RelationalModels.Validation.Issue

/-!
# Validated results

A validation either yields a value or reports every issue it found. Parts are validated
independently and their issues stand in the order of the parts.
-/

namespace RelationalModels

inductive Validated (α : Type) where
  | valid (a : α)
  | invalid (issues : List Issue)
  deriving DecidableEq

namespace Validated

variable {α β : Type}

instance : Inhabited (Validated α) := ⟨invalid []⟩

def map (f : α → β) : Validated α → Validated β
  | valid a => valid (f a)
  | invalid issues => invalid issues

/-- A valid function applied to a valid argument; otherwise the issues of both. -/
def seq (f : Validated (α → β)) (a : Validated α) : Validated β :=
  match f, a with
  | valid f, valid a => valid (f a)
  | valid _, invalid issues => invalid issues
  | invalid issues, valid _ => invalid issues
  | invalid first, invalid second => invalid (first ++ second)

instance : Functor Validated := ⟨map, fun a => map fun _ => a⟩

instance : Seq Validated := ⟨fun f a => seq f (a ())⟩

theorem map_eq_valid_iff {f : α → β} {r : Validated α} {b : β} :
    f <$> r = valid b ↔ ∃ a, r = valid a ∧ f a = b := by
  cases r <;> simp [Functor.map, map]

theorem seq_eq_valid_iff {f : Validated (α → β)} {r : Validated α} {b : β} :
    f <*> r = valid b ↔ ∃ g a, f = valid g ∧ r = valid a ∧ g a = b := by
  cases f <;> cases r <;> simp [Seq.seq, seq]

def fail (flaw : Flaw) : Validated α := invalid [⟨[], flaw⟩]

def under (step : PathStep) : Validated α → Validated α
  | valid a => valid a
  | invalid issues => invalid (issues.map (Issue.under step))

def refine (r : Validated α) (check : α → Validated β) : Validated β :=
  match r with
  | valid a => check a
  | invalid issues => invalid issues

def all : List (Validated α) → Validated (List α)
  | [] => valid []
  | r :: rest => List.cons <$> r <*> all rest

end Validated

end RelationalModels
