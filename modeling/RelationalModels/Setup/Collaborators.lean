import RelationalModels.Setup.Settings

/-!
# Collaborators on demand

A service that was given no collaborators makes them when they are first needed, both on one engine
that all services share, and keeps them. A collaborator keeps the beginning of table names that the
settings held when it was made. The shared engine is made when it is first needed, and anew after it
has been disposed of.
-/

namespace RelationalModels

/-- The shared engine, when there is one, and the number of engines made so far. -/
structure SharedEngine where
  made : Nat := 0
  current : Option Nat := none
  deriving DecidableEq, Inhabited

namespace SharedEngine

def get (s : SharedEngine) : Nat × SharedEngine :=
  match s.current with
  | some n => (n, s)
  | none => (s.made, ⟨s.made + 1, some s.made⟩)

def dispose (s : SharedEngine) : SharedEngine := { s with current := none }

end SharedEngine

structure MadeCollaborator where
  engine : Nat
  front : String
  deriving DecidableEq, Inhabited

structure Collaborators where
  tables : Option MadeCollaborator := none
  queries : Option MadeCollaborator := none
  shared : SharedEngine := {}
  deriving DecidableEq, Inhabited

namespace Collaborators

def forTables (c : Collaborators) (settings : Settings) : MadeCollaborator × Collaborators :=
  match c.tables with
  | some made => (made, c)
  | none =>
    let (engine, shared) := c.shared.get
    let made : MadeCollaborator := ⟨engine, settings.tableFront⟩
    (made, { c with tables := some made, shared := shared })

def forQueries (c : Collaborators) (settings : Settings) : MadeCollaborator × Collaborators :=
  match c.queries with
  | some made => (made, c)
  | none =>
    let (engine, shared) := c.shared.get
    let made : MadeCollaborator := ⟨engine, settings.tableFront⟩
    (made, { c with queries := some made, shared := shared })

end Collaborators

end RelationalModels
