import RelationalModels.Service.Service

/-!
# Recording collaborators

A collaborator that only records what it is handed, and fails where it is told to. It stands in for
the database.
-/

namespace RelationalModels

structure Recording where
  tables : List Table := []
  plans : List QueryPlan := []
  deriving DecidableEq, Inhabited

structure Behaviour where
  failure : Option Failure := none
  failingTable : Option String := none
  rows : List Value := []
  deriving DecidableEq, Inhabited

/-- A collaborator that records; a table that fails is not recorded, but a plan is. -/
def Behaviour.collaborator (b : Behaviour) : Collaborator Recording where
  createTable t r :=
    match b.failure with
    | some f =>
      if b.failingTable = some t.name then (.error f, r)
      else (.ok (), { r with tables := r.tables ++ [t] })
    | none => (.ok (), { r with tables := r.tables ++ [t] })
  fetch plan r :=
    let after := { r with plans := r.plans ++ [plan] }
    match b.failure with
    | some f => (.error f, after)
    | none => (.ok b.rows, after)

end RelationalModels
