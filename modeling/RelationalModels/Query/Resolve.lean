import RelationalModels.Model.Definition
import RelationalModels.Naming
import RelationalModels.Query.Plan

/-!
# Resolving queries

The fields of a model are walked in declared order. A scalar adds a select entry. A relation adds
one join, or two when it goes through a junction table, and then everything its target adds one hop
further. Relations beyond the permitted number of hops add nothing and their targets are not looked
up.
-/

namespace RelationalModels

structure Projection where
  selects : List String
  joins : List Join
  deriving DecidableEq, Inhabited

namespace Projection

def empty : Projection := ⟨[], []⟩

def append (p q : Projection) : Projection := ⟨p.selects ++ q.selects, p.joins ++ q.joins⟩

instance : Append Projection := ⟨append⟩

end Projection

def JoinKind.ofRequired (required : Bool) : JoinKind := if required then .inner else .left

/--
The joins that lead from the table called `owner`, which belongs to a model with the table
`ownerTable`, through a relation to the table of its target. `path` is the path to the model.
-/
def relationJoins (owner path ownerTable : String) (traits : FieldTraits) (hasMany : Bool)
    (targetTable : String) : List Join :=
  let kind := JoinKind.ofRequired traits.required
  let targetAlias := some (Naming.joinAlias path traits.name)
  if hasMany then
    let junction := Naming.junctionTableName ownerTable traits.name
    let link : Join :=
      { kind := kind
        leftTable := owner
        leftColumn := Naming.surrogateKey
        rightTable := junction
        -- one side of a junction is named after a table, and the other one after the field
        rightColumn := Naming.junctionColumn ownerTable
        rightAlias := Naming.junctionAlias? path traits.name junction }
    [link,
     { kind := kind
       leftTable := link.rightName
       leftColumn := Naming.junctionColumn traits.name
       rightTable := targetTable
       rightColumn := Naming.surrogateKey
       rightAlias := targetAlias }]
  else
    [{ kind := kind
       leftTable := owner
       leftColumn := traits.name
       rightTable := targetTable
       rightColumn := Naming.surrogateKey
       rightAlias := targetAlias }]

abbrev Projector := (model : Model) → (owner path : String) → Except ModelError Projection

/--
What a settled field adds. `deeper?` projects the targets of relations; without it relations add
nothing.
-/
def projectField (models : Models) (deeper? : Option Projector) (model : Model)
    (owner path : String) : Field → Except ModelError Projection
  | .scalar traits _ _ =>
    .ok ⟨[Naming.selectExpression traits.name (Naming.columnAlias path traits.name)], []⟩
  | .relation traits target hasMany _ =>
    match deeper? with
    -- behind the last hop nothing is looked up, so that a missing target goes unnoticed
    | none => .ok .empty
    | some deeper =>
      match models.get? target with
      | none => .error (.unknownTarget target ⟨model.id, some traits.name⟩)
      | some targetModel =>
        match deeper targetModel (Naming.joinAlias path traits.name)
            (Naming.extendPath path traits.name) with
        | .error e => .error e
        | .ok inner =>
          .ok (⟨[], relationJoins owner path model.tableName traits hasMany
            targetModel.tableName⟩ ++ inner)

def projectFields (models : Models) (template : OrderedMap Value) (deeper? : Option Projector)
    (model : Model) (owner path : String) :
    List (String × OrderedMap Value) → Except ModelError Projection
  | [] => .ok .empty
  | (name, raw) :: rest =>
    match Field.resolve name raw template model.id with
    | .error e => .error e
    | .ok field =>
      match projectField models deeper? model owner path field with
      | .error e => .error e
      | .ok first =>
        match projectFields models template deeper? model owner path rest with
        | .error e => .error e
        | .ok others => .ok (first ++ others)

def project (models : Models) (template : OrderedMap Value) : (depth : Nat) → Projector
  | 0, model, owner, path =>
    projectFields models template none model owner path model.fields.entries
  | depth + 1, model, owner, path =>
    projectFields models template (some (project models template depth)) model owner path
      model.fields.entries

inductive PlanError where
  | negativeDepth (depth : Int)
  | model (e : ModelError)
  deriving DecidableEq

def negativeDepthMessage (depth : Int) : String :=
  "max_join_depth must be >= 0, got " ++ toString depth

def defaultJoinDepth : Int := 1

def Models.plan (models : Models) (name : String) (options : QueryOptions)
    (template : OrderedMap Value) (depth : Nat) : Except ModelError QueryPlan :=
  match models.get? name with
  | none => .error (.unknownModel name)
  | some model =>
    let baseAlias := options.baseAlias.getD name
    match project models template depth model baseAlias "" with
    | .error e => .error e
    | .ok p =>
      .ok
        { model := name
          table := model.tableName
          baseAlias := baseAlias
          selectColumns := options.select.getD p.selects
          joins := options.joins.getD p.joins
          passthrough := options.passthrough }

/--
The plan for reading a model. The number of hops is looked at first, then all models are admitted,
then the model is looked up and projected.
-/
def resolveQuery (sources : OrderedMap ModelSource) (name : String) (options : QueryOptions)
    (template : OrderedMap Value) (depth : Int) : Except PlanError QueryPlan :=
  if depth < 0 then .error (.negativeDepth depth)
  else
    match parseModels sources with
    | .error e => .error (.model e)
    | .ok models =>
      match models.plan name options template depth.toNat with
      | .error e => .error (.model e)
      | .ok plan => .ok plan

end RelationalModels
