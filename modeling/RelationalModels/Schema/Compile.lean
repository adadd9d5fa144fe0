import RelationalModels.Model.Definition
import RelationalModels.Schema.Table

/-!
# Compiling models

Every model becomes a base table. Each of its fields contributes one thing: a column, a column with
a foreign key, or a junction table. The base tables stand in the order of the models, and the
junction tables follow in the order of models and fields, so that a table is created after those it
points at.
-/

namespace RelationalModels

structure Schema where
  tables : List Table
  junctions : List JunctionTable
  deriving DecidableEq, Inhabited

def Schema.allTables (s : Schema) : List Table := s.tables ++ s.junctions.map fun j => j.toTable

inductive Contribution where
  | column (c : Column)
  | reference (c : Column) (key : ForeignKey)
  | junction (j : JunctionTable)
  deriving DecidableEq

namespace Contribution

def column? : Contribution → Option Column
  | column c => some c
  | reference c _ => some c
  | junction _ => none

/-- The foreign key a field adds to the table of its model, under the name of the column. -/
def foreignKey? : Contribution → Option (String × ForeignKey)
  | reference c key => some (c.name, key)
  | _ => none

def junction? : Contribution → Option JunctionTable
  | junction j => some j
  | _ => none

def ofField (models : Models) (model : Model) : Field → Except ModelError Contribution
  | f@(.scalar _ _ _) => .ok (.column (.ofField f))
  | f@(.relation traits target hasMany _) =>
    match models.get? target with
    | none => .error (.unknownTarget target ⟨model.id, some traits.name⟩)
    | some targetModel =>
      let table := model.tableName
      if hasMany then .ok (.junction (.build table traits.name target targetModel.tableName))
      else
        .ok (.reference (.ofField f)
          { constraint := Naming.foreignKeyName table traits.name, table := targetModel.tableName })

def ofDeclaration (models : Models) (model : Model) (template : OrderedMap Value) (name : String)
    (raw : OrderedMap Value) : Except ModelError Contribution :=
  match Field.resolve name raw template model.id with
  | .error e => .error e
  | .ok f => ofField models model f

def ofDeclarations (models : Models) (model : Model) (template : OrderedMap Value) :
    List (String × OrderedMap Value) → Except ModelError (List Contribution)
  | [] => .ok []
  | (name, raw) :: rest =>
    match ofDeclaration models model template name raw with
    | .error e => .error e
    | .ok c =>
      match ofDeclarations models model template rest with
      | .error e => .error e
      | .ok cs => .ok (c :: cs)

end Contribution

def Table.ofContributions (model : Model) (collation : Option String)
    (cs : List Contribution) : Table where
  name := model.tableName
  columns := cs.filterMap Contribution.column?
  collation := (nonemptyName model.collation).orElse fun _ => collation
  comment := model.comment
  foreignKeys := .ofList (cs.filterMap Contribution.foreignKey?)

def compileModel (models : Models) (model : Model) (template : OrderedMap Value)
    (collation : Option String) : Except ModelError (Table × List JunctionTable) :=
  match Contribution.ofDeclarations models model template model.fields.entries with
  | .error e => .error e
  | .ok cs =>
    .ok (Table.ofContributions model collation cs, cs.filterMap Contribution.junction?)

def compileEach (models : Models) (template : OrderedMap Value) (collation : Option String) :
    List Model → Except ModelError Schema
  | [] => .ok ⟨[], []⟩
  | model :: rest =>
    match compileModel models model template collation with
    | .error e => .error e
    | .ok (table, junctions) =>
      match compileEach models template collation rest with
      | .error e => .error e
      | .ok s => .ok ⟨table :: s.tables, junctions ++ s.junctions⟩

def Models.compile (models : Models) (template : OrderedMap Value) (collation : Option String) :
    Except ModelError Schema :=
  compileEach models template collation models.values

/--
The tables of a set of models. `collation` is for the tables of models that declare none; all
models are admitted before the first is compiled.
-/
def compileSchema (sources : OrderedMap ModelSource) (template : OrderedMap Value)
    (collation : Option String) : Except ModelError Schema :=
  match parseModels sources with
  | .error e => .error e
  | .ok models => models.compile template collation

end RelationalModels
