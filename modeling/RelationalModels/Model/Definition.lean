import RelationalModels.Model.Field
import RelationalModels.Text.Case

/-!
# Models

A model is one entity of the domain: its table, its fields in order and what it is called. The
attributes of the fields are kept as declared; they are settled whenever a field is read.
`Model.parse` admits one definition and `parseModels` a whole set of them.
-/

namespace RelationalModels

structure Labels where
  singular : Option String
  plural : Option String
  deriving DecidableEq, Inhabited

structure Model where
  id : Option String
  table : Option String
  fields : OrderedMap (OrderedMap Value)
  collation : Option String
  comment : Option String
  labels : Labels
  deriving DecidableEq, Inhabited

abbrev Models := OrderedMap Model

/-- A model as a caller hands it over: as data, or admitted before. -/
inductive ModelSource where
  | raw (v : Value)
  | admitted (m : Model)
  deriving DecidableEq

def Labels.ofMap (m : OrderedMap Value) : Validated Labels :=
  Labels.mk <$> m.optional "singular" (Check.nullable Check.text) none
    <*> m.optional "plural" (Check.nullable Check.text) none

namespace Model

def ofMap (m : OrderedMap Value) : Validated Model :=
  Model.mk <$> m.optional "id" (Check.nullable Check.text) none
    <*> m.optional "table" (Check.nullable Check.text) none
    <*> m.required "fields" (Check.mapOf Check.mapping)
    <*> m.optional "collation" (Check.nullable Check.text) none
    <*> m.optional "comment" (Check.nullable Check.text) none
    <*> m.optional "labels" (Check.record "ModelLabels" Labels.ofMap) ⟨none, none⟩

def check : Check Model := Check.record "ModelDefinition" ofMap

def tableName (m : Model) : String :=
  ((nonemptyName m.table).orElse fun _ => m.id).getD ""

def displayName (m : Model) : String :=
  (nonemptyName m.labels.singular).getD (Text.capitalize (m.id.getD ""))

def pluralName (m : Model) : String := (nonemptyName m.labels.plural).getD (m.displayName ++ "s")

/-- The model under a name, which becomes its identifier if it has none. -/
def withId (m : Model) (name : String) : Model := { m with id := m.id.orElse fun _ => some name }

def parse (name : String) : ModelSource → Except ModelError Model
  | .admitted m => .ok (m.withId name)
  | .raw (.map entries) =>
    let members := OrderedMap.ofList entries
    match members.get? "fields" with
    | none => .error (.missingAttribute "fields" ⟨some name, none⟩)
    -- a null in place of the fields is no value of a wrong kind, but counts as nothing
    | some .null => .error (.missingAttribute "fields" ⟨some name, none⟩)
    | some _ =>
      match ofMap members with
      | .valid m => .ok (m.withId name)
      | .invalid issues => .error (.malformedModel name issues)
  | .raw v => .error (.notAMapping name v.kindName)

def resolveFields (m : Model) (template : OrderedMap Value) : Except ModelError (List Field) :=
  m.fields.entries.mapM fun e => Field.resolve e.1 e.2 template m.id

end Model

def parseEntries : List (String × ModelSource) → Except ModelError (List (String × Model))
  | [] => .ok []
  | (name, source) :: rest =>
    match Model.parse name source with
    | .error e => .error e
    | .ok m =>
      match parseEntries rest with
      | .error e => .error e
      | .ok ms => .ok ((name, m) :: ms)

def parseModels (sources : OrderedMap ModelSource) : Except ModelError Models :=
  (parseEntries sources.entries).map OrderedMap.ofList

end RelationalModels
