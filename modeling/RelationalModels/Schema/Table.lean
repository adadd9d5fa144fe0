import RelationalModels.Schema.Column

/-!
# Tables

A table to create: its columns, its foreign keys by local column and its primary key. A base table
has the surrogate key; a junction table realises a has-many relation and has a key of two columns.
-/

namespace RelationalModels

structure ForeignKey where
  constraint : String
  table : String
  column : String := Naming.surrogateKey
  deriving DecidableEq, Inhabited

def ForeignKey.ofMap (m : OrderedMap Value) : Validated ForeignKey :=
  ForeignKey.mk <$> m.required "constraint_name" Check.text
    <*> m.required "referenced_table" Check.text
    <*> m.optional "referenced_column" Check.text Naming.surrogateKey

def ForeignKey.check : Check ForeignKey := Check.record "ForeignKeyDescriptor" ForeignKey.ofMap

def ForeignKey.reference (k : ForeignKey) : String := k.table ++ "(" ++ k.column ++ ")"

/-- A table to create. With `hasId` the surrogate key is added in front of the columns. -/
structure Table where
  name : String
  columns : List Column := []
  collation : Option String := none
  comment : Option String := none
  foreignKeys : OrderedMap ForeignKey := .empty
  hasId : Bool := true
  primaryKeys : List String := [Naming.surrogateKey]
  deriving DecidableEq, Inhabited

structure JunctionTable extends Table where
  ownerTable : String
  fieldName : String
  targetTable : String
  deriving DecidableEq, Inhabited

namespace Table

/-- The members of a table; a base table and a junction table differ in their defaults. -/
def ofMap (hasId : Bool) (primaryKeys : List String) (m : OrderedMap Value) : Validated Table :=
  Table.mk <$> m.required "name" Check.text
    <*> m.optional "columns" (Check.listOf Column.check) []
    <*> m.optional "collation" (Check.nullable Check.text) none
    <*> m.optional "comment" (Check.nullable Check.text) none
    <*> m.optional "foreign_keys" (Check.mapOf ForeignKey.check) .empty
    <*> m.optional "has_id" Check.boolean hasId
    <*> m.optional "primary_keys" (Check.listOf Check.text) primaryKeys

def check : Check Table := Check.record "TableDescriptor" (ofMap true [Naming.surrogateKey])

def column? (t : Table) (name : String) : Option Column := t.columns.find? fun c => c.name == name

end Table

namespace JunctionTable

def ofMap (m : OrderedMap Value) : Validated JunctionTable :=
  JunctionTable.mk <$> Table.ofMap false [] m
    <*> m.required "owner_table" Check.text
    <*> m.required "field_name" Check.text
    <*> m.required "target_table" Check.text

def check : Check JunctionTable := Check.record "JunctionTableDescriptor" ofMap

def build (ownerTable fieldName targetModel targetTable : String) : JunctionTable :=
  let name := Naming.junctionTableName ownerTable fieldName
  let ownerColumn := Naming.junctionColumn ownerTable
  let targetColumn := Naming.junctionColumn fieldName
  { name := name
    columns := [Column.link ownerColumn, Column.link targetColumn]
    primaryKeys := [ownerColumn, targetColumn]
    -- where the field is named like the table of the owner, the second key replaces the first one
    foreignKeys := .ofList
      [(ownerColumn, { constraint := Naming.foreignKeyName name fieldName, table := ownerTable }),
       (targetColumn, { constraint := Naming.foreignKeyName name targetModel, table := targetTable })]
    hasId := false
    ownerTable := ownerTable
    fieldName := fieldName
    targetTable := targetTable }

end JunctionTable

end RelationalModels
