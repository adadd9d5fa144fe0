import RelationalModels.Model.Field
import RelationalModels.Naming

/-!
# Columns

How a field is stored: the storage kind, the SQL type and the constraints. A relation is stored as
an integer whatever its length says; a length without bound or beyond 255 makes a large text; any
other scalar is stored by its type.
-/

namespace RelationalModels

inductive StorageKind where
  | largeText
  | boundedString
  | int
  | float
  | double
  | bool
  | date
  | datetime
  | foreignKey
  deriving DecidableEq, Inhabited

namespace StorageKind

def token : StorageKind → String
  | largeText => "large_text"
  | boundedString => "bounded_string"
  | int => "int"
  | float => "float"
  | double => "double"
  | bool => "bool"
  | date => "date"
  | datetime => "datetime"
  | foreignKey => "foreign_key"

def all : List StorageKind :=
  [largeText, boundedString, int, float, double, bool, date, datetime, foreignKey]

def isText : StorageKind → Bool
  | largeText => true
  | boundedString => true
  | _ => false

theorem isText_iff {k : StorageKind} : k.isText = true ↔ k = largeText ∨ k = boundedString := by
  cases k <;> decide

def ofScalar : ScalarType → StorageKind
  | .string => boundedString
  | .int => int
  | .float => float
  | .double => double
  | .bool => bool
  | .date => date
  | .datetime => datetime

def check : Check StorageKind := Check.among (all.map fun k => (k.token, k))

end StorageKind

namespace Field

def storage : Field → StorageKind
  | relation _ _ _ _ => .foreignKey
  | scalar t type _ =>
    -- the length decides before the type does, for numbers and dates too
    if t.maxLength = unboundedLength ∨ boundedStringLength < t.maxLength then .largeText
    else .ofScalar type

/-- The SQL type of a field; scalars that are no text go by their own token. -/
def sqlType (f : Field) : String :=
  match f.storage with
  | .largeText => "TEXT"
  | .boundedString => "VARCHAR(" ++ toString boundedStringLength ++ ")"
  | .foreignKey => "INT(11)"
  | _ => f.type.token

end Field

structure Column where
  name : String
  sqlType : String
  storage : StorageKind
  constraints : List String := []
  nullable : Bool := true
  unique : Bool := false
  comment : Option String := none
  characterSet : Option String := none
  collation : Option String := none
  deriving DecidableEq, Inhabited

namespace Column

def ofMap (m : OrderedMap Value) : Validated Column :=
  Column.mk <$> m.required "name" Check.text
    <*> m.required "sql_type" Check.text
    <*> m.required "storage_kind" StorageKind.check
    <*> m.optional "constraints" (Check.listOf Check.text) []
    <*> m.optional "nullable" Check.boolean true
    <*> m.optional "unique" Check.boolean false
    <*> m.optional "comment" (Check.nullable Check.text) none
    <*> m.optional "character_set" (Check.nullable Check.text) none
    <*> m.optional "collation" (Check.nullable Check.text) none

def check : Check Column := Check.record "ColumnDefinition" ofMap

def definition (c : Column) : String := " ".intercalate (c.name :: c.sqlType :: c.constraints)

def characterSetOf (f : Field) : Option String :=
  if f.storage.isText then nonemptyName f.traits.characterSet else none

/-- The collation of a field's column: only text without a character set has one. -/
def collationOf (f : Field) : Option String :=
  if f.storage.isText && (characterSetOf f).isNone then nonemptyName f.traits.collation else none

def constraintsOf (f : Field) : List String :=
  (if f.traits.unique then ["UNIQUE"] else []) ++
  (if f.traits.required then ["NOT NULL"] else []) ++
  ((nonemptyName f.traits.comment).map fun s => "COMMENT " ++ Naming.quoteLiteral s).toList ++
  ((characterSetOf f).map fun s => "CHARACTER SET " ++ s).toList ++
  ((collationOf f).map fun s => "COLLATE " ++ s).toList

def ofField (f : Field) : Column where
  name := f.traits.name
  sqlType := f.sqlType
  storage := f.storage
  constraints := constraintsOf f
  nullable := !f.traits.required
  unique := f.traits.unique
  comment := f.traits.comment
  characterSet := characterSetOf f
  collation := collationOf f

def link (name : String) : Column where
  name := name
  sqlType := "INT(11)"
  storage := .foreignKey
  constraints := ["NOT NULL"]
  nullable := false

end Column

end RelationalModels
