import RelationalModels.Schema.Column

/-!
# Column types of SQL dialects

The type of a column depends on its storage kind and on the dialect. Character set and collation
are part of the type of a text column in the two dialects that know them.
-/

namespace RelationalModels.Sql

inductive Dialect where
  | sqlite
  | mysql
  | mariadb
  | postgresql
  deriving DecidableEq

def Dialect.hasTextVariants : Dialect → Bool
  | .mysql => true
  | .mariadb => true
  | _ => false

structure ColumnType where
  storage : StorageKind
  characterSet : Option String := none
  collation : Option String := none
  deriving DecidableEq, Inhabited

namespace ColumnType

/-- The type of a column; only text keeps its character set and collation. -/
def ofColumn (c : Column) : ColumnType :=
  if c.storage.isText then
    ⟨c.storage, nonemptyName c.characterSet, nonemptyName c.collation⟩
  else ⟨c.storage, none, none⟩

def integer : ColumnType := { storage := .int }

def name (d : Dialect) : StorageKind → String
  | .largeText => "TEXT"
  | .boundedString => "VARCHAR(" ++ toString boundedStringLength ++ ")"
  | .int => "INTEGER"
  | .foreignKey => "INTEGER"
  | .float => "FLOAT"
  | .double => if d = .postgresql then "DOUBLE PRECISION" else "DOUBLE"
  | .bool => if d.hasTextVariants then "BOOL" else "BOOLEAN"
  | .date => "DATE"
  | .datetime => if d = .postgresql then "TIMESTAMP WITHOUT TIME ZONE" else "DATETIME"

def text (t : ColumnType) (d : Dialect) : String :=
  if d.hasTextVariants then
    name d t.storage ++ ((t.characterSet.map fun s => " CHARACTER SET " ++ s).getD "") ++
      ((t.collation.map fun s => " COLLATE " ++ s).getD "")
  else name d t.storage

end ColumnType

end RelationalModels.Sql
