import RelationalModels.Schema.Table
import RelationalModels.Sql.ColumnType
import RelationalModels.Sql.Error

/-!
# The table registry

Tables have to be known before foreign keys that point at them can be written. A registry holds the
tables built so far by their full names. Building a table drops the earlier table of that name,
puts a placeholder with nothing but its key where a foreign key points at an unknown table, and
then enters the new table. A table that cannot be assembled is not entered, but what was dropped
and put in its place before stays that way.
-/

namespace RelationalModels.Sql

structure SqlColumn where
  name : String
  type : ColumnType
  nullable : Bool
  unique : Bool := false
  comment : Option String := none
  deriving DecidableEq, Inhabited

structure SqlForeignKey where
  name : String
  column : String
  targetTable : String
  targetColumn : String
  deriving DecidableEq, Inhabited

structure SqlTable where
  name : String
  columns : List SqlColumn
  primaryKey : List String
  foreignKeys : List SqlForeignKey
  collation : Option String
  comment : Option String
  deriving DecidableEq, Inhabited

abbrev Registry := OrderedMap SqlTable

def SqlForeignKey.target (k : SqlForeignKey) : String := k.targetTable ++ "." ++ k.targetColumn

def SqlColumn.key (name : String) : SqlColumn :=
  { name := name, type := .integer, nullable := false }

def SqlColumn.ofColumn (c : Column) : SqlColumn where
  name := c.name
  type := .ofColumn c
  nullable := c.nullable
  unique := c.unique
  comment := c.comment

/-- The first column without a name or with the name of an earlier one. -/
def columnFault? (table : String) (seen : List String) : List SqlColumn → Option SqlError
  | [] => none
  | c :: rest =>
    if c.name.isEmpty then some .unnamedColumn
    else if seen.contains c.name then some (.duplicateColumn table c.name)
    else columnFault? table (c.name :: seen) rest

def constraintFault? (kind : ConstraintKind) (table : String) (columns : List SqlColumn)
    (names : List String) : Option SqlError :=
  (names.find? fun n => !columns.any fun c => c.name == n).map (SqlError.missingColumn kind table)

def dropRepeats : List String → List String
  | [] => []
  | n :: ns => n :: (dropRepeats ns).filter fun m => m != n

namespace SqlTable

def columnsOf (t : Table) : List SqlColumn :=
  (if t.hasId then [SqlColumn.key Naming.surrogateKey] else []) ++
    t.columns.map SqlColumn.ofColumn

def primaryKeyOf (t : Table) : List String :=
  if t.hasId then [Naming.surrogateKey] else dropRepeats t.primaryKeys

def foreignKeysOf (front : String) (t : Table) : List SqlForeignKey :=
  t.foreignKeys.entries.map fun e =>
    { name := e.2.constraint
      column := e.1
      targetTable := front ++ e.2.table
      targetColumn := e.2.column }

def fault? (front : String) (t : Table) : Option SqlError :=
  let name := front ++ t.name
  let columns := columnsOf t
  (columnFault? name [] columns).orElse fun _ =>
    (constraintFault? .primaryKey name columns (primaryKeyOf t)).orElse fun _ =>
      constraintFault? .foreignKey name columns ((foreignKeysOf front t).map SqlForeignKey.column)

def assemble (front : String) (t : Table) : SqlTable where
  name := front ++ t.name
  columns := columnsOf t
  primaryKey := primaryKeyOf t
  foreignKeys := foreignKeysOf front t
  collation := nonemptyName t.collation
  comment := t.comment

/-- A table with nothing but a key, in place of one that is not built yet. -/
def placeholder (name key : String) : SqlTable where
  name := name
  columns := [SqlColumn.key key]
  primaryKey := [key]
  foreignKeys := []
  collation := none
  comment := none

end SqlTable

namespace Registry

/--
The registry with placeholders for the unknown targets of foreign keys of a table. A key without a
name ends it.
-/
def addPlaceholders (name : String) : List SqlForeignKey → Registry → Registry × Option SqlError
  | [], reg => (reg, none)
  | k :: rest, reg =>
    -- a table that points at itself is not in the registry yet, and needs no placeholder
    if k.targetTable == name || reg.contains k.targetTable then addPlaceholders name rest reg
    else if k.targetColumn.isEmpty then (reg, some .unnamedColumn)
    else
      addPlaceholders name rest
        (reg.insert k.targetTable (.placeholder k.targetTable k.targetColumn))

def build (reg : Registry) (front : String) (t : Table) : Registry × Except SqlError SqlTable :=
  let name := front ++ t.name
  -- the earlier table goes before it is known whether the new one can take its place
  match addPlaceholders name (SqlTable.foreignKeysOf front t) (reg.erase name) with
  | (prepared, some e) => (prepared, .error e)
  | (prepared, none) =>
    match SqlTable.fault? front t with
    | some e => (prepared, .error e)
    | none =>
      let table := SqlTable.assemble front t
      (prepared.insert name table, .ok table)

end Registry

end RelationalModels.Sql
