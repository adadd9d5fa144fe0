import RelationalModels.Sql.Identifier
import RelationalModels.Sql.Registry

/-!
# CREATE TABLE

The statement that creates a registered table: its columns, the primary key, the foreign keys and a
uniqueness constraint for every unique column. The target of a foreign key is looked up in the
registry by its dotted name, whose last part is the column. The names of foreign keys have a limited
length.
-/

namespace RelationalModels.Sql

def cutAtLastDot (s : String) : String × String :=
  let (before, after) := Text.cutAtLast (· == '.') s.toList
  (String.ofList (before.getD []), String.ofList after)

/-- The table and the column that a foreign key of a table points at. -/
def SqlForeignKey.resolve (k : SqlForeignKey) (reg : Registry) (table : String) :
    Except SqlError (String × String) :=
  let (targetTable, targetColumn) := cutAtLastDot k.target
  match reg.get? targetTable with
  | none => .error (.missingTargetTable table k.column targetTable targetColumn)
  | some t =>
    if t.columns.any fun c => c.name == targetColumn then .ok (targetTable, targetColumn)
    else .error (.missingTargetColumn table k.target targetTable targetColumn)

def parenthesized (names : List String) : String :=
  "(" ++ ", ".intercalate (names.map writeIdentifier) ++ ")"

def SqlColumn.item (c : SqlColumn) : String :=
  writeIdentifier c.name ++ " " ++ c.type.text .sqlite ++ if c.nullable then "" else " NOT NULL"

def SqlForeignKey.item (k : SqlForeignKey) (reg : Registry) (table : String) :
    Except SqlError String :=
  match k.resolve reg table with
  | .error e => .error e
  | .ok (targetTable, targetColumn) =>
    if maxIdentifierLength < k.name.length then .error (.overlongIdentifier k.name)
    else
      .ok ("CONSTRAINT " ++ writeIdentifier k.name ++ " FOREIGN KEY" ++ parenthesized [k.column] ++
        " REFERENCES " ++ writeIdentifier targetTable ++ " " ++ parenthesized [targetColumn])

def foreignKeyItems (reg : Registry) (table : String) :
    List SqlForeignKey → Except SqlError (List String)
  | [] => .ok []
  | k :: rest =>
    match k.item reg table with
    | .error e => .error e
    | .ok item =>
      match foreignKeyItems reg table rest with
      | .error e => .error e
      | .ok items => .ok (item :: items)

def SqlTable.items (t : SqlTable) (reg : Registry) : Except SqlError (List String) :=
  match foreignKeyItems reg t.name t.foreignKeys with
  | .error e => .error e
  | .ok keys =>
    let primary :=
      if t.primaryKey.isEmpty then [] else ["PRIMARY KEY " ++ parenthesized t.primaryKey]
    let unique :=
      (t.columns.filter SqlColumn.unique).map fun c => "UNIQUE " ++ parenthesized [c.name]
    .ok (t.columns.map SqlColumn.item ++ primary ++ keys ++ unique)

def SqlTable.createStatement (t : SqlTable) (reg : Registry) : Except SqlError String :=
  match t.items reg with
  | .error e => .error e
  | .ok items =>
    let body := if items.isEmpty then "" else "\n\t" ++ ", \n\t".intercalate items
    .ok ("CREATE TABLE " ++ writeIdentifier t.name ++ " (" ++ body ++ "\n)")

def Registry.render (reg : Registry) (front : String) (t : Table) :
    Registry × Except SqlError (String × SqlTable) :=
  match reg.build front t with
  | (after, .error e) => (after, .error e)
  | (after, .ok table) =>
    match table.createStatement after with
    | .error e => (after, .error e)
    | .ok sql => (after, .ok (sql, table))

end RelationalModels.Sql
