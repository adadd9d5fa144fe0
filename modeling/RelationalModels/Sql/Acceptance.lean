import RelationalModels.Sql.CreateTable
import RelationalModels.Text.Case

/-!
# Statements the database refuses

The database has reserved words of its own, of which some may stand without quotes although they
would need them, and a few that only get in its way at certain places. It keeps names for itself,
wants columns with different names and no more than so many of them. `SqlTable.isRefused` says
whether it refuses to create a table.
-/

namespace RelationalModels.Sql

inductive IdentifierPlace where
  | created
  | keyColumn
  | elsewhere
  deriving DecidableEq

def grammarWords : List String :=
  ["add", "all", "alter", "and", "as", "autoincrement", "between", "case", "check", "collate",
   "commit", "constraint", "create", "default", "deferrable", "delete", "distinct", "drop", "else",
   "escape", "except", "exists", "foreign", "from", "group", "having", "in", "index", "insert",
   "intersect", "into", "is", "isnull", "join", "limit", "not", "nothing", "notnull", "null", "on",
   "or", "order", "primary", "references", "returning", "select", "set", "table", "then", "to",
   "transaction", "union", "unique", "update", "using", "values", "when", "where"]

/-- The further words that are no identifiers at a place: there they begin something else. -/
def furtherWords : IdentifierPlace → List String
  | .created => ["if"]
  | .keyColumn => ["cast", "current_date", "current_time", "current_timestamp", "raise"]
  | .elsewhere => []

def isWrittenLike (words : List String) (name : String) : Bool :=
  isPlain name && words.contains (nameInDatabase name)

def isMisread (place : IdentifierPlace) (name : String) : Bool :=
  isWrittenLike (grammarWords ++ furtherWords place) name

def maxColumns : Nat := 2000

def keptStart : String := "sqlite_"

def hasClash : List String → Bool
  | [] => false
  | n :: ns => ns.any (Text.eqIgnoringAsciiCase n) || hasClash ns

/--
Whether a column is read as a constraint that constrains nothing: the word is followed by a single
other one, which is taken for its name.
-/
def SqlColumn.isReadAsConstraint (c : SqlColumn) : Bool :=
  isWrittenLike ["constraint"] c.name && c.nullable && !(c.type.text .sqlite).toList.contains '('

namespace SqlTable

def readColumns (t : SqlTable) : List SqlColumn :=
  t.columns.takeWhile fun c => !c.isReadAsConstraint

def hasBadColumns (t : SqlTable) : Bool :=
  t.readColumns.isEmpty || decide (maxColumns < t.readColumns.length) ||
    hasClash (t.readColumns.map fun c => nameInDatabase c.name) ||
    (t.columns.drop t.readColumns.length).any fun c => !c.isReadAsConstraint

def identifiers (t : SqlTable) (reg : Registry) : List (IdentifierPlace × String) :=
  let target (k : SqlForeignKey) : List String :=
    match k.resolve reg t.name with
    | .ok (table, column) => [table, column]
    | .error _ => []
  (.created, t.name) ::
    ((t.primaryKey ++ (t.columns.filter SqlColumn.unique).map SqlColumn.name).map fun n =>
      (.keyColumn, n)) ++
    ((t.readColumns.map SqlColumn.name ++
      t.foreignKeys.flatMap fun k => k.name :: k.column :: target k).map fun n => (.elsewhere, n))

def isRefused (t : SqlTable) (reg : Registry) (existing : List String) : Bool :=
  let name := nameInDatabase t.name
  existing.any (Text.eqIgnoringAsciiCase name) ||
    Text.eqIgnoringAsciiCase (String.ofList (name.toList.take keptStart.length)) keptStart ||
    t.hasBadColumns || (t.identifiers reg).any fun i => isMisread i.1 i.2

end SqlTable

end RelationalModels.Sql
