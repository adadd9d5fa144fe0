import RelationalModels.Text.Case

/-!
# SQL identifiers

An identifier is written as it is when a lower-case reading of it cannot be mistaken for anything
else, and in double quotes otherwise: also the empty one, of which nothing but the quotes is left.
`writeIdentifier` applies the rule.
-/

namespace RelationalModels.Sql

def reservedWords : List String :=
  ["add", "after", "all", "alter", "analyze", "and", "as", "asc", "attach", "autoincrement",
   "before", "begin", "between", "by", "cascade", "case", "cast", "check", "collate", "column",
   "commit", "conflict", "constraint", "create", "cross", "current_date", "current_time",
   "current_timestamp", "database", "default", "deferrable", "deferred", "delete", "desc",
   "detach", "distinct", "drop", "each", "else", "end", "escape", "except", "exclusive", "exists",
   "explain", "fail", "false", "for", "foreign", "from", "full", "glob", "group", "having", "if",
   "ignore", "immediate", "in", "index", "indexed", "initially", "inner", "insert", "instead",
   "intersect", "into", "is", "isnull", "join", "key", "left", "like", "limit", "match",
   "natural", "not", "notnull", "null", "of", "offset", "on", "or", "order", "outer", "plan",
   "pragma", "primary", "query", "raise", "references", "reindex", "rename", "replace",
   "restrict", "right", "rollback", "row", "select", "set", "table", "temp", "temporary", "then",
   "to", "transaction", "trigger", "true", "union", "unique", "update", "using", "vacuum",
   "values", "view", "virtual", "when", "where"]

/--
The characters of a plain identifier: lower-case letters, digits, the underscore, the dollar sign,
and the two letters whose other case is an ASCII letter, the dotless i and the long s.
-/
def isPlainChar (c : Char) : Bool :=
  decide ('a' ≤ c) && decide (c ≤ 'z') || decide ('0' ≤ c) && decide (c ≤ '9') || c == '_' ||
    c == '$' || c.toNat == 0x131 || c.toNat == 0x17F

def isPlainInitial (c : Char) : Bool :=
  !(decide ('0' ≤ c) && decide (c ≤ '9') || c == '$')

def isPlainBody : List Char → Bool
  | [] => false
  | [c] => isPlainChar c
  | [c, d] => isPlainChar c && (isPlainChar d || d == '\n')
  | c :: cs => isPlainChar c && isPlainBody cs

def isPlain (name : String) : Bool :=
  match name.toList with
  | [] => false
  | c :: cs => isPlainInitial c && isPlainBody (c :: cs) && !reservedWords.contains name

/--
The name by which the database knows an identifier as it is written: without quotes, a line feed at
its end is white space.
-/
def nameInDatabase (name : String) : String :=
  if isPlain name then String.ofList (name.toList.filter (· != '\n')) else name

def quotedChar (c : Char) : List Char := if c = '"' then ['"', '"'] else [c]

def quoteIdentifier (name : String) : String :=
  String.ofList ('"' :: (name.toList.flatMap quotedChar ++ ['"']))

def writeIdentifier (name : String) : String :=
  if isPlain name then name else quoteIdentifier name

end RelationalModels.Sql
