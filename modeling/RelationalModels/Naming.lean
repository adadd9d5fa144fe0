import RelationalModels.Text.Cut

/-!
# Names derived from names

Constraints, junction tables and their columns, aliases and select entries are named from the
tables and fields they belong to. A field reached through relations carries its path: each hop adds
its field name and a dot, and the alias of a joined table is the path with the dots doubled into
underscores.
-/

namespace RelationalModels.Naming

def surrogateKey : String := "id"

def foreignKeyName (table suffix : String) : String := "FK_" ++ table ++ "_" ++ suffix

def junctionTableName (ownerTable fieldName : String) : String := ownerTable ++ "_" ++ fieldName

def junctionColumn (name : String) : String := surrogateKey ++ "_" ++ name

def extendPath (path fieldName : String) : String := path ++ fieldName ++ "."

def columnAlias (path fieldName : String) : String := path ++ fieldName

def hops (path : String) : List String :=
  ((Text.splitOnChar '.' path.toList).filter fun part => !part.isEmpty).map String.ofList

def joinAlias (path fieldName : String) : String :=
  String.intercalate "__" (hops path ++ [fieldName])

/--
The alias of the junction table of a field. At the top level the junction goes by its own name;
further down two paths may cross the same junction, so the path is put in front.
-/
def junctionAlias? (path fieldName junction : String) : Option String :=
  if path.isEmpty then none else some (joinAlias path (fieldName ++ "__" ++ junction))

def literalChar (c : Char) : List Char := if c = '\'' then ['\'', '\''] else [c]

def quoteLiteral (s : String) : String :=
  String.ofList ('\'' :: (s.toList.flatMap literalChar ++ ['\'']))

def selectExpression (column label : String) : String := column ++ " AS " ++ quoteLiteral label

end RelationalModels.Naming
