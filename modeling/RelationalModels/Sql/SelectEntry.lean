import RelationalModels.Naming
import RelationalModels.Text.Blank
import RelationalModels.Text.Word

/-!
# Select entries

A select entry is an expression, possibly followed by `AS` and an alias in single quotes. The
shortest expression that leaves such an ending is taken. A bare name under an alias is qualified
with the table that the path of the alias leads to, so that equal column names of joined tables
stay apart. The alias is the label of the column, except that an empty one is no label: the
statement then makes a label of its own.
-/

namespace RelationalModels.Sql

open RelationalModels.Text

inductive ColumnLabel where
  | unlabelled
  | named (label : String)
  | generated
  deriving DecidableEq, Inhabited

/-- The label of a column under an alias: an empty alias leaves the label to the statement. -/
def ColumnLabel.ofAlias (written : String) : ColumnLabel :=
  if written.isEmpty then generated else named written

theorem ColumnLabel.ofAlias_of_ne_empty {written : String} (h : written ≠ "") :
    ofAlias written = named written := by
  rw [ofAlias, if_neg (by simpa using h)]

theorem ColumnLabel.ofAlias_injective : Function.Injective ofAlias := by
  intro s t h
  unfold ofAlias at h
  split at h <;> split at h <;> simp_all

structure SelectEntry where
  text : String
  label : ColumnLabel
  deriving DecidableEq, Inhabited

-- the long s is an s when the case of letters is ignored
def isLetterS (c : Char) : Bool := c == 's' || c == 'S' || c.toNat == 0x17F

def afterSpaces? : List Char → Option (List Char)
  | [] => none
  | c :: rest => if isSpace c then some (rest.dropWhile isSpace) else none

def afterAs? : List Char → Option (List Char)
  | a :: s :: rest => if (a == 'a' || a == 'A') && isLetterS s then some rest else none
  | _ => none

/-- The text of a literal after its opening quote, when its closing quote ends everything. -/
def closedLiteral? : List Char → Option (List Char)
  | [] => none
  -- two quotes are one of the literal, and a quote that closes it has to be the last character
  | ['\''] => some []
  | '\'' :: '\'' :: rest => (closedLiteral? rest).map ('\'' :: ·)
  | c :: rest => if c = '\'' then none else (closedLiteral? rest).map (c :: ·)

def aliasEnding? (cs : List Char) : Option (List Char) :=
  match afterSpaces? cs with
  | none => none
  | some atAs =>
    match afterAs? atAs with
    | none => none
    | some afterAs =>
      match afterSpaces? afterAs with
      | some ('\'' :: literal) => closedLiteral? literal
      | _ => none

/-- The shortest nonempty expression with an alias after it, and the alias. -/
def splitAlias? : List Char → Option (List Char × List Char)
  | [] => none
  | c :: rest =>
    match aliasEnding? rest with
    | some label => some ([c], label)
    | none => (splitAlias? rest).map fun (expr, label) => (c :: expr, label)

/-- The table that the path of an alias leads to. -/
def tableOfAlias (label base : String) : String :=
  match (splitOnChar '.' label.toList).dropLast.reverse with
  | [] => base
  | last :: before =>
    Naming.joinAlias (".".intercalate (before.reverse.map String.ofList)) (String.ofList last)

def SelectEntry.ofText (text base : String) : SelectEntry :=
  match splitAlias? (trimSpace text.toList) with
  -- an entry without an alias stands as it was given, with the white space around it
  | none => ⟨text, .unlabelled⟩
  | some (expr, written) =>
    let label := String.ofList written
    let body := String.ofList expr
    ⟨if isBareName expr then tableOfAlias label base ++ "." ++ body else body, .ofAlias label⟩

end RelationalModels.Sql
