import RelationalModels.Query.Plan
import RelationalModels.Sql.Error
import RelationalModels.Sql.Identifier
import RelationalModels.Sql.SelectEntry

/-!
# SELECT

The statement that reads a query plan, with placeholders for the values it compares with and for
its limits. Tables and aliases are written as identifiers; expressions, and the sides of joins and
conditions, are written as given.
-/

namespace RelationalModels.Sql

structure Statement where
  sql : String
  params : List Value
  deriving DecidableEq, Inhabited

def isUnlabelled (c : Char) : Bool :=
  c == '%' || c == '(' || c == ')' || c == ' ' || c == '$'

/-- A label made from an expression: each run of unfit characters becomes an underscore. -/
def labelBase : (afterUnfit : Bool) → List Char → List Char
  | _, [] => []
  | afterUnfit, c :: rest =>
    if isUnlabelled c then
      if afterUnfit then labelBase true rest else '_' :: labelBase true rest
    else c :: labelBase false rest

structure MadeLabels where
  bases : List String := []
  shortened : Nat := 0
  deriving DecidableEq, Inhabited

/-- The length from which on a made label is shortened, so that a number finds room after it. -/
def maxLabelLength : Nat := maxIdentifierLength - 6

def MadeLabels.make (made : MadeLabels) (base : String) : String × MadeLabels :=
  -- the number counts the labels that were made from the same base
  let label := base ++ "_" ++ toString (made.bases.count base + 1)
  let bases := base :: made.bases
  if maxLabelLength < label.length then
    let number := String.ofList (Nat.toDigits 16 (made.shortened + 1))
    (String.ofList (label.toList.take maxLabelLength) ++ "_" ++ number,
      ⟨bases, made.shortened + 1⟩)
  else (label, ⟨bases, made.shortened⟩)

def SelectEntry.item (made : MadeLabels) (e : SelectEntry) : String × MadeLabels :=
  match e.label with
  | .unlabelled => (e.text, made)
  | .named label => (e.text ++ " AS " ++ writeIdentifier label, made)
  | .generated =>
    let (label, made) := made.make (String.ofList (labelBase false e.text.toList))
    (e.text ++ " AS " ++ writeIdentifier label, made)

def selectItems (made : MadeLabels) : List SelectEntry → List String
  | [] => []
  | e :: rest =>
    let (item, made) := e.item made
    item :: selectItems made rest

def aliased (front table name : String) : String :=
  writeIdentifier (front ++ table) ++ " AS " ++ writeIdentifier name

def joinWord : JoinKind → String
  | .inner => " JOIN "
  | .left => " LEFT OUTER JOIN "

def joinCondition (j : Join) : String :=
  " ON " ++ j.leftTable ++ "." ++ j.leftColumn ++ " = " ++ j.rightName ++ "." ++ j.rightColumn

def joinClause (front : String) (j : Join) : String :=
  joinWord j.kind ++ aliased front j.rightTable j.rightName ++ joinCondition j

/-- A condition: nulls and truth values are written out, everything else is a placeholder. -/
def condition (column : String) : Value → String
  | .null => column ++ " IS NULL"
  | .bool b => column ++ (if b then " = 1" else " = 0")
  | _ => column ++ " = ?"

def conditionParams : Value → List Value
  | .null => []
  | .bool _ => []
  | v => [v]

def orderItem (name : String) : String :=
  match name.toList with
  | '-' :: rest => String.ofList rest ++ " DESC"
  | _ => name ++ " ASC"

def limitClause (limit offset : Option Int) : Statement :=
  if limit.isNone && offset.isNone then ⟨"", []⟩
  -- there is no offset without a limit, and a negative limit is none
  else ⟨"\n LIMIT ? OFFSET ?", [.int (limit.getD (-1)), .int (offset.getD 0)]⟩

def filterClause (conditions : List (String × Value)) : String :=
  if conditions.isEmpty then ""
  else " \nWHERE " ++ " AND ".intercalate (conditions.map fun e => condition e.1 e.2)

def orderClause (keys : List String) : String :=
  if keys.isEmpty then "" else " ORDER BY " ++ ", ".intercalate (keys.map orderItem)

def selectList (plan : QueryPlan) : List String :=
  let entries := plan.selectColumns.map fun c => SelectEntry.ofText c plan.baseAlias
  if entries.isEmpty then ["*"] else selectItems {} entries

/-- The statement that reads a plan; `front` is the common beginning of all full table names. -/
def selectStatement (plan : QueryPlan) (front : String) : Statement :=
  let options := plan.passthrough
  let conditions := options.conditions.entries
  let limits := limitClause options.limit options.offset
  { sql :=
      "SELECT " ++ ", ".intercalate (selectList plan) ++ " \nFROM " ++
        aliased front plan.table plan.baseAlias ++
        String.join (plan.joins.map (joinClause front)) ++ filterClause conditions ++
        orderClause options.orderBy ++ limits.sql
    params := conditions.flatMap (fun e => conditionParams e.2) ++ limits.params }

theorem selectStatement_sql (plan : QueryPlan) (front : String) :
    (selectStatement plan front).sql =
      "SELECT " ++ ", ".intercalate (selectList plan) ++ " \nFROM " ++
        aliased front plan.table plan.baseAlias ++
        String.join (plan.joins.map (joinClause front)) ++
        filterClause plan.passthrough.conditions.entries ++
        orderClause plan.passthrough.orderBy ++
        (limitClause plan.passthrough.limit plan.passthrough.offset).sql :=
  rfl

theorem selectStatement_params (plan : QueryPlan) (front : String) :
    (selectStatement plan front).params =
      plan.passthrough.conditions.entries.flatMap (fun e => conditionParams e.2) ++
        (limitClause plan.passthrough.limit plan.passthrough.offset).params :=
  rfl

end RelationalModels.Sql
