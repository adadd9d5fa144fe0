import RelationalModels.Validation.Check

/-!
# Query plans

What is needed to read one model together with the models it is related to: the select entries, the
joins in order, and options that are passed through to whoever runs the query. `QueryOptions` are
the caller's overrides.
-/

namespace RelationalModels

inductive JoinKind where
  | inner
  | left
  deriving DecidableEq, Inhabited

def JoinKind.token : JoinKind → String
  | inner => "INNER"
  | left => "LEFT"

def JoinKind.check : Check JoinKind :=
  Check.among ([JoinKind.inner, JoinKind.left].map fun k => (k.token, k))

structure Join where
  kind : JoinKind
  leftTable : String
  leftColumn : String
  rightTable : String
  rightColumn : String
  rightAlias : Option String := none
  deriving DecidableEq, Inhabited

namespace Join

def ofMap (m : OrderedMap Value) : Validated Join :=
  Join.mk <$> m.required "kind" JoinKind.check
    <*> m.required "left_table" Check.text
    <*> m.required "left_column" Check.text
    <*> m.required "right_table" Check.text
    <*> m.required "right_column" Check.text
    <*> m.optional "right_alias" (Check.nullable Check.text) none

def check : Check Join := Check.record "JoinSpec" ofMap

def alias? (j : Join) : Option String := j.rightAlias.filter fun s => !s.isEmpty

def rightName (j : Join) : String := j.alias?.getD j.rightTable

def fragment (j : Join) : String :=
  let target :=
    match j.alias? with
    | some name => j.rightTable ++ " AS " ++ name
    | none => j.rightTable
  j.kind.token ++ " JOIN " ++ target ++ " ON " ++ j.leftTable ++ "." ++ j.leftColumn ++ " = " ++
    j.rightName ++ "." ++ j.rightColumn

end Join

structure Passthrough where
  conditions : OrderedMap Value := .empty
  /-- Columns to sort by; a minus sign in front sorts downwards. -/
  orderBy : List String := []
  limit : Option Int := none
  offset : Option Int := none
  extra : OrderedMap Value := .empty
  deriving DecidableEq, Inhabited

def Passthrough.ofMap (m : OrderedMap Value) : Validated Passthrough :=
  Passthrough.mk <$> m.optional "where" Check.mapping .empty
    <*> m.optional "order_by" (Check.listOf Check.text) []
    <*> m.optional "limit" (Check.nullable (Check.atLeast 0)) none
    <*> m.optional "offset" (Check.nullable (Check.atLeast 0)) none
    <*> m.optional "extra" Check.mapping .empty

def Passthrough.check : Check Passthrough := Check.record "PassthroughOptions" Passthrough.ofMap

/-- A caller's overrides; what is `none` was not supplied. -/
structure QueryOptions where
  select : Option (List String) := none
  joins : Option (List Join) := none
  baseAlias : Option String := none
  passthrough : Passthrough := {}
  deriving DecidableEq, Inhabited

def QueryOptions.ofMap (m : OrderedMap Value) : Validated QueryOptions :=
  QueryOptions.mk <$> m.optional "select" (Check.nullable (Check.listOf Check.text)) none
    <*> m.optional "join" (Check.nullable (Check.listOf Join.check)) none
    <*> m.optional "alias" (Check.nullable Check.text) none
    <*> m.optional "passthrough" Passthrough.check {}

def QueryOptions.check : Check QueryOptions := Check.record "QueryOptions" QueryOptions.ofMap

structure QueryPlan where
  model : String
  table : String
  baseAlias : String
  selectColumns : List String := []
  joins : List Join := []
  passthrough : Passthrough := {}
  deriving DecidableEq, Inhabited

def QueryPlan.ofMap (m : OrderedMap Value) : Validated QueryPlan :=
  QueryPlan.mk <$> m.required "model" Check.text
    <*> m.required "table" Check.text
    <*> m.required "alias" Check.text
    <*> m.optional "select_columns" (Check.listOf Check.text) []
    <*> m.optional "joins" (Check.listOf Join.check) []
    <*> m.optional "passthrough" Passthrough.check {}

def QueryPlan.check : Check QueryPlan := Check.record "QueryPlan" QueryPlan.ofMap

end RelationalModels
