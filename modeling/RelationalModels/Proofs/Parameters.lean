import RelationalModels.Proofs.Partition
import RelationalModels.Sql.Select

/-!
# Values stay out of statements

A plan compares columns with values and limits the rows that are read. `statement_blind_to_values`
states that none of this shows in the text of a statement: plans that differ only in compared values
and in the numbers of their limits have one text. The values are handed over beside it, unchanged
and in the order of their columns, with the numbers of the limits behind them.
-/

namespace RelationalModels.Sql

/-! ### Conditions -/

/-- A value that a condition leaves a placeholder for: neither null nor a truth value. -/
def IsBound : Value → Prop
  | .null => False
  | .bool _ => False
  | _ => True

theorem IsBound.condition_eq {v : Value} (hv : IsBound v) (column : String) :
    condition column v = column ++ " = ?" := by
  cases v with
  | null => cases hv
  | bool b => cases hv
  | int n => rfl
  | float x => rfl
  | text s => rfl
  | list items => rfl
  | map entries => rfl

theorem IsBound.conditionParams_eq {v : Value} (hv : IsBound v) : conditionParams v = [v] := by
  cases v with
  | null => cases hv
  | bool b => cases hv
  | int n => rfl
  | float x => rfl
  | text s => rfl
  | list items => rfl
  | map entries => rfl

def ComparedAlike : List (String × Value) → List (String × Value) → Prop :=
  List.Forall₂ fun a b => a.1 = b.1 ∧ IsBound a.2 ∧ IsBound b.2

namespace ComparedAlike

variable {cs ds : List (String × Value)}

theorem symm (h : ComparedAlike cs ds) : ComparedAlike ds cs := by
  have hflip := List.Forall₂.flip h
  exact hflip.imp fun a b hab => ⟨hab.1.symm, hab.2.2, hab.2.1⟩

theorem filterClause_eq (h : ComparedAlike cs ds) : filterClause cs = filterClause ds := by
  have hempty : cs.isEmpty = ds.isEmpty := by
    cases h with
    | nil => rfl
    | cons _ _ => rfl
  have hconditions : (cs.map fun e => condition e.1 e.2) = ds.map fun e => condition e.1 e.2 := by
    apply map_eq_of_forall₂ h
    rintro a b ⟨hcolumn, ha, hb⟩
    rw [ha.condition_eq, hb.condition_eq, hcolumn]
  rw [filterClause, filterClause, hempty, hconditions]

theorem params_eq (h : ComparedAlike cs ds) :
    cs.flatMap (fun e => conditionParams e.2) = cs.map Prod.snd := by
  have hbound : ∀ e ∈ cs, conditionParams e.2 = [e.2] := by
    intro e he
    obtain ⟨d, -, hd⟩ := exists_related h he
    exact hd.2.1.conditionParams_eq
  rw [List.flatMap_congr hbound, List.map_eq_flatMap]

end ComparedAlike

/-! ### Limits -/

theorem limitClause_alike {limit limit' offset offset' : Option Int}
    (hlimit : limit.isSome = limit'.isSome) (hoffset : offset.isSome = offset'.isSome) :
    (limitClause limit offset).sql = (limitClause limit' offset').sql ∧
      (limitClause limit offset).params.length = (limitClause limit' offset').params.length := by
  have hsame : (limit.isNone && offset.isNone) = (limit'.isNone && offset'.isNone) := by
    rw [← Option.not_isSome, ← Option.not_isSome, ← Option.not_isSome, ← Option.not_isSome, hlimit,
      hoffset]
  rw [limitClause, limitClause, hsame]
  split
  · exact ⟨rfl, rfl⟩
  · exact ⟨rfl, rfl⟩

/-! ### Plans -/

/--
Plans that read the same and differ only in the values they compare with and in the numbers of their
limits; a limit and an offset are given in both of them or in neither.
-/
structure AlikeButValues (p q : QueryPlan) : Prop where
  table : p.table = q.table
  baseAlias : p.baseAlias = q.baseAlias
  selectColumns : p.selectColumns = q.selectColumns
  joins : p.joins = q.joins
  orderBy : p.passthrough.orderBy = q.passthrough.orderBy
  conditions : ComparedAlike p.passthrough.conditions.entries q.passthrough.conditions.entries
  limit : p.passthrough.limit.isSome = q.passthrough.limit.isSome
  offset : p.passthrough.offset.isSome = q.passthrough.offset.isSome

theorem ComparedAlike.selectStatement_params {p q : QueryPlan}
    (h : ComparedAlike p.passthrough.conditions.entries q.passthrough.conditions.entries)
    (front : String) :
    (selectStatement p front).params = p.passthrough.conditions.values ++
      (limitClause p.passthrough.limit p.passthrough.offset).params := by
  rw [Sql.selectStatement_params, h.params_eq, OrderedMap.values]

/--
Plans that differ only in compared values and in the numbers of limits have one text and as many
parameters; those of either plan are its values in the order of their columns and then its limits.
-/
theorem statement_blind_to_values {p q : QueryPlan} (h : AlikeButValues p q) (front : String) :
    (selectStatement p front).sql = (selectStatement q front).sql ∧
      (selectStatement p front).params.length = (selectStatement q front).params.length ∧
      ∀ r ∈ [p, q], (selectStatement r front).params = r.passthrough.conditions.values ++
        (limitClause r.passthrough.limit r.passthrough.offset).params := by
  obtain ⟨hlimits, hnumbers⟩ := limitClause_alike h.limit h.offset
  have hp := h.conditions.selectStatement_params front
  have hq := h.conditions.symm.selectStatement_params front
  have hlength : p.passthrough.conditions.values.length =
      q.passthrough.conditions.values.length := by
    simpa only [OrderedMap.values, List.length_map] using h.conditions.length_eq
  refine ⟨?_, ?_, ?_⟩
  · have hselect : selectList p = selectList q := by
      rw [selectList, selectList, h.selectColumns, h.baseAlias]
    rw [selectStatement_sql, selectStatement_sql, hselect, h.table, h.baseAlias, h.joins,
      h.conditions.filterClause_eq, h.orderBy, hlimits]
  · rw [hp, hq, List.length_append, List.length_append, hlength, hnumbers]
  · intro r hr
    rcases List.mem_pair.mp hr with rfl | rfl
    · exact hp
    · exact hq

/-! ### Searches for a user -/

def userSearch (name : String) (rank : Value) (limit offset : Int) : QueryPlan where
  model := "user"
  table := "user"
  baseAlias := "user"
  selectColumns := ["name AS 'name'", "name AS 'mentor.name'"]
  joins := [⟨.left, "user", "mentor", "user", "id", some "mentor"⟩]
  passthrough :=
    { conditions := .ofList [("user.name", .text name), ("user.rank", rank)]
      orderBy := ["-user.name"]
      limit := some limit
      offset := some offset }

/-- A number is compared with, and a text that would end the statement and begin another one. -/
theorem userSearch_blind_to_values :
    AlikeButValues (userSearch "Ada" (.int 3) 10 0)
        (userSearch "' OR 1 = 1; DROP TABLE user; -- ?" (.float (.ofDecimal false 25 (-1))) 2 40) ∧
      (selectStatement (userSearch "Ada" (.int 3) 10 0) "").sql =
        (selectStatement (userSearch "' OR 1 = 1; DROP TABLE user; -- ?"
          (.float (.ofDecimal false 25 (-1))) 2 40) "").sql ∧
      (selectStatement (userSearch "Ada" (.int 3) 10 0) "").params =
        [.text "Ada", .int 3, .int 10, .int 0] := by
  have halike : AlikeButValues (userSearch "Ada" (.int 3) 10 0)
      (userSearch "' OR 1 = 1; DROP TABLE user; -- ?" (.float (.ofDecimal false 25 (-1))) 2 40) :=
    { table := rfl
      baseAlias := rfl
      selectColumns := rfl
      joins := rfl
      orderBy := rfl
      conditions := .cons ⟨rfl, trivial, trivial⟩ (.cons ⟨rfl, trivial, trivial⟩ .nil)
      limit := rfl
      offset := rfl }
  obtain ⟨htext, -, hparams⟩ := statement_blind_to_values halike ""
  exact ⟨halike, htext, hparams _ (List.mem_cons_self ..)⟩

end RelationalModels.Sql
