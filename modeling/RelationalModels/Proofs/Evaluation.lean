import RelationalModels.Query.Plan

/-!
# What the joins of a plan do to rows

The rows of a table are extended by one joined table after the other. A row matches another when
the two sides of the join are not null and equal; without a match an inner join drops the row and a
left join extends it with nulls. `keepsRows_iff` states when a plan drops no row of its own table,
whatever the tables hold: when all of its joins are left joins.
-/

namespace RelationalModels

variable {V : Type}

/-- The values of a row by column; a null is `none`, and so is a column the row does not have. -/
abbrev Row (V : Type) := String → Option V

abbrev Contents (V : Type) := String → List (Row V)

/-- A row of each table that has been joined so far, under the name that the table goes by. -/
abbrev JoinedRow (V : Type) := List (String × Row V)

def nullRow : Row V := fun _ => none

def JoinedRow.value (b : JoinedRow V) (table column : String) : Option V :=
  (b.lookup table).bind fun row => row column

def JoinedRow.IsNull (b : JoinedRow V) : Prop := ∀ table column, b.value table column = none

theorem JoinedRow.isNull_append {b : JoinedRow V} (hb : b.IsNull) (name : String) :
    JoinedRow.IsNull (b ++ [(name, nullRow)]) := by
  intro table column
  have hvalue := hb table column
  rw [JoinedRow.value] at hvalue ⊢
  rw [List.lookup_append]
  cases hl : b.lookup table with
  | some row => simpa [hl] using hvalue
  | none =>
    by_cases hname : table = name <;> simp [OrderedMap.lookup_entry, hname, nullRow]

section Evaluation

variable [DecidableEq V]

namespace Join

def accepts (j : Join) (b : JoinedRow V) (row : Row V) : Bool :=
  match b.value j.leftTable j.leftColumn, row j.rightColumn with
  | some v, some w => v == w
  | _, _ => false

def partners (db : Contents V) (j : Join) (b : JoinedRow V) : List (Row V) :=
  (db j.rightTable).filter (j.accepts b)

def extend (db : Contents V) (j : Join) (b : JoinedRow V) : List (JoinedRow V) :=
  match j.partners db b, j.kind with
  | [], .left => [b ++ [(j.rightName, nullRow)]]
  | rows, _ => rows.map fun row => b ++ [(j.rightName, row)]

end Join

def evaluate (db : Contents V) : List Join → List (JoinedRow V) → List (JoinedRow V)
  | [], bs => bs
  | j :: js, bs => evaluate db js (bs.flatMap (j.extend db))

namespace QueryPlan

def rows (db : Contents V) (plan : QueryPlan) : List (JoinedRow V) :=
  evaluate db plan.joins ((db plan.table).map fun r => [(plan.baseAlias, r)])

def KeepsRows (db : Contents V) (plan : QueryPlan) : Prop :=
  ∀ r ∈ db plan.table, ∃ b ∈ plan.rows db, b.head? = some (plan.baseAlias, r)

end QueryPlan

/-! ### Left joins keep rows -/

theorem Join.extend_left (db : Contents V) {j : Join} (hleft : j.kind = .left)
    (b : JoinedRow V) : ∃ row, b ++ [(j.rightName, row)] ∈ j.extend db b := by
  cases hp : j.partners db b with
  | nil => exact ⟨nullRow, by simp [Join.extend, hp, hleft]⟩
  | cons row rows => exact ⟨row, by simp [Join.extend, hp]⟩

theorem evaluate_left (db : Contents V) {js : List Join} (hleft : ∀ j ∈ js, j.kind = .left)
    {bs : List (JoinedRow V)} {b : JoinedRow V} (hb : b ∈ bs) :
    ∃ b' ∈ evaluate db js bs, b <+: b' := by
  -- joined rows only grow at their end, so that the row joined first stays the first
  induction js generalizing bs b with
  | nil => exact ⟨b, hb, List.prefix_refl b⟩
  | cons j js ih =>
    obtain ⟨row, hrow⟩ := Join.extend_left db (hleft j (List.mem_cons_self ..)) b
    have hmem : b ++ [(j.rightName, row)] ∈ bs.flatMap (j.extend db) :=
      List.mem_flatMap.mpr ⟨b, hb, hrow⟩
    obtain ⟨b', hb', hprefix⟩ := ih (fun j hj => hleft j (List.mem_cons_of_mem _ hj)) hmem
    exact ⟨b', hb', (List.prefix_append b _).trans hprefix⟩

/-! ### Inner joins drop rows of nulls -/

def nullContents : Contents V := fun _ => [nullRow]

theorem Join.partners_of_isNull {db : Contents V} (j : Join) {b : JoinedRow V} (hb : b.IsNull) :
    j.partners db b = [] := by
  rw [Join.partners, List.filter_eq_nil_iff]
  intro row _
  simp [Join.accepts, hb j.leftTable j.leftColumn]

/-- Rows of nulls match nothing: a left join extends them with nulls, an inner one drops them. -/
theorem Join.extend_of_isNull {db : Contents V} (j : Join) {b : JoinedRow V} (hb : b.IsNull) :
    j.extend db b =
      match j.kind with
      | .left => [b ++ [(j.rightName, nullRow)]]
      | .inner => [] := by
  cases hk : j.kind <;> simp [Join.extend, j.partners_of_isNull hb, hk]

theorem evaluate_nil (db : Contents V) (js : List Join) : evaluate db js [] = [] := by
  induction js with
  | nil => rfl
  | cons j js ih => exact ih

theorem evaluate_inner {db : Contents V} {js : List Join} (hinner : ∃ j ∈ js, j.kind = .inner)
    {b : JoinedRow V} (hb : b.IsNull) : evaluate db js [b] = [] := by
  induction js generalizing b with
  | nil => simp at hinner
  | cons j js ih =>
    rw [evaluate, List.flatMap_singleton, j.extend_of_isNull hb]
    cases hk : j.kind with
    | inner => exact evaluate_nil db js
    | left =>
      refine ih ?_ (JoinedRow.isNull_append hb _)
      obtain ⟨k, hk', hinner⟩ := hinner
      rcases List.mem_cons.mp hk' with rfl | hk'
      · rw [hk] at hinner
        cases hinner
      · exact ⟨k, hk', hinner⟩

/-- A plan keeps the rows of its table, whatever the tables hold, when all joins are left joins. -/
theorem keepsRows_iff (plan : QueryPlan) :
    (∀ db : Contents V, plan.KeepsRows db) ↔ ∀ j ∈ plan.joins, j.kind = .left := by
  constructor
  · intro hkeeps j hj
    cases hk : j.kind with
    | left => rfl
    | inner =>
      -- rows of nulls pass every left join and no inner one
      have hnull : JoinedRow.IsNull [(plan.baseAlias, (nullRow : Row V))] :=
        JoinedRow.isNull_append (b := []) (fun _ _ => rfl) plan.baseAlias
      have hrows : plan.rows (nullContents : Contents V) = [] :=
        evaluate_inner ⟨j, hj, hk⟩ hnull
      obtain ⟨b, hb, -⟩ := hkeeps nullContents nullRow (List.mem_singleton.mpr rfl)
      rw [hrows] at hb
      cases hb
  · intro hleft db r hr
    have hstart : [(plan.baseAlias, r)] ∈ (db plan.table).map fun r => [(plan.baseAlias, r)] :=
      List.mem_map_of_mem hr
    obtain ⟨b, hb, rest, hprefix⟩ := evaluate_left db hleft hstart
    exact ⟨b, hb, by simp [← hprefix]⟩

end Evaluation

end RelationalModels
