import RelationalModels.Proofs.FromClause
import RelationalModels.Proofs.Obstacles

/-!
# Overrides

The options of a query replace parts of its plan. `overrides_replace` states that they do nothing
else: a query fails with them as it fails without them, and otherwise each option takes the place of
one part of the plan. Another name for the model's own table is written where a join leaves that
table, and nowhere else, whatever other tables are called.
-/

namespace RelationalModels

/-! ### Joins that leave the model's own table -/

/--
The joins of a visit, when that which leaves the model's own table leaves a table called `base`.
This is the first join of a relation of the model itself, to its junction where it goes through one.
-/
def Visit.leavingFrom (base : String) : Visit → List Join → List Join
  | .relation [] _, link :: rest => { link with leftTable := base } :: rest
  | _, js => js

theorem Visit.joins_eq_leavingFrom (base other : String) (v : Visit) :
    v.joins base = v.leavingFrom base (v.joins other) := by
  cases v with
  | column route owner traits => rfl
  | relation route h =>
    cases route with
    | cons g route => rfl
    | nil =>
      have hown : ∀ b, (Visit.relation [] h).joins b = h.joins b "" := fun b => rfl
      rw [hown, hown]
      cases hmany : h.hasMany with
      | false =>
        have hleft : h.targetJoin base "" = { h.targetJoin other "" with leftTable := base } := by
          simp [Hop.targetJoin, hmany]
        rw [Hop.joins_of_not_hasMany hmany, Hop.joins_of_not_hasMany hmany, hleft]
        rfl
      | true =>
        -- the second join leaves the junction, whose name depends on the path alone
        have hsecond : h.targetJoin base "" = h.targetJoin other "" := by
          simp only [Hop.targetJoin, hmany, if_true]
          rfl
        rw [Hop.joins_of_hasMany hmany, Hop.joins_of_hasMany hmany, hsecond]
        rfl

/-! ### Plans -/

/-- The plan that options make of a plan without options, whose joins are those of some visits. -/
def QueryPlan.overridden (plain : QueryPlan) (options : QueryOptions) (vs : List Visit) :
    QueryPlan :=
  let ownJoins :=
    match options.baseAlias with
    | none => plain.joins
    | some base => vs.flatMap fun v => v.leavingFrom base (v.joins plain.baseAlias)
  { plain with
    baseAlias := options.baseAlias.getD plain.baseAlias
    selectColumns := options.select.getD plain.selectColumns
    joins := options.joins.getD ownJoins
    passthrough := options.passthrough }

theorem resolveQuery_overridden {sources : OrderedMap ModelSource} {name : String}
    {template : OrderedMap Value} {depth : Int} {plain : QueryPlan}
    (h : resolveQuery sources name {} template depth = .ok plain) (options : QueryOptions) :
    ∃ models model, parseModels sources = .ok models ∧ models.get? name = some model ∧
      plain =
        { model := name
          table := model.tableName
          baseAlias := name
          selectColumns := (visits models template depth.toNat model).flatMap Visit.entries
          joins := (visits models template depth.toNat model).flatMap (Visit.joins name) } ∧
      resolveQuery sources name options template depth =
        .ok (plain.overridden options (visits models template depth.toNat model)) := by
  -- whether there is a plan does not depend on the options
  obtain ⟨plan, hplan⟩ : ∃ plan, resolveQuery sources name options template depth = .ok plan :=
    resolveQuery_ok_iff.mpr (resolveQuery_ok_iff.mp ⟨plain, h⟩)
  obtain ⟨models, model, p, -, hparse, hget, hp, rfl⟩ := resolveQuery_eq_ok h
  obtain ⟨models', model', q, -, hparse', hget', hq, rfl⟩ := resolveQuery_eq_ok hplan
  obtain rfl := Except.ok.inj (hparse.symm.trans hparse')
  obtain rfl := Option.some.inj (hget.symm.trans hget')
  have hwithout := project_visits _ _ _ _ _ hp
  have hwith := project_visits _ _ _ _ _ hq
  rw [Projection.ofVisits_top] at hwithout hwith
  subst hwithout hwith
  refine ⟨models, model, hparse, hget, rfl, ?_⟩
  rw [hplan, QueryPlan.overridden]
  cases hbase : options.baseAlias with
  | none => rfl
  | some base =>
    have hjoins : Visit.joins base = fun v => v.leavingFrom base (v.joins name) :=
      funext fun v => v.joins_eq_leavingFrom base name
    simp only [Option.getD_some, Option.getD_none, hjoins]

/--
A query has a plan with options exactly when it has one without, and fails with the same error
otherwise. The plan with options is the other one with some parts replaced: its select entries, its
joins, the name of the model's own table and what is passed through. A name that is supplied also
takes the place of the former one on the left of the joins that leave the model's own table.
-/
theorem overrides_replace (sources : OrderedMap ModelSource) (name : String)
    (options : QueryOptions) (template : OrderedMap Value) (depth : Int) :
    (∃ e, resolveQuery sources name {} template depth = .error e ∧
        resolveQuery sources name options template depth = .error e) ∨
      ∃ models model vs plain, parseModels sources = .ok models ∧
        models.get? name = some model ∧ DepthFirst models template depth.toNat model vs ∧
        plain =
          { model := name
            table := model.tableName
            baseAlias := name
            selectColumns := vs.flatMap Visit.entries
            joins := vs.flatMap (Visit.joins name) } ∧
        resolveQuery sources name {} template depth = .ok plain ∧
        resolveQuery sources name options template depth = .ok (plain.overridden options vs) := by
  cases h : resolveQuery sources name {} template depth with
  | error e => exact Or.inl ⟨e, rfl, (resolveQuery_refused h).resolveQuery_eq options⟩
  | ok plain =>
    obtain ⟨models, model, hparse, hget, hplain, hplan⟩ := resolveQuery_overridden h options
    exact Or.inr ⟨models, model, _, plain, hparse, hget,
      visits_depthFirst models template depth.toNat model, hplain, rfl, hplan⟩

-- comments on comments go by the name of their model, which stays where it names the joined table
example : (resolveQuery comments "comment" { baseAlias := some "c" } defaultTemplate 2).toOption.map
      QueryPlan.joins =
    some [⟨.left, "c", "comment", "comment", "id", some "comment"⟩,
      ⟨.left, "comment", "comment", "comment", "id", some "comment__comment"⟩] := by
  decide +kernel

end RelationalModels
