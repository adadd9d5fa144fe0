import Mathlib.Data.List.Flatten
import RelationalModels.Proofs.Obstacles

/-!
# Deeper queries

With more hops permitted, what lies behind the relations at the end is put between what was there
before. `deeper_plan_adds` states that nothing else changes: taking from the plan of a deeper query
what the longer routes gave leaves exactly the plan of the shallower one.
-/

namespace RelationalModels

/-- The number of relations on the way to a visit; a relation that is visited is one of them. -/
def Visit.hops : Visit → Nat
  | .column route _ _ => route.length
  | .relation route _ => route.length + 1

section Depth

variable {models : Models} {template : OrderedMap Value} {depth deeper : Nat} {m : Model}

theorem Visit.within_iff_hops (h : depth ≤ deeper) (v : Visit) :
    v.Within models template depth m ↔
      v.Within models template deeper m ∧ v.hops ≤ depth := by
  cases v with
  | column route owner traits =>
    constructor
    · rintro ⟨hlength, hrest⟩
      exact ⟨⟨Nat.le_trans hlength h, hrest⟩, hlength⟩
    · rintro ⟨⟨-, hrest⟩, hlength⟩
      exact ⟨hlength, hrest⟩
  | relation route hop =>
    constructor
    · rintro ⟨hlength, hrest⟩
      exact ⟨⟨Nat.le_trans hlength h, hrest⟩, hlength⟩
    · rintro ⟨⟨-, hrest⟩, hlength⟩
      exact ⟨hlength, hrest⟩

/-- The shallower traversal is the deeper one without the visits that are too far away. -/
theorem visits_eq_filter (h : depth ≤ deeper) (m : Model) :
    visits models template depth m =
      (visits models template deeper m).filter fun v => v.hops ≤ depth := by
  have hsorted := visits_sorted models template depth m
  have hdeeper := (visits_sorted models template deeper m).filter fun v => v.hops ≤ depth
  have hnodup : ∀ {vs : List Visit}, vs.Pairwise (fun v w => v.place < w.place) → vs.Nodup := by
    intro vs hvs
    apply hvs.imp
    intro v w hlt heq
    subst heq
    exact List.lt_irrefl _ hlt
  -- both are in the order of places, so that they are equal when they have the same visits
  have hperm : (visits models template depth m).Perm
      ((visits models template deeper m).filter fun v => v.hops ≤ depth) := by
    rw [List.perm_ext_iff_of_nodup (hnodup hsorted) (hnodup hdeeper)]
    intro v
    rw [List.mem_filter, mem_visits_iff, mem_visits_iff, decide_eq_true_iff]
    exact Visit.within_iff_hops h v
  refine hperm.eq_of_pairwise ?_ hsorted hdeeper
  intro v w _ _ hlt hgt
  exact absurd (List.lt_trans hlt hgt) (List.lt_irrefl _)

theorem Model.Resolvable.mono (h : depth ≤ deeper) (hm : m.Resolvable models template deeper) :
    m.Resolvable models template depth where
  fields r hfrom hlength := hm.fields r hfrom (Nat.le_trans hlength h)
  targets r hfrom hlength := hm.targets r hfrom (Nat.lt_of_lt_of_le hlength h)

end Depth

theorem resolveQuery_of_deeper {sources : OrderedMap ModelSource} {name : String}
    {options : QueryOptions} {template : OrderedMap Value} {depth deeper : Nat} {deep : QueryPlan}
    (h : resolveQuery sources name options template deeper = .ok deep) (hle : depth ≤ deeper) :
    ∃ plan, resolveQuery sources name options template depth = .ok plan := by
  obtain ⟨-, models, model, hparse, hget, hmodel⟩ := resolveQuery_ok_iff.mp ⟨deep, h⟩
  rw [Int.toNat_natCast] at hmodel
  refine resolveQuery_ok_iff.mpr ⟨Int.natCast_nonneg depth, models, model, hparse, hget, ?_⟩
  rw [Int.toNat_natCast]
  exact hmodel.mono hle

/--
Without overrides, a model that can be read over some hops can be read over fewer. The plan for
fewer hops is the other one without the select entries and joins that lie further away, in the same
order and unchanged.
-/
theorem deeper_plan_adds {sources : OrderedMap ModelSource} {name : String}
    {options : QueryOptions} {template : OrderedMap Value} {depth deeper : Nat} {deep : QueryPlan}
    (h : resolveQuery sources name options template deeper = .ok deep)
    (hselect : options.select = none) (hjoins : options.joins = none) (hle : depth ≤ deeper) :
    ∃ models model vs, parseModels sources = .ok models ∧ models.get? name = some model ∧
      DepthFirst models template deeper model vs ∧
      deep.selectColumns = vs.flatMap Visit.entries ∧
      deep.joins = vs.flatMap (Visit.joins deep.baseAlias) ∧
      ∃ plan, resolveQuery sources name options template depth = .ok plan ∧
        plan = { deep with
          selectColumns := (vs.filter fun v => v.hops ≤ depth).flatMap Visit.entries
          joins := (vs.filter fun v => v.hops ≤ depth).flatMap (Visit.joins deep.baseAlias) } ∧
        plan.selectColumns.Sublist deep.selectColumns ∧ plan.joins.Sublist deep.joins := by
  obtain ⟨plan, hplan⟩ := resolveQuery_of_deeper h hle
  obtain ⟨models, model, p, -, hparse, hget, hp, hdeep⟩ := resolveQuery_eq_ok h
  obtain ⟨models', model', q, -, hparse', hget', hq, hshallow⟩ := resolveQuery_eq_ok hplan
  obtain rfl := Except.ok.inj (hparse.symm.trans hparse')
  obtain rfl := Option.some.inj (hget.symm.trans hget')
  have hall := project_visits _ _ _ _ _ hp
  have hnear := project_visits _ _ _ _ _ hq
  rw [Projection.ofVisits_top, Int.toNat_natCast] at hall hnear
  rw [visits_eq_filter hle] at hnear
  have hselects : deep.selectColumns = p.selects := by rw [hdeep, hselect]; rfl
  have hlinks : deep.joins = p.joins := by rw [hdeep, hjoins]; rfl
  have halias : deep.baseAlias = options.baseAlias.getD name := by rw [hdeep]
  have hless : plan = { deep with selectColumns := q.selects, joins := q.joins } := by
    rw [hshallow, hdeep, hselect, hjoins]
    rfl
  refine ⟨models, model, visits models template deeper model, hparse, hget,
    visits_depthFirst models template deeper model, ?_, ?_, plan, hplan, ?_, ?_, ?_⟩
  · rw [hselects, hall]
  · rw [hlinks, hall, halias]
  · rw [hless, hnear, halias]
  · rw [hless, hselects, hnear, hall]
    exact List.filter_sublist.flatMap _
  · rw [hless, hlinks, hnear, hall]
    exact List.filter_sublist.flatMap _

theorem mentoring_plan_adds :
    resolveQuery mentoring "user" {} defaultTemplate 2 = .ok mentoringPlan ∧
      ∃ models model vs, parseModels mentoring = .ok models ∧ models.get? "user" = some model ∧
        DepthFirst models defaultTemplate 2 model vs ∧
        mentoringPlan.selectColumns = vs.flatMap Visit.entries ∧
        mentoringPlan.joins = vs.flatMap (Visit.joins mentoringPlan.baseAlias) ∧
        ∃ plan, resolveQuery mentoring "user" {} defaultTemplate 1 = .ok plan ∧
          plan = { mentoringPlan with
            selectColumns := (vs.filter fun v => v.hops ≤ 1).flatMap Visit.entries
            joins := (vs.filter fun v => v.hops ≤ 1).flatMap
              (Visit.joins mentoringPlan.baseAlias) } ∧
          plan.selectColumns.Sublist mentoringPlan.selectColumns ∧
          plan.joins.Sublist mentoringPlan.joins := by
  have hdeep : resolveQuery mentoring "user" {} defaultTemplate (2 : Nat) = .ok mentoringPlan :=
    mentoring_resolves
  have hle : 1 ≤ 2 := by decide
  exact ⟨mentoring_resolves, deeper_plan_adds hdeep rfl rfl hle⟩

end RelationalModels
