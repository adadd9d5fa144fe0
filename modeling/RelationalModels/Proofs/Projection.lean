import RelationalModels.Proofs.Route
import RelationalModels.Query.Resolve

/-!
# What a query selects and joins

A projection is determined by the visits of its model: each scalar that is visited gives one select
entry, and each relation one join, with the join of its junction in front when it goes through one.
`plan_enumerates_visits` says so for the plans of `resolveQuery`.
-/

namespace RelationalModels

/-! ### Names along a route -/

namespace Route

/-- The path of the fields at the end of a route, when that of the fields at its start is `start`. -/
def path (start : String) : Route → String
  | [] => start
  | h :: rest => path (Naming.extendPath start h.traits.name) rest

def tableAlias (base start : String) : Route → String
  | [] => base
  | h :: rest =>
    tableAlias (Naming.joinAlias start h.traits.name) (Naming.extendPath start h.traits.name) rest

theorem tableAlias_append (base start : String) (r : Route) (h : Hop) :
    tableAlias base start (r ++ [h]) = Naming.joinAlias (path start r) h.traits.name := by
  induction r generalizing base start with
  | nil => rfl
  | cons g r ih => exact ih _ _

theorem path_append_name (start : String) (r : Route) (name : String) :
    path start r ++ name = start ++ ".".intercalate (names r ++ [name]) := by
  induction r generalizing start with
  | nil => simp [path, names]
  | cons h r ih =>
    have hne : names r ++ [name] ≠ [] := by simp
    have hnames : names (h :: r) ++ [name] = h.traits.name :: (names r ++ [name]) := rfl
    rw [path, ih, hnames, String.intercalate_cons_of_ne_nil hne]
    simp only [Naming.extendPath, String.append_assoc]

end Route

/-! ### Joins and entries of a visit -/

namespace Hop

def junction (h : Hop) : String := Naming.junctionTableName h.owner.tableName h.traits.name

def junctionJoin (base path : String) (h : Hop) : Join where
  kind := JoinKind.ofRequired h.traits.required
  leftTable := base
  leftColumn := Naming.surrogateKey
  rightTable := h.junction
  rightColumn := Naming.junctionColumn h.owner.tableName
  rightAlias := Naming.junctionAlias? path h.traits.name h.junction

def targetJoin (base path : String) (h : Hop) : Join where
  kind := JoinKind.ofRequired h.traits.required
  leftTable := if h.hasMany then (h.junctionJoin base path).rightName else base
  leftColumn := if h.hasMany then Naming.junctionColumn h.traits.name else h.traits.name
  rightTable := h.target.tableName
  rightColumn := Naming.surrogateKey
  rightAlias := some (Naming.joinAlias path h.traits.name)

def joins (base path : String) (h : Hop) : List Join :=
  if h.hasMany then [h.junctionJoin base path, h.targetJoin base path]
  else [h.targetJoin base path]

theorem joins_of_hasMany {h : Hop} (hmany : h.hasMany = true) (base path : String) :
    h.joins base path = [h.junctionJoin base path, h.targetJoin base path] := by
  rw [joins, if_pos hmany]

theorem joins_of_not_hasMany {h : Hop} (hone : h.hasMany = false) (base path : String) :
    h.joins base path = [h.targetJoin base path] := by
  rw [joins, if_neg (by simp [hone])]

theorem mem_joins {h : Hop} {base path : String} {j : Join} (hj : j ∈ h.joins base path) :
    j = h.targetJoin base path ∨ h.hasMany = true ∧ j = h.junctionJoin base path := by
  cases hmany : h.hasMany with
  | false =>
    rw [joins_of_not_hasMany hmany, List.mem_singleton] at hj
    exact .inl hj
  | true =>
    rw [joins_of_hasMany hmany, List.mem_pair] at hj
    exact hj.symm.imp_right fun hlink => ⟨rfl, hlink⟩

theorem relationJoins_eq_joins (base path : String) (h : Hop) :
    relationJoins base path h.owner.tableName h.traits h.hasMany h.target.tableName =
      h.joins base path := by
  cases hm : h.hasMany <;> simp [relationJoins, joins, junctionJoin, targetJoin, junction, hm]

end Hop

theorem Naming.joinAlias_ne_empty {name : String} (h : name ≠ "") (path : String) :
    Naming.joinAlias path name ≠ "" := by
  rw [Naming.joinAlias]
  by_cases hhops : Naming.hops path = []
  · simpa [hhops] using h
  · rw [String.intercalate_append_of_ne_nil hhops (by simp)]
    simp [h]

theorem Hop.targetJoin_rightName {h : Hop} (hname : h.traits.name ≠ "") (base path : String) :
    (h.targetJoin base path).rightName = Naming.joinAlias path h.traits.name := by
  have hne : (Naming.joinAlias path h.traits.name).isEmpty = false := by
    simpa using Naming.joinAlias_ne_empty hname path
  simp [Join.rightName, Join.alias?, Hop.targetJoin, Option.filter, hne]

theorem Hop.joins_getLast? (base path : String) (h : Hop) :
    (h.joins base path).getLast? = some (h.targetJoin base path) := by
  cases hmany : h.hasMany with
  | false => rw [Hop.joins_of_not_hasMany hmany, List.getLast?_singleton]
  | true =>
    rw [Hop.joins_of_hasMany hmany]
    rfl

theorem JoinKind.ofRequired_eq_inner_iff (required : Bool) :
    JoinKind.ofRequired required = .inner ↔ required = true := by
  cases required <;> simp [JoinKind.ofRequired]

theorem JoinKind.ofRequired_eq_left_iff (required : Bool) :
    JoinKind.ofRequired required = .left ↔ required = false := by
  cases required <;> simp [JoinKind.ofRequired]

theorem Hop.joins_kind {h : Hop} {base path : String} {j : Join} (hj : j ∈ h.joins base path) :
    j.kind = JoinKind.ofRequired h.traits.required := by
  rcases Hop.mem_joins hj with rfl | ⟨-, rfl⟩ <;> rfl

namespace Visit

def label (v : Visit) : String := ".".intercalate v.names

def entries : Visit → List String
  | v@(column _ _ traits) => [Naming.selectExpression traits.name v.label]
  | relation _ _ => []

def joins (base : String) : Visit → List Join
  | column _ _ _ => []
  | relation route h => h.joins (Route.tableAlias base "" route) (Route.path "" route)

end Visit

/-! ### Projections are visits -/

namespace Projection

theorem append_def (p q : Projection) : p ++ q = ⟨p.selects ++ q.selects, p.joins ++ q.joins⟩ := rfl

def ofVisit (base start : String) : Visit → Projection
  | .column route _ traits =>
    ⟨[Naming.selectExpression traits.name
      (Naming.columnAlias (Route.path start route) traits.name)], []⟩
  | .relation route h =>
    ⟨[], h.joins (Route.tableAlias base start route) (Route.path start route)⟩

def ofVisits (base start : String) (vs : List Visit) : Projection :=
  ⟨vs.flatMap fun v => (ofVisit base start v).selects,
   vs.flatMap fun v => (ofVisit base start v).joins⟩

theorem ofVisits_append (base start : String) (vs ws : List Visit) :
    ofVisits base start (vs ++ ws) = ofVisits base start vs ++ ofVisits base start ws := by
  simp [ofVisits, append_def]

/-- Behind a hop, tables and paths start where the hop ends. -/
theorem ofVisits_behind (base start : String) (h : Hop) (vs : List Visit) :
    ofVisits base start (vs.map (Visit.behind h)) =
      ofVisits (Naming.joinAlias start h.traits.name) (Naming.extendPath start h.traits.name)
        vs := by
  have hone : ∀ v : Visit, ofVisit base start (v.behind h) =
      ofVisit (Naming.joinAlias start h.traits.name) (Naming.extendPath start h.traits.name) v := by
    intro v
    cases v <;> rfl
  simp [ofVisits, List.flatMap_map, hone]

theorem ofVisits_cons (base start : String) (v : Visit) (vs : List Visit) :
    ofVisits base start (v :: vs) = ofVisit base start v ++ ofVisits base start vs := by
  simp [ofVisits, append_def]

end Projection

/-- A projector answers, when it answers, what visits add. -/
def Projector.Gives (deeper : Projector) (next : Model → List Visit) : Prop :=
  ∀ m base start p, deeper m base start = .ok p → p = Projection.ofVisits base start (next m)

theorem projectField_visits {models : Models} {deeper? : Option Projector}
    {next? : Option (Model → List Visit)} (hdeeper : Option.Rel Projector.Gives deeper? next?)
    {m : Model} {base start : String} {f : Field} {p : Projection}
    (h : projectField models deeper? m base start f = .ok p) :
    p = .ofVisits base start (fieldVisits models next? m f) := by
  cases f with
  | scalar t type d =>
    simp only [projectField, Except.ok.injEq] at h
    rw [← h]
    rfl
  | relation t target hasMany d =>
    cases hdeeper with
    | none =>
      simp only [projectField, Except.ok.injEq] at h
      rw [← h]
      rfl
    | @some deeper next hgives =>
      cases hm : models.get? target with
      | none => simp [projectField, hm] at h
      | some tm =>
        cases hd : deeper tm (Naming.joinAlias start t.name) (Naming.extendPath start t.name) with
        | error e => simp [projectField, hm, hd] at h
        | ok inner =>
          simp only [projectField, hm, hd, Except.ok.injEq] at h
          have hinner := hgives _ _ _ _ hd
          simp only [fieldVisits, hm, Projection.ofVisits_cons, Projection.ofVisits_behind]
          rw [← h, hinner]
          have hjoins := Hop.relationJoins_eq_joins base start ⟨m, t, hasMany, tm⟩
          simp only at hjoins
          rw [hjoins]
          rfl

theorem projectFields_cons (models : Models) (template : OrderedMap Value)
    (deeper? : Option Projector) (m : Model) (base start name : String) (raw : OrderedMap Value)
    (rest : List (String × OrderedMap Value)) :
    projectFields models template deeper? m base start ((name, raw) :: rest) =
      match Field.resolve name raw template m.id with
      | .error e => .error e
      | .ok field =>
        match projectField models deeper? m base start field with
        | .error e => .error e
        | .ok first =>
          match projectFields models template deeper? m base start rest with
          | .error e => .error e
          | .ok others => .ok (first ++ others) := by
  -- stated because the definition's own equations take Lean long to derive
  rfl

theorem projectFields_cons_eq_ok {models : Models} {template : OrderedMap Value}
    {deeper? : Option Projector} {m : Model} {base start name : String} {raw : OrderedMap Value}
    {rest : List (String × OrderedMap Value)} {p : Projection} :
    projectFields models template deeper? m base start ((name, raw) :: rest) = .ok p ↔
      ∃ f first others, Field.resolve name raw template m.id = .ok f ∧
        projectField models deeper? m base start f = .ok first ∧
        projectFields models template deeper? m base start rest = .ok others ∧
        p = first ++ others := by
  rw [projectFields_cons]
  constructor
  · intro h
    cases hf : Field.resolve name raw template m.id with
    | error e => simp [hf] at h
    | ok f =>
      cases hfirst : projectField models deeper? m base start f with
      | error e => simp [hf, hfirst] at h
      | ok first =>
        cases hrest : projectFields models template deeper? m base start rest with
        | error e => simp [hf, hfirst, hrest] at h
        | ok others =>
          simp only [hf, hfirst, hrest, Except.ok.injEq] at h
          exact ⟨f, first, others, rfl, hfirst, rfl, h.symm⟩
  · rintro ⟨f, first, others, hf, hfirst, hrest, rfl⟩
    simp only [hf, hfirst, hrest]

theorem projectFields_visits {models : Models} {template : OrderedMap Value}
    {deeper? : Option Projector} {next? : Option (Model → List Visit)}
    (hdeeper : Option.Rel Projector.Gives deeper? next?) {m : Model} {base start : String}
    {entries : List (String × OrderedMap Value)} {p : Projection}
    (h : projectFields models template deeper? m base start entries = .ok p) :
    p = .ofVisits base start
      ((entries.filterMap fun e => (Field.resolve e.1 e.2 template m.id).toOption).flatMap
        (fieldVisits models next? m)) := by
  induction entries generalizing p with
  | nil => exact (Except.ok.inj h).symm
  | cons e rest ih =>
    obtain ⟨f, first, others, hf, hfirst, hrest, rfl⟩ := projectFields_cons_eq_ok.mp h
    rw [projectField_visits hdeeper hfirst, ih hrest]
    simp [hf, Except.toOption, Projection.ofVisits_append]

/-- A projection adds, for each visit within its depth, what that visit adds. -/
theorem project_visits {models : Models} {template : OrderedMap Value} (depth : Nat) :
    Projector.Gives (project models template depth) (visits models template depth) := by
  induction depth with
  | zero =>
    intro m base start p h
    exact projectFields_visits Option.Rel.none h
  | succ depth ih =>
    intro m base start p h
    exact projectFields_visits (Option.Rel.some ih) h

theorem Projection.ofVisits_top (base : String) (vs : List Visit) :
    Projection.ofVisits base "" vs = ⟨vs.flatMap Visit.entries, vs.flatMap (Visit.joins base)⟩ := by
  have hselects : ∀ v : Visit, (ofVisit base "" v).selects = v.entries := by
    intro v
    cases v with
    | column r m t =>
      simp only [ofVisit, Visit.entries, Naming.columnAlias, Route.path_append_name,
        String.empty_append, Visit.label, Visit.names, Visit.route, Visit.name]
    | relation r h => rfl
  have hjoins : ∀ v : Visit, (ofVisit base "" v).joins = v.joins base := by
    intro v
    cases v <;> rfl
  simp [ofVisits, hselects, hjoins]

/-! ### Plans -/

theorem resolveQuery_eq_ok {sources : OrderedMap ModelSource} {name : String}
    {options : QueryOptions} {template : OrderedMap Value} {depth : Int} {plan : QueryPlan}
    (h : resolveQuery sources name options template depth = .ok plan) :
    ∃ models model p, 0 ≤ depth ∧ parseModels sources = .ok models ∧
      models.get? name = some model ∧
      project models template depth.toNat model (options.baseAlias.getD name) "" = .ok p ∧
      plan =
        { model := name
          table := model.tableName
          baseAlias := options.baseAlias.getD name
          selectColumns := options.select.getD p.selects
          joins := options.joins.getD p.joins
          passthrough := options.passthrough } := by
  unfold resolveQuery at h
  by_cases hneg : depth < 0
  · simp [hneg] at h
  · simp only [hneg, if_false] at h
    cases hparse : parseModels sources with
    | error e => simp [hparse] at h
    | ok models =>
      simp only [hparse] at h
      cases hget : models.get? name with
      | none => simp [Models.plan, hget] at h
      | some model =>
        simp only [Models.plan, hget] at h
        cases hp : project models template depth.toNat model (options.baseAlias.getD name) "" with
        | error e => simp [hp] at h
        | ok p =>
          simp only [hp, Except.ok.injEq] at h
          exact ⟨models, model, p, by omega, rfl, hget, hp, h.symm⟩

theorem plan_visits {sources : OrderedMap ModelSource} {models : Models} {name : String}
    {options : QueryOptions} {template : OrderedMap Value} {depth : Int} {plan : QueryPlan}
    (h : resolveQuery sources name options template depth = .ok plan)
    (hparse : parseModels sources = .ok models) :
    ∃ model vs, models.get? name = some model ∧ model ∈ models.values ∧
      DepthFirst models template depth.toNat model vs ∧
      plan.table = model.tableName ∧ plan.baseAlias = options.baseAlias.getD name ∧
      (options.select = none → plan.selectColumns = vs.flatMap Visit.entries) ∧
      (options.joins = none → plan.joins = vs.flatMap (Visit.joins plan.baseAlias)) := by
  obtain ⟨models', model, p, -, hparse', hget, hp, rfl⟩ := resolveQuery_eq_ok h
  obtain rfl : models = models' := Except.ok.inj (hparse.symm.trans hparse')
  have hvisits := project_visits _ _ _ _ _ hp
  rw [Projection.ofVisits_top] at hvisits
  refine ⟨model, _, hget, OrderedMap.mem_values_of_get? hget,
    visits_depthFirst models template depth.toNat model, rfl, rfl, ?_, ?_⟩
  · intro hselect
    simp [hselect, hvisits]
  · intro hjoins
    simp [hjoins, hvisits]

/--
Without overrides, the select entries and the joins of a plan are those of the depth-first
traversal of its model, one after the other.
-/
theorem plan_enumerates_visits {sources : OrderedMap ModelSource} {name : String}
    {options : QueryOptions} {template : OrderedMap Value} {depth : Int} {plan : QueryPlan}
    (h : resolveQuery sources name options template depth = .ok plan)
    (hselect : options.select = none) (hjoins : options.joins = none) :
    ∃ models model vs, parseModels sources = .ok models ∧ models.get? name = some model ∧
      DepthFirst models template depth.toNat model vs ∧
      plan.selectColumns = vs.flatMap Visit.entries ∧
      plan.joins = vs.flatMap (Visit.joins plan.baseAlias) := by
  obtain ⟨models, -, -, -, hparse, -⟩ := resolveQuery_eq_ok h
  obtain ⟨model, vs, hget, -, hvs, -, -, hs, hj⟩ := plan_visits h hparse
  exact ⟨models, model, vs, hparse, hget, hvs, hs hselect, hj hjoins⟩

/-! ### Two models that lead to each other and to themselves -/

def Model.ofFields (fields : List (String × OrderedMap Value)) : Model where
  id := none
  table := none
  fields := .ofList fields
  collation := none
  comment := none
  labels := ⟨none, none⟩

def declaredRelation (target : String) (hasMany required : Bool) : OrderedMap Value :=
  .ofList [("type", .text "relation"), ("data", .text target), ("hasMany", .bool hasMany),
    ("required", .bool required)]

def mentoring : OrderedMap ModelSource :=
  .ofList
    [("tag", .admitted (.ofFields [("label", .empty)])),
     ("user", .admitted (.ofFields
       [("mentor", declaredRelation "user" false true), ("name", .empty),
        ("tags", declaredRelation "tag" true false)]))]

def mentoringPlan : QueryPlan where
  model := "user"
  table := "user"
  baseAlias := "user"
  selectColumns :=
    ["name AS 'mentor.mentor.name'", "name AS 'mentor.name'", "label AS 'mentor.tags.label'",
     "name AS 'name'", "label AS 'tags.label'"]
  joins :=
    [⟨.inner, "user", "mentor", "user", "id", some "mentor"⟩,
     ⟨.inner, "mentor", "mentor", "user", "id", some "mentor__mentor"⟩,
     ⟨.left, "mentor", "id", "user_tags", "id_user", some "mentor__tags__user_tags"⟩,
     ⟨.left, "mentor__tags__user_tags", "id_tags", "tag", "id", some "mentor__tags"⟩,
     ⟨.left, "user", "id", "user_tags", "id_user", none⟩,
     ⟨.left, "user_tags", "id_tags", "tag", "id", some "tags"⟩]

theorem mentoring_resolves :
    resolveQuery mentoring "user" {} defaultTemplate 2 = .ok mentoringPlan := by
  decide +kernel

theorem mentoring_enumerates_visits :
    resolveQuery mentoring "user" {} defaultTemplate 2 = .ok mentoringPlan ∧
      ∃ models model vs, parseModels mentoring = .ok models ∧
        models.get? "user" = some model ∧ DepthFirst models defaultTemplate 2 model vs ∧
        mentoringPlan.selectColumns = vs.flatMap Visit.entries ∧
        mentoringPlan.joins = vs.flatMap (Visit.joins mentoringPlan.baseAlias) :=
  ⟨mentoring_resolves, plan_enumerates_visits mentoring_resolves rfl rfl⟩

end RelationalModels
