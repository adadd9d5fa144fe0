import RelationalModels.Proofs.Agreement
import RelationalModels.Proofs.Demands
import RelationalModels.Proofs.Partition

/-!
# Where a query gets stuck

Projecting a model stops at the first obstacle on its way: a field that does not settle, or a
relation to follow whose target is missing. Obstacles lie at the end of routes; a relation is an
obstacle only where one more hop is permitted. `query_fails_at_first_obstacle` states that a query
has a plan exactly when there is no obstacle within its depth, and that otherwise the one met first
in depth-first order is reported.
-/

namespace RelationalModels

namespace Model

def Unsettled (template : OrderedMap Value) (m : Model) (name : String) (e : ModelError) : Prop :=
  ∃ raw, (name, raw) ∈ m.fields.entries ∧ Field.resolve name raw template m.id = .error e

def Dangling (models : Models) (template : OrderedMap Value) (m : Model) (name : String)
    (e : ModelError) : Prop :=
  ∃ f target, m.Declares template f ∧ f.traits.name = name ∧ f.target? = some target ∧
    target ∉ models.names ∧ e = .unknownTarget target ⟨m.id, some name⟩

end Model

structure Obstacle where
  route : Route
  owner : Model
  name : String
  error : ModelError

namespace Obstacle

def place (o : Obstacle) : List Nat :=
  o.route.map (fun h => h.owner.position h.traits.name) ++ [o.owner.position o.name]

def behind (h : Hop) (o : Obstacle) : Obstacle := { o with route := h :: o.route }

/--
The obstacle lies on the way of a projection over `depth` hops from a model. Fields are settled in
all models that are reached, but targets are only looked up where one more hop is permitted.
-/
def Within (models : Models) (template : OrderedMap Value) (depth : Nat) (m : Model)
    (o : Obstacle) : Prop :=
  Route.From models template m o.route ∧ Route.last m o.route = o.owner ∧
    (o.route.length ≤ depth ∧ o.owner.Unsettled template o.name o.error ∨
      o.route.length < depth ∧ o.owner.Dangling models template o.name o.error)

@[simp] theorem place_behind (h : Hop) (o : Obstacle) :
    (behind h o).place = h.owner.position h.traits.name :: o.place := by
  rfl

end Obstacle

/-! ### Enumeration -/

/--
The obstacles to which a declared field leads: itself when it does not settle, or when it is a
relation whose target is missing. `deeper?` lists those of a target.
-/
def obstaclesOf (models : Models) (deeper? : Option (Model → List Obstacle)) (m : Model)
    (name : String) : Except ModelError Field → List Obstacle
  | .error e => [⟨[], m, name, e⟩]
  | .ok (.scalar _ _ _) => []
  | .ok (.relation traits target hasMany _) =>
    match deeper? with
    | none => []
    | some deeper =>
      match models.get? target with
      | none => [⟨[], m, name, .unknownTarget target ⟨m.id, some traits.name⟩⟩]
      | some targetModel =>
        (deeper targetModel).map (Obstacle.behind ⟨m, traits, hasMany, targetModel⟩)

def fieldObstacles (models : Models) (template : OrderedMap Value)
    (deeper? : Option (Model → List Obstacle)) (m : Model) : List Obstacle :=
  m.fields.entries.flatMap fun e =>
    obstaclesOf models deeper? m e.1 (Field.resolve e.1 e.2 template m.id)

def obstacles (models : Models) (template : OrderedMap Value) :
    (depth : Nat) → Model → List Obstacle
  | 0, m => fieldObstacles models template none m
  | depth + 1, m => fieldObstacles models template (some (obstacles models template depth)) m

section Enumeration

variable {models : Models} {template : OrderedMap Value} {depth : Nat} {m : Model}
  {deeper? : Option (Model → List Obstacle)} {o : Obstacle}

theorem mem_fieldObstacles_iff : o ∈ fieldObstacles models template deeper? m ↔
    (∃ name e, m.Unsettled template name e ∧ o = ⟨[], m, name, e⟩) ∨
    ∃ deeper, deeper? = some deeper ∧
      ((∃ name e, m.Dangling models template name e ∧ o = ⟨[], m, name, e⟩) ∨
        ∃ h : Hop, h.owner = m ∧ h.Follows models template ∧
          ∃ w ∈ deeper h.target, o = Obstacle.behind h w) := by
  rw [fieldObstacles, List.mem_flatMap]
  constructor
  · rintro ⟨⟨name, raw⟩, he, ho⟩
    dsimp only at ho
    cases hf : Field.resolve name raw template m.id with
    | error e =>
      rw [hf] at ho
      exact Or.inl ⟨name, e, ⟨raw, he, hf⟩, List.mem_singleton.mp ho⟩
    | ok f =>
      rw [hf] at ho
      have hname := Field.resolve_traits_name hf
      subst hname
      have hdeclares : m.Declares template f := ⟨raw, he, hf⟩
      cases f with
      | scalar traits type default => cases ho
      | relation traits target hasMany default =>
        -- where relations are not followed no target is looked up, and none can be missing
        cases deeper? with
        | none => cases ho
        | some deeper =>
          refine Or.inr ⟨deeper, rfl, ?_⟩
          cases hget : models.get? target with
          | none =>
            have htarget := OrderedMap.get?_eq_none_iff.mp hget
            simp only [obstaclesOf, hget, List.mem_singleton] at ho
            exact Or.inl ⟨_, _, ⟨_, target, hdeclares, rfl, rfl, htarget, rfl⟩, ho⟩
          | some targetModel =>
            simp only [obstaclesOf, hget, List.mem_map] at ho
            obtain ⟨w, hw, rfl⟩ := ho
            exact Or.inr ⟨_, rfl, ⟨target, default, hdeclares, hget⟩, w, hw, rfl⟩
  · rintro (⟨name, e, ⟨raw, he, hf⟩, rfl⟩ | ⟨deeper, rfl, hlooked⟩)
    · exact ⟨(name, raw), he, by simp only [hf, obstaclesOf, List.mem_singleton]⟩
    · rcases hlooked with ⟨name, e, hdangling, rfl⟩ | ⟨h, rfl, hfollows, w, hw, rfl⟩
      · obtain ⟨f, target, ⟨raw, he, hf⟩, rfl, htarget, hmissing, rfl⟩ := hdangling
        have hget := OrderedMap.get?_eq_none_iff.mpr hmissing
        refine ⟨_, he, ?_⟩
        cases f with
        | scalar traits type default => cases htarget
        | relation traits name hasMany default =>
          obtain rfl : name = target := Option.some.inj htarget
          simp only [hf, obstaclesOf, hget, List.mem_singleton]
          rfl
      · obtain ⟨target, default, ⟨raw, he, hf⟩, hget⟩ := hfollows
        refine ⟨_, he, ?_⟩
        simp only [hf, obstaclesOf, hget, List.mem_map]
        exact ⟨w, hw, rfl⟩

theorem Obstacle.within_behind_iff {h : Hop} (hf : h.Follows models template) {w : Obstacle} :
    (Obstacle.behind h w).Within models template (depth + 1) h.owner ↔
      w.Within models template depth h.target := by
  simp [Obstacle.behind, Obstacle.Within, Route.From, Route.last, hf]

theorem Obstacle.within_zero_iff : o.Within models template 0 m ↔
    ∃ name e, m.Unsettled template name e ∧ o = ⟨[], m, name, e⟩ := by
  obtain ⟨route, owner, name, e⟩ := o
  constructor
  · rintro ⟨-, hlast, ⟨hlength, hunsettled⟩ | ⟨hlength, -⟩⟩
    · obtain rfl : route = [] := List.length_eq_zero_iff.mp (Nat.le_zero.mp hlength)
      obtain rfl : m = owner := hlast
      exact ⟨name, e, hunsettled, rfl⟩
    · exact absurd hlength (Nat.not_lt_zero _)
  · rintro ⟨name, e, hunsettled, ho⟩
    cases ho
    exact ⟨trivial, rfl, Or.inl ⟨Nat.le_refl 0, hunsettled⟩⟩

theorem Obstacle.within_succ_iff : o.Within models template (depth + 1) m ↔
    (∃ name e, m.Unsettled template name e ∧ o = ⟨[], m, name, e⟩) ∨
    (∃ name e, m.Dangling models template name e ∧ o = ⟨[], m, name, e⟩) ∨
    ∃ h : Hop, h.owner = m ∧ h.Follows models template ∧
      ∃ w, w.Within models template depth h.target ∧ o = Obstacle.behind h w := by
  obtain ⟨route, owner, name, e⟩ := o
  constructor
  · intro ho
    cases route with
    | nil =>
      obtain ⟨-, hlast, ⟨-, hunsettled⟩ | ⟨-, hdangling⟩⟩ := ho
      · obtain rfl : m = owner := hlast
        exact Or.inl ⟨name, e, hunsettled, rfl⟩
      · obtain rfl : m = owner := hlast
        exact Or.inr (Or.inl ⟨name, e, hdangling, rfl⟩)
    | cons h route =>
      obtain ⟨rfl, hfollows, -⟩ := ho.1
      have hbehind := (Obstacle.within_behind_iff hfollows (w := ⟨route, owner, name, e⟩)).mp ho
      exact Or.inr (Or.inr ⟨h, rfl, hfollows, _, hbehind, rfl⟩)
  · rintro (⟨name, e, hunsettled, ho⟩ | ⟨name, e, hdangling, ho⟩ | ⟨h, rfl, hfollows, w, hw, ho⟩)
    · cases ho
      exact ⟨trivial, rfl, Or.inl ⟨Nat.zero_le _, hunsettled⟩⟩
    · cases ho
      exact ⟨trivial, rfl, Or.inr ⟨Nat.succ_pos _, hdangling⟩⟩
    · rw [ho]
      exact (Obstacle.within_behind_iff hfollows).mpr hw

theorem mem_obstacles_iff :
    o ∈ obstacles models template depth m ↔ o.Within models template depth m := by
  -- routes are taken apart at their first hop, as the enumeration goes down by one hop
  induction depth generalizing m o with
  | zero =>
    rw [obstacles, mem_fieldObstacles_iff, Obstacle.within_zero_iff]
    simp
  | succ depth ih =>
    rw [obstacles, mem_fieldObstacles_iff, Obstacle.within_succ_iff]
    simp [ih]

/-! ### Order -/

theorem obstaclesOf_cases (models : Models) (deeper? : Option (Model → List Obstacle)) (m : Model)
    {name : String} {r : Except ModelError Field} (hname : ∀ f, r = .ok f → f.traits.name = name) :
    obstaclesOf models deeper? m name r = [] ∨
      (∃ e, obstaclesOf models deeper? m name r = [⟨[], m, name, e⟩]) ∨
      ∃ deeper h, deeper? = some deeper ∧ h.owner = m ∧ h.traits.name = name ∧
        obstaclesOf models deeper? m name r = (deeper h.target).map (Obstacle.behind h) := by
  rcases r with e | (⟨traits, type, default⟩ | ⟨traits, target, hasMany, default⟩)
  · exact Or.inr (Or.inl ⟨e, rfl⟩)
  · exact Or.inl rfl
  · cases deeper? with
    | none => exact Or.inl rfl
    | some deeper =>
      cases hget : models.get? target with
      | none =>
        refine Or.inr (Or.inl ⟨.unknownTarget target ⟨m.id, some traits.name⟩, ?_⟩)
        simp only [obstaclesOf, hget]
      | some targetModel =>
        have htraits : traits.name = name := hname _ rfl
        refine Or.inr (Or.inr ⟨deeper, ⟨m, traits, hasMany, targetModel⟩, rfl, rfl, htraits, ?_⟩)
        simp only [obstaclesOf, hget]

theorem place_of_mem_obstaclesOf {name : String} {r : Except ModelError Field}
    (hname : ∀ f, r = .ok f → f.traits.name = name)
    (ho : o ∈ obstaclesOf models deeper? m name r) :
    ∃ rest, o.place = m.position name :: rest := by
  rcases obstaclesOf_cases models deeper? m hname with
    hnone | ⟨e, hone⟩ | ⟨deeper, h, -, rfl, rfl, hbehind⟩
  · rw [hnone] at ho
    cases ho
  · rw [hone, List.mem_singleton] at ho
    exact ⟨[], by rw [ho]; rfl⟩
  · rw [hbehind, List.mem_map] at ho
    obtain ⟨w, -, rfl⟩ := ho
    exact ⟨w.place, Obstacle.place_behind h w⟩

theorem obstaclesOf_sorted (hdeeper : ∀ deeper, deeper? = some deeper →
      ∀ m, (deeper m).Pairwise fun o p => o.place < p.place)
    {name : String} {r : Except ModelError Field} (hname : ∀ f, r = .ok f → f.traits.name = name) :
    (obstaclesOf models deeper? m name r).Pairwise fun o p => o.place < p.place := by
  rcases obstaclesOf_cases models deeper? m hname with
    hnone | ⟨e, hone⟩ | ⟨deeper, h, hd, rfl, rfl, hbehind⟩
  · rw [hnone]
    exact List.Pairwise.nil
  · rw [hone]
    exact List.pairwise_singleton _ _
  · rw [hbehind, List.pairwise_map]
    refine (hdeeper deeper hd h.target).imp fun hlt => ?_
    rw [Obstacle.place_behind, Obstacle.place_behind, List.cons_lt_cons_iff]
    exact Or.inr ⟨rfl, hlt⟩

theorem fieldObstacles_sorted (hdeeper : ∀ deeper, deeper? = some deeper →
      ∀ m, (deeper m).Pairwise fun o p => o.place < p.place) :
    (fieldObstacles models template deeper? m).Pairwise fun o p => o.place < p.place := by
  have hname : ∀ e : String × OrderedMap Value, ∀ f,
      Field.resolve e.1 e.2 template m.id = .ok f → f.traits.name = e.1 :=
    fun e f hf => Field.resolve_traits_name hf
  have hpositions := pairwise_idxOf_lt m.fields.nodup
  rw [List.pairwise_map] at hpositions
  exact pairwise_flatMap_place hpositions (fun e _ ho => place_of_mem_obstaclesOf (hname e) ho)
    fun e => obstaclesOf_sorted hdeeper (hname e)

theorem obstacles_sorted (models : Models) (template : OrderedMap Value) (depth : Nat)
    (m : Model) : (obstacles models template depth m).Pairwise fun o p => o.place < p.place := by
  induction depth generalizing m with
  | zero => exact fieldObstacles_sorted (by simp)
  | succ depth ih =>
    refine fieldObstacles_sorted ?_
    intro deeper hd m'
    cases hd
    exact ih m'

theorem head?_obstacles_iff : (obstacles models template depth m).head? = some o ↔
    o.Within models template depth m ∧
      ∀ p, p.Within models template depth m → p = o ∨ o.place < p.place := by
  have hsorted := obstacles_sorted models template depth m
  simp only [← mem_obstacles_iff]
  cases hobstacles : obstacles models template depth m with
  | nil => simp
  | cons first rest =>
    rw [hobstacles] at hsorted
    have hfirst := (List.pairwise_cons.mp hsorted).1
    rw [List.head?_cons, Option.some.injEq]
    constructor
    · rintro rfl
      refine ⟨List.mem_cons_self .., fun p hp => ?_⟩
      rcases List.mem_cons.mp hp with rfl | hp
      · exact Or.inl rfl
      · exact Or.inr (hfirst p hp)
    · rintro ⟨ho, hleast⟩
      rcases List.mem_cons.mp ho with rfl | ho
      · rfl
      · rcases hleast first (List.mem_cons_self ..) with heq | hlt
        · exact heq
        · exact absurd (List.lt_trans hlt (hfirst o ho)) (List.lt_irrefl _)

end Enumeration

/-! ### Projections stop at the first obstacle -/

def projectSettled (models : Models) (deeper? : Option Projector) (m : Model)
    (base start : String) : Except ModelError Field → Except ModelError Projection
  | .error e => .error e
  | .ok f => projectField models deeper? m base start f

def Projector.StopsAt (deeper : Projector) (next : Model → List Obstacle) : Prop :=
  ∀ m base start, failure? (deeper m base start) = (next m).head?.map Obstacle.error

section Projecting

variable {models : Models} {template : OrderedMap Value} {depth : Nat} {m : Model}
  {deeper? : Option Projector} {next? : Option (Model → List Obstacle)}

theorem failure?_projectField (hdeeper : Option.Rel Projector.StopsAt deeper? next?)
    (base start name : String) (f : Field) :
    failure? (projectField models deeper? m base start f) =
      (obstaclesOf models next? m name (.ok f)).head?.map Obstacle.error := by
  cases f with
  | scalar traits type default => rfl
  | relation traits target hasMany default =>
    cases hdeeper with
    | none => rfl
    | @some deeper next hstops =>
      cases hget : models.get? target with
      | none => simp only [projectField, obstaclesOf, hget]; rfl
      | some targetModel =>
        have hbehind := hstops targetModel (Naming.joinAlias start traits.name)
          (Naming.extendPath start traits.name)
        simp only [projectField, obstaclesOf, hget, List.head?_map, Option.map_map]
        cases hd : deeper targetModel (Naming.joinAlias start traits.name)
          (Naming.extendPath start traits.name) with
        | error e => rw [hd] at hbehind; exact hbehind
        | ok inner => rw [hd] at hbehind; exact hbehind

theorem failure?_projectFields_cons (base start : String) (e : String × OrderedMap Value)
    (rest : List (String × OrderedMap Value)) :
    failure? (projectFields models template deeper? m base start (e :: rest)) =
      (failure? (projectSettled models deeper? m base start
        (Field.resolve e.1 e.2 template m.id))).or
        (failure? (projectFields models template deeper? m base start rest)) := by
  obtain ⟨name, raw⟩ := e
  rw [projectFields_cons]
  cases Field.resolve name raw template m.id with
  | error err => rfl
  | ok f =>
    dsimp only [projectSettled]
    cases projectField models deeper? m base start f with
    | error err => rfl
    | ok first => cases projectFields models template deeper? m base start rest <;> rfl

theorem failure?_projectFields (hdeeper : Option.Rel Projector.StopsAt deeper? next?)
    (base start : String) :
    failure? (projectFields models template deeper? m base start m.fields.entries) =
      (fieldObstacles models template next? m).head?.map Obstacle.error := by
  have hstep : ∀ e : String × OrderedMap Value,
      failure? (projectSettled models deeper? m base start
        (Field.resolve e.1 e.2 template m.id)) =
        (obstaclesOf models next? m e.1 (Field.resolve e.1 e.2 template m.id)).head?.map
          Obstacle.error := by
    intro e
    cases Field.resolve e.1 e.2 template m.id with
    | error err => rfl
    | ok f => exact failure?_projectField hdeeper base start e.1 f
  rw [failure?_run _ _ rfl (failure?_projectFields_cons base start), fieldObstacles,
    List.head?_flatMap, List.map_findSome?]
  simp only [hstep]
  rfl

theorem failure?_project (models : Models) (template : OrderedMap Value) (depth : Nat) :
    (project models template depth).StopsAt (obstacles models template depth) := by
  induction depth with
  | zero =>
    intro m base start
    exact failure?_projectFields Option.Rel.none base start
  | succ depth ih =>
    intro m base start
    exact failure?_projectFields (Option.Rel.some ih) base start

theorem failure?_plan (models : Models) (name : String) (options : QueryOptions)
    (template : OrderedMap Value) (depth : Nat) {model : Model}
    (hget : models.get? name = some model) :
    failure? (models.plan name options template depth) =
      (obstacles models template depth model).head?.map Obstacle.error := by
  have hproject := failure?_project models template depth model (options.baseAlias.getD name) ""
  simp only [Models.plan, hget]
  cases hp : project models template depth model (options.baseAlias.getD name) "" with
  | error e => rw [hp] at hproject; exact hproject
  | ok p => rw [hp] at hproject; exact hproject

end Projecting

/-! ### Queries -/

/--
A model can be read over `depth` hops: in all models that are reached the fields settle, and the
relations that are followed lead to models that are there.
-/
structure Model.Resolvable (models : Models) (template : OrderedMap Value) (depth : Nat)
    (m : Model) : Prop where
  fields : ∀ r, Route.From models template m r → r.length ≤ depth →
    ∀ e ∈ (Route.last m r).fields.entries,
      ∃ f, Field.resolve e.1 e.2 template (Route.last m r).id = .ok f
  targets : ∀ r, Route.From models template m r → r.length < depth →
    ∀ f target, (Route.last m r).Declares template f → f.target? = some target →
      target ∈ models.names

theorem Model.resolvable_iff {models : Models} {template : OrderedMap Value} {depth : Nat}
    {m : Model} : m.Resolvable models template depth ↔
      ∀ o : Obstacle, ¬ o.Within models template depth m := by
  constructor
  · rintro h o ⟨hfrom, hlast, ⟨hlength, raw, he, hf⟩ | ⟨hlength, f, target, hf, -, ht, hmissing, -⟩⟩
    · obtain ⟨f, hok⟩ := h.fields o.route hfrom hlength (o.name, raw) (by rwa [hlast])
      rw [hlast, hf] at hok
      cases hok
    · exact hmissing (h.targets o.route hfrom hlength f target (by rwa [hlast]) ht)
  · intro h
    constructor
    case fields =>
      intro r hfrom hlength e he
      cases hf : Field.resolve e.1 e.2 template (Route.last m r).id with
      | ok f => exact ⟨f, rfl⟩
      | error err =>
        exact absurd ⟨hfrom, rfl, Or.inl ⟨hlength, e.2, he, hf⟩⟩ (h ⟨r, Route.last m r, e.1, err⟩)
    case targets =>
      intro r hfrom hlength f target hf ht
      by_contra hmissing
      exact h ⟨r, Route.last m r, f.traits.name,
          .unknownTarget target ⟨(Route.last m r).id, some f.traits.name⟩⟩
        ⟨hfrom, rfl, Or.inr ⟨hlength, f, target, hf, rfl, ht, hmissing, rfl⟩⟩

/-- Why a query has no plan, each reason only when those before it do not apply. -/
inductive QueryRefused (sources : OrderedMap ModelSource) (name : String)
    (template : OrderedMap Value) (depth : Int) : PlanError → Prop where
  | depth (hdepth : depth < 0) : QueryRefused sources name template depth (.negativeDepth depth)
  | source {passed rest : List (String × ModelSource)} {key : String} {source : ModelSource}
      {e : ModelError} (hdepth : 0 ≤ depth)
      (hsplit : sources.entries = passed ++ (key, source) :: rest)
      (hpassed : ∀ p ∈ passed, ∃ m, Model.parse p.1 p.2 = .ok m)
      (he : Model.parse key source = .error e) :
      QueryRefused sources name template depth (.model e)
  | name {models : Models} (hdepth : 0 ≤ depth) (hparse : parseModels sources = .ok models)
      (hname : name ∉ sources.names) :
      QueryRefused sources name template depth (.model (.unknownModel name))
  | obstacle {models : Models} {model : Model} {o : Obstacle} (hdepth : 0 ≤ depth)
      (hparse : parseModels sources = .ok models) (hget : models.get? name = some model)
      (ho : o.Within models template depth.toNat model)
      (hfirst : ∀ p : Obstacle, p.Within models template depth.toNat model →
        p = o ∨ o.place < p.place) :
      QueryRefused sources name template depth (.model o.error)

theorem parseModels_eq_error_iff {sources : OrderedMap ModelSource} {e : ModelError} :
    parseModels sources = .error e ↔
      ∃ passed key source rest, sources.entries = passed ++ (key, source) :: rest ∧
        (∀ p ∈ passed, ∃ m, Model.parse p.1 p.2 = .ok m) ∧ Model.parse key source = .error e := by
  rw [← failure?_eq_some_iff, failure?_parseModels, List.findSome?_eq_some_iff]
  simp only [failure?_eq_some_iff, failure?_eq_none_iff]
  constructor
  · rintro ⟨passed, ⟨key, source⟩, rest, hsplit, he, hpassed⟩
    exact ⟨passed, key, source, rest, hsplit, hpassed, he⟩
  · rintro ⟨passed, key, source, rest, hsplit, hpassed, he⟩
    exact ⟨passed, (key, source), rest, hsplit, he, hpassed⟩

theorem resolveQuery_refused {sources : OrderedMap ModelSource} {name : String}
    {options : QueryOptions} {template : OrderedMap Value} {depth : Int} {e : PlanError}
    (h : resolveQuery sources name options template depth = .error e) :
    QueryRefused sources name template depth e := by
  -- what may be wrong is looked at in order, so that the first thing found is the reason
  unfold resolveQuery at h
  by_cases hneg : depth < 0
  · rw [if_pos hneg] at h
    rw [← Except.error.inj h]
    exact .depth hneg
  · rw [if_neg hneg] at h
    have hdepth : 0 ≤ depth := Int.not_lt.mp hneg
    cases hparse : parseModels sources with
    | error err =>
      rw [hparse] at h
      obtain ⟨passed, key, source, rest, hsplit, hpassed, he⟩ := parseModels_eq_error_iff.mp hparse
      rw [← Except.error.inj h]
      exact .source hdepth hsplit hpassed he
    | ok models =>
      rw [hparse] at h
      dsimp only at h
      cases hplan : models.plan name options template depth.toNat with
      | ok plan => rw [hplan] at h; cases h
      | error err =>
        rw [hplan] at h
        rw [← Except.error.inj h]
        cases hget : models.get? name with
        | none =>
          simp only [Models.plan, hget] at hplan
          rw [← Except.error.inj hplan]
          refine .name hdepth hparse ?_
          rw [← parseModels_names hparse]
          exact OrderedMap.get?_eq_none_iff.mp hget
        | some model =>
          have hfailure := failure?_plan models name options template depth.toNat hget
          rw [hplan] at hfailure
          obtain ⟨o, ho, rfl⟩ := Option.map_eq_some_iff.mp hfailure.symm
          obtain ⟨hwithin, hfirst⟩ := head?_obstacles_iff.mp ho
          exact .obstacle hdepth hparse hget hwithin hfirst

theorem QueryRefused.resolveQuery_eq {sources : OrderedMap ModelSource} {name : String}
    {template : OrderedMap Value} {depth : Int} {e : PlanError}
    (h : QueryRefused sources name template depth e) (options : QueryOptions) :
    resolveQuery sources name options template depth = .error e := by
  unfold resolveQuery
  cases h with
  | depth hneg => rw [if_pos hneg]
  | source hdepth hsplit hpassed he =>
    have hparse := parseModels_eq_error_iff.mpr ⟨_, _, _, _, hsplit, hpassed, he⟩
    rw [if_neg (Int.not_lt.mpr hdepth), hparse]
  | name hdepth hparse hname =>
    rw [← parseModels_names hparse] at hname
    have hget := OrderedMap.get?_eq_none_iff.mpr hname
    rw [if_neg (Int.not_lt.mpr hdepth), hparse]
    simp only [Models.plan, hget]
  | @obstacle models model o hdepth hparse hget ho hfirst =>
    have hplan : models.plan name options template depth.toNat = .error o.error := by
      rw [← failure?_eq_some_iff, failure?_plan _ _ _ _ _ hget,
        head?_obstacles_iff.mpr ⟨ho, hfirst⟩]
      rfl
    rw [if_neg (Int.not_lt.mpr hdepth), hparse]
    simp only [hplan]

theorem resolveQuery_ok_iff {sources : OrderedMap ModelSource} {name : String}
    {options : QueryOptions} {template : OrderedMap Value} {depth : Int} :
    (∃ plan, resolveQuery sources name options template depth = .ok plan) ↔
      0 ≤ depth ∧ ∃ models model, parseModels sources = .ok models ∧
        models.get? name = some model ∧ model.Resolvable models template depth.toNat := by
  constructor
  · rintro ⟨plan, h⟩
    obtain ⟨models, model, p, hdepth, hparse, hget, hp, -⟩ := resolveQuery_eq_ok h
    refine ⟨hdepth, models, model, hparse, hget, Model.resolvable_iff.mpr ?_⟩
    intro o ho
    have hproject := failure?_project models template depth.toNat model
      (options.baseAlias.getD name) ""
    rw [hp] at hproject
    have hnone := List.head?_eq_none_iff.mp (Option.map_eq_none_iff.mp hproject.symm)
    rw [← mem_obstacles_iff, hnone] at ho
    cases ho
  · rintro ⟨hdepth, models, model, hparse, hget, hresolvable⟩
    cases hquery : resolveQuery sources name options template depth with
    | ok plan => exact ⟨plan, rfl⟩
    | error e =>
      -- each reason to refuse the query contradicts what is known of it
      cases resolveQuery_refused hquery with
      | depth hneg => exact absurd hdepth (Int.not_le.mpr hneg)
      | source _ hsplit hpassed he =>
        rw [parseModels_eq_error_iff.mpr ⟨_, _, _, _, hsplit, hpassed, he⟩] at hparse
        cases hparse
      | name _ _ hname =>
        rw [← parseModels_names hparse, ← OrderedMap.get?_eq_none_iff, hget] at hname
        cases hname
      | obstacle _ hparse' hget' ho _ =>
        obtain rfl := Except.ok.inj (hparse.symm.trans hparse')
        obtain rfl := Option.some.inj (hget.symm.trans hget')
        exact absurd ho (Model.resolvable_iff.mp hresolvable _)

/--
A query has a plan exactly when its depth is not negative, all sources are admitted, its model is
among them and can be read over that many hops; otherwise the first reason against it is reported.
Models that compile can be read over any number of hops.
-/
theorem query_fails_at_first_obstacle (sources : OrderedMap ModelSource) (name : String)
    (options : QueryOptions) (template : OrderedMap Value) (depth : Int) :
    ((∃ plan, resolveQuery sources name options template depth = .ok plan) ↔
        0 ≤ depth ∧ ∃ models model, parseModels sources = .ok models ∧
          models.get? name = some model ∧ model.Resolvable models template depth.toNat) ∧
      (∀ e, resolveQuery sources name options template depth = .error e ↔
        QueryRefused sources name template depth e) ∧
      ∀ collation schema, compileSchema sources template collation = .ok schema →
        name ∈ sources.names → 0 ≤ depth →
          ∃ plan, resolveQuery sources name options template depth = .ok plan := by
  refine ⟨resolveQuery_ok_iff, fun e => ?_, ?_⟩
  · exact ⟨resolveQuery_refused, fun h => h.resolveQuery_eq options⟩
  · intro collation schema hcompile hname hdepth
    obtain ⟨models, hparse, hcompile⟩ := compileSchema_eq_ok hcompile
    exact resolveQuery_of_contribute hparse (contribute_of_compile hcompile) hname hdepth options

def staffPosts : OrderedMap ModelSource :=
  .ofList
    [("post", .admitted (.ofFields
       [("title", .empty), ("author", declaredRelation "user" false true)])),
     ("user", .admitted (.ofFields
       [("name", .empty), ("company", declaredRelation "company" false false)]))]

-- the missing company is looked up only where a second hop is permitted
example : (resolveQuery staffPosts "post" {} defaultTemplate 1).toOption.isSome = true ∧
    resolveQuery staffPosts "post" {} defaultTemplate 2 =
      .error (.model (.unknownTarget "company" ⟨some "user", some "company"⟩)) := by
  decide +kernel

end RelationalModels
