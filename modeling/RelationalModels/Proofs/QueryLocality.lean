import RelationalModels.Proofs.Partition
import RelationalModels.Proofs.Qualification

/-!
# What a query depends on

A query takes note of the models that relations lead to within its hops, and of these only of their
tables and of the names, the kinds and the relations of their fields. At the last hop relations are
not followed, and only the names of the scalars count. `plan_local` states that two sets of models
that agree on this much give the same plan, whatever else is different in them.
-/

namespace RelationalModels

/-! ### Views of models -/

inductive FieldView where
  | scalar (name : String)
  | relation (name target : String) (hasMany required : Bool)
  deriving DecidableEq

def Field.view : Field → FieldView
  | .scalar traits _ _ => .scalar traits.name
  | .relation traits target hasMany _ => .relation traits.name target hasMany traits.required

def FieldView.scalar? : FieldView → Option String
  | scalar name => some name
  | relation _ _ _ _ => none

namespace Model

def view (template : OrderedMap Value) (m : Model) : String × List FieldView :=
  (m.tableName, (m.settled template).map Field.view)

/-- What is left of it at the last hop: the table and the scalars in order. -/
def lastView (template : OrderedMap Value) (m : Model) : String × List String :=
  (m.tableName, ((m.settled template).map Field.view).filterMap FieldView.scalar?)

end Model

/-! ### Models within reach -/

inductive Models.Reaches (models : Models) (template : OrderedMap Value) :
    Nat → String → String → Prop where
  | here (name : String) : Reaches models template 0 name name
  | behind {hops : Nat} {name target last : String} {m : Model} {f : Field}
      (hget : models.get? name = some m) (hf : m.Declares template f)
      (htarget : f.target? = some target) (hrest : Reaches models template hops target last) :
      Reaches models template (hops + 1) name last

theorem Models.Reaches.mem_of_closed {models : Models} {template : OrderedMap Value} {hops : Nat}
    {name last : String} {names : List String} (h : models.Reaches template hops name last)
    (hclosed : ∀ name ∈ names, ∀ m ∈ models.get? name, ∀ f ∈ m.settled template,
      ∀ target ∈ f.target?, target ∈ names)
    (hname : name ∈ names) : last ∈ names := by
  induction h with
  | here name => exact hname
  | behind hget hf htarget _ ih =>
    exact ih (hclosed _ hname _ hget _ (Model.mem_settled_iff.mpr hf) _ htarget)

/-- Two sets of models look the same to a query that starts at a name and follows `depth` hops. -/
structure Models.LookAlike (models others : Models) (template template' : OrderedMap Value)
    (depth : Nat) (name : String) : Prop where
  near : ∀ hops last, hops < depth → models.Reaches template hops name last →
    (models.get? last).map (Model.view template) = (others.get? last).map (Model.view template')
  far : ∀ last, models.Reaches template depth name last →
    (models.get? last).map (Model.lastView template) =
      (others.get? last).map (Model.lastView template')

namespace Models.LookAlike

variable {models others : Models} {template template' : OrderedMap Value} {depth : Nat}
  {name target : String} {m m' : Model} {f : Field}

theorem view_eq (h : LookAlike models others template template' (depth + 1) name)
    (hget : models.get? name = some m) (hget' : others.get? name = some m') :
    m.view template = m'.view template' := by
  have hview := h.near 0 name (Nat.zero_lt_succ depth) (.here name)
  rw [hget, hget'] at hview
  exact Option.some.inj hview

theorem lastView_eq (h : LookAlike models others template template' 0 name)
    (hget : models.get? name = some m) (hget' : others.get? name = some m') :
    m.lastView template = m'.lastView template' := by
  have hview := h.far name (.here name)
  rw [hget, hget'] at hview
  exact Option.some.inj hview

theorem tableName_eq (h : LookAlike models others template template' depth name) :
    (models.get? name).map Model.tableName = (others.get? name).map Model.tableName := by
  cases depth with
  | zero =>
    have hlast := congrArg (Option.map Prod.fst) (h.far name (.here name))
    rwa [Option.map_map, Option.map_map] at hlast
  | succ depth =>
    have hnear := congrArg (Option.map Prod.fst)
      (h.near 0 name (Nat.zero_lt_succ depth) (.here name))
    rwa [Option.map_map, Option.map_map] at hnear

theorem behind (h : LookAlike models others template template' (depth + 1) name)
    (hget : models.get? name = some m) (hf : m.Declares template f)
    (htarget : f.target? = some target) :
    LookAlike models others template template' depth target where
  near hops last hlt hreach :=
    h.near (hops + 1) last (Nat.succ_lt_succ hlt) (.behind hget hf htarget hreach)
  far last hreach := h.far last (.behind hget hf htarget hreach)

end Models.LookAlike

/-! ### What visits add -/

namespace Projection

theorem ofVisits_flatMap_congr {vs ws : Field → List Visit} {base start : String}
    {fields others : List Field}
    (h : List.Forall₂ (fun f g => ofVisits base start (vs f) = ofVisits base start (ws g))
      fields others) :
    ofVisits base start (fields.flatMap vs) = ofVisits base start (others.flatMap ws) := by
  induction h with
  | nil => rfl
  | cons hfield _ ih => rw [List.flatMap_cons, List.flatMap_cons, ofVisits_append,
      ofVisits_append, hfield, ih]

theorem ofVisits_scalars (models : Models) (m : Model) (base start : String)
    (fields : List Field) :
    ofVisits base start (fields.flatMap (fieldVisits models none m)) =
      ⟨((fields.map Field.view).filterMap FieldView.scalar?).map fun name =>
        Naming.selectExpression name (Naming.columnAlias start name), []⟩ := by
  induction fields with
  | nil => rfl
  | cons f fields ih =>
    rw [List.flatMap_cons, ofVisits_append, ih]
    cases f with
    | scalar traits type default => rfl
    | relation traits target hasMany default => rfl

end Projection

theorem Hop.joins_congr {h k : Hop} (howner : h.owner.tableName = k.owner.tableName)
    (hname : h.traits.name = k.traits.name) (hrequired : h.traits.required = k.traits.required)
    (hmany : h.hasMany = k.hasMany) (htarget : h.target.tableName = k.target.tableName)
    (base path : String) : h.joins base path = k.joins base path := by
  simp only [joins, targetJoin, junctionJoin, junction, howner, hname, hrequired, hmany, htarget]

theorem Projection.ofVisit_relation_congr {h k : Hop}
    (howner : h.owner.tableName = k.owner.tableName) (hname : h.traits.name = k.traits.name)
    (hrequired : h.traits.required = k.traits.required) (hmany : h.hasMany = k.hasMany)
    (htarget : h.target.tableName = k.target.tableName) (base start : String) :
    Projection.ofVisit base start (.relation [] h) =
      Projection.ofVisit base start (.relation [] k) :=
  congrArg (Projection.mk []) (Hop.joins_congr howner hname hrequired hmany htarget base start)

section Fields

variable {models others : Models} {m m' : Model} {f f' : Field}
  {next next' : Model → List Visit}

theorem ofVisits_fieldVisits_congr (htable : m.tableName = m'.tableName)
    (hview : f.view = f'.view)
    (htables : ∀ target, f.target? = some target →
      (models.get? target).map Model.tableName = (others.get? target).map Model.tableName)
    (hnext : ∀ target t t', f.target? = some target → models.get? target = some t →
      others.get? target = some t' → ∀ base start,
        Projection.ofVisits base start (next t) = Projection.ofVisits base start (next' t'))
    (base start : String) :
    Projection.ofVisits base start (fieldVisits models (some next) m f) =
      Projection.ofVisits base start (fieldVisits others (some next') m' f') := by
  cases f with
  | scalar traits type default =>
    cases f' with
    | relation traits' target' hasMany' default' => cases hview
    | scalar traits' type' default' =>
      have hname : traits.name = traits'.name := FieldView.scalar.inj hview
      simp only [fieldVisits, Projection.ofVisits_cons, Projection.ofVisit, hname]
  | relation traits target hasMany default =>
    cases f' with
    | scalar traits' type' default' => cases hview
    | relation traits' target' hasMany' default' =>
      obtain ⟨hname, rfl, rfl, hrequired⟩ := FieldView.relation.inj hview
      have htarget := htables target rfl
      -- the target is missing from both sets of models or stands in both with the same table
      cases hget : models.get? target with
      | none =>
        rw [hget, Option.map_none, eq_comm, Option.map_eq_none_iff] at htarget
        simp only [fieldVisits, hget, htarget]
      | some t =>
        rw [hget, Option.map_some, eq_comm, Option.map_eq_some_iff] at htarget
        obtain ⟨t', hget', ht⟩ := htarget
        have hinner := hnext target t t' rfl hget hget'
        have hfirst := Projection.ofVisit_relation_congr (h := ⟨m, traits, hasMany, t⟩)
          (k := ⟨m', traits', hasMany, t'⟩) htable hname hrequired rfl ht.symm base start
        simp only [fieldVisits, hget, hget', Projection.ofVisits_cons,
          Projection.ofVisits_behind]
        rw [hfirst, hname, hinner]

end Fields

/-! ### Traversals -/

theorem Model.forall₂_settled_of_view {template template' : OrderedMap Value} {m m' : Model}
    (h : m.view template = m'.view template') :
    List.Forall₂ (fun f f' => m.Declares template f ∧ f.view = f'.view)
      (m.settled template) (m'.settled template') := by
  have hviews : (m.settled template).map Field.view = (m'.settled template').map Field.view :=
    congrArg Prod.snd h
  rw [List.forall₂_and_left]
  constructor
  · intro f hf
    exact mem_settled_iff.mp hf
  · rwa [← List.forall₂_eq_eq_eq, List.forall₂_map_left_iff, List.forall₂_map_right_iff] at hviews

theorem ofVisits_visits_congr {models others : Models} {template template' : OrderedMap Value}
    {depth : Nat} {name : String} {m m' : Model}
    (h : models.LookAlike others template template' depth name)
    (hget : models.get? name = some m) (hget' : others.get? name = some m')
    (base start : String) :
    Projection.ofVisits base start (visits models template depth m) =
      Projection.ofVisits base start (visits others template' depth m') := by
  -- both traversals go down by one hop together, and what looked the same still does behind it
  induction depth generalizing name m m' base start with
  | zero =>
    have hscalars := congrArg Prod.snd (h.lastView_eq hget hget')
    simp only [Model.lastView] at hscalars
    rw [visits, visits, Projection.ofVisits_scalars, Projection.ofVisits_scalars, hscalars]
  | succ depth ih =>
    have hview := h.view_eq hget hget'
    have htable : m.tableName = m'.tableName := congrArg Prod.fst hview
    rw [visits, visits]
    apply Projection.ofVisits_flatMap_congr
    apply (Model.forall₂_settled_of_view hview).imp
    rintro f f' ⟨hf, hsame⟩
    apply ofVisits_fieldVisits_congr htable hsame
    · intro target htarget
      exact (h.behind hget hf htarget).tableName_eq
    · intro target t t' htarget ht ht' base start
      exact ih (h.behind hget hf htarget) ht ht' base start

/-! ### Plans -/

/-- Models at the last hop may differ in their relations and still give the same plan. -/
theorem plan_eq_of_lookAlike {sources others : OrderedMap ModelSource} {name : String}
    {options : QueryOptions} {template template' : OrderedMap Value} {depth : Int}
    {plan plan' : QueryPlan} {models models' : Models}
    (h : resolveQuery sources name options template depth = .ok plan)
    (h' : resolveQuery others name options template' depth = .ok plan')
    (hparse : parseModels sources = .ok models) (hparse' : parseModels others = .ok models')
    (hlook : models.LookAlike models' template template' depth.toNat name) : plan = plan' := by
  obtain ⟨_, m, p, -, hsame, hget, hp, rfl⟩ := resolveQuery_eq_ok h
  obtain ⟨_, m', p', -, hsame', hget', hp', rfl⟩ := resolveQuery_eq_ok h'
  obtain rfl := Except.ok.inj (hparse.symm.trans hsame)
  obtain rfl := Except.ok.inj (hparse'.symm.trans hsame')
  have hprojection : p = p' := by
    rw [project_visits _ _ _ _ _ hp, project_visits _ _ _ _ _ hp']
    exact ofVisits_visits_congr hlook hget hget' _ _
  have htable : m.tableName = m'.tableName := by
    have htables := hlook.tableName_eq
    rw [hget, hget'] at htables
    exact Option.some.inj htables
  rw [hprojection, htable]

/--
Two queries for the same model with the same options and the same depth have the same plan when the
models that relations lead to within the depth have the same tables and the same names, kinds and
relations of fields in the same order. The sets of models and the templates are otherwise free.
-/
theorem plan_local {sources others : OrderedMap ModelSource} {name : String}
    {options : QueryOptions} {template template' : OrderedMap Value} {depth : Int}
    {plan plan' : QueryPlan} {models models' : Models}
    (h : resolveQuery sources name options template depth = .ok plan)
    (h' : resolveQuery others name options template' depth = .ok plan')
    (hparse : parseModels sources = .ok models) (hparse' : parseModels others = .ok models')
    (hviews : ∀ hops last, hops ≤ depth.toNat → models.Reaches template hops name last →
      (models.get? last).map (Model.view template) =
        (models'.get? last).map (Model.view template')) :
    plan = plan' := by
  have hlook : models.LookAlike models' template template' depth.toNat name := by
    constructor
    case near =>
      intro hops last hlt hreach
      exact hviews hops last (Nat.le_of_lt hlt) hreach
    case far =>
      intro last hreach
      have hview := congrArg (Option.map fun v => (v.1, v.2.filterMap FieldView.scalar?))
        (hviews _ last (Nat.le_refl _) hreach)
      rwa [Option.map_map, Option.map_map] at hview
  exact plan_eq_of_lookAlike h h' hparse hparse' hlook

/-! ### Users in two sets of models -/

def auditedMentoring : OrderedMap ModelSource :=
  .ofList
    [("audit", .admitted (.ofFields [("about", declaredRelation "user" false true)])),
     ("user", .admitted (.ofFields
       [("mentor", declaredRelation "user" false true),
        ("name", .ofList [("type", .text "string"), ("comment", .text "full name")]),
        ("tags", declaredRelation "tag" true false)])),
     ("tag", .admitted (.ofFields [("label", .ofList [("maxLength", .int 40)])]))]

def auditedModels : Models :=
  .ofList
    [("audit", (Model.ofFields [("about", declaredRelation "user" false true)]).withId "audit"),
     ("user", (Model.ofFields
       [("mentor", declaredRelation "user" false true),
        ("name", .ofList [("type", .text "string"), ("comment", .text "full name")]),
        ("tags", declaredRelation "tag" true false)]).withId "user"),
     ("tag", (Model.ofFields [("label", .ofList [("maxLength", .int 40)])]).withId "tag")]

def numberTemplate : OrderedMap Value :=
  .ofList [("type", .text "int"), ("unique", .bool true), ("required", .bool false)]

theorem mentoring_plan_local :
    ∃ plan', resolveQuery mentoring "user" {} defaultTemplate 2 = .ok mentoringPlan ∧
      resolveQuery auditedMentoring "user" {} numberTemplate 2 = .ok plan' ∧
      parseModels mentoring = .ok mentoringModels ∧
      parseModels auditedMentoring = .ok auditedModels ∧
      (∀ hops last, hops ≤ Int.toNat 2 →
        mentoringModels.Reaches defaultTemplate hops "user" last →
        (mentoringModels.get? last).map (Model.view defaultTemplate) =
          (auditedModels.get? last).map (Model.view numberTemplate)) ∧
      mentoringPlan = plan' := by
  have hparse : parseModels auditedMentoring = .ok auditedModels := by decide +kernel
  obtain ⟨plan', hplan'⟩ :
      ∃ plan', resolveQuery auditedMentoring "user" {} numberTemplate 2 = .ok plan' :=
    exists_ok_of_isSome (by decide +kernel)
  have hclosed : ∀ name ∈ ["user", "tag"], ∀ m ∈ mentoringModels.get? name,
      ∀ f ∈ m.settled defaultTemplate, ∀ target ∈ f.target?, target ∈ ["user", "tag"] := by
    decide +kernel
  have hsame : ∀ name ∈ ["user", "tag"],
      (mentoringModels.get? name).map (Model.view defaultTemplate) =
        (auditedModels.get? name).map (Model.view numberTemplate) := by
    decide +kernel
  have hviews : ∀ hops last, hops ≤ Int.toNat 2 →
      mentoringModels.Reaches defaultTemplate hops "user" last →
      (mentoringModels.get? last).map (Model.view defaultTemplate) =
        (auditedModels.get? last).map (Model.view numberTemplate) := by
    intro hops last _ hreach
    exact hsame last (hreach.mem_of_closed hclosed (by simp))
  exact ⟨plan', mentoring_resolves, hplan', mentoring_admitted, hparse, hviews,
    plan_local mentoring_resolves hplan' mentoring_admitted hparse hviews⟩

end RelationalModels
