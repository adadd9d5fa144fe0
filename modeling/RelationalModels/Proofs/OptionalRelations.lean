import RelationalModels.Proofs.Evaluation
import RelationalModels.Proofs.Projection

/-!
# Optional relations and the rows of a plan

Each relation is joined by itself: an optional one by left joins and a required one by inner joins,
however its owner has been reached. A model whose own relations are all optional therefore keeps
its rows exactly when no required relation lies behind them. `keepsRows_iff_optional_behind` states
this for plans of every depth, and `posts_lose_rows` shows three models where a row is lost.
-/

namespace RelationalModels

def Model.RelationsOptional (template : OrderedMap Value) (m : Model) : Prop :=
  ∀ f ∈ m.settled template, f.type = .relation → f.traits.required = false

/-- The relations behind those of a model, two hops away or more within a depth, are optional. -/
def OptionalBehind (models : Models) (template : OrderedMap Value) (depth : Nat) (m : Model) :
    Prop :=
  ∀ route h, route ≠ [] → route.length < depth →
    Route.From models template m (route ++ [h]) → h.traits.required = false

/-- The joins of visits are left joins exactly when the visited relations are optional. -/
theorem joins_left_iff (base : String) (vs : List Visit) :
    (∀ j ∈ vs.flatMap (Visit.joins base), j.kind = .left) ↔
      ∀ route h, .relation route h ∈ vs → h.traits.required = false := by
  constructor
  · intro hleft route h hv
    have hlast := Hop.joins_getLast? (Route.tableAlias base "" route) (Route.path "" route) h
    have hmem := List.mem_of_getLast? hlast
    have hkind := hleft _ (List.mem_flatMap.mpr ⟨_, hv, hmem⟩)
    rwa [Hop.joins_kind hmem, JoinKind.ofRequired_eq_left_iff] at hkind
  · intro hoptional j hj
    obtain ⟨v, hv, hj⟩ := List.mem_flatMap.mp hj
    cases v with
    | column route owner traits => cases hj
    | relation route h =>
      rw [Hop.joins_kind hj, JoinKind.ofRequired_eq_left_iff]
      exact hoptional route h hv

theorem Model.RelationsOptional.hop {models : Models} {template : OrderedMap Value} {m : Model}
    (hown : m.RelationsOptional template) {h : Hop} (howner : h.owner = m)
    (hf : h.Follows models template) : h.traits.required = false := by
  obtain ⟨target, default, hdecl, -⟩ := hf
  rw [howner] at hdecl
  exact hown _ (Model.mem_settled_iff.mpr hdecl) rfl

theorem DepthFirst.optional_iff {models : Models} {template : OrderedMap Value} {depth : Nat}
    {m : Model} {vs : List Visit} (hvs : DepthFirst models template depth m vs)
    (hown : m.RelationsOptional template) :
    (∀ route h, .relation route h ∈ vs → h.traits.required = false) ↔
      OptionalBehind models template depth m := by
  constructor
  · intro hoptional route h _ hlength hfrom
    exact hoptional route h ((hvs.mem_iff _).mpr ⟨hlength, hfrom⟩)
  · intro hbehind route h hv
    obtain ⟨hlength, hfrom⟩ := (hvs.mem_iff _).mp hv
    cases route with
    | nil =>
      obtain ⟨howner, hf, -⟩ := hfrom
      exact hown.hop howner hf
    | cons g route => exact hbehind (g :: route) h (by simp) hlength hfrom

theorem plan_keepsRows_iff {V : Type} [DecidableEq V] {sources : OrderedMap ModelSource}
    {models : Models} {model : Model} {name : String} {options : QueryOptions}
    {template : OrderedMap Value} {depth : Int} {plan : QueryPlan}
    (h : resolveQuery sources name options template depth = .ok plan)
    (hjoins : options.joins = none) (hparse : parseModels sources = .ok models)
    (hget : models.get? name = some model) :
    (∀ db : Contents V, plan.KeepsRows db) ↔
      ∀ route h, .relation route h ∈ visits models template depth.toNat model →
        h.traits.required = false := by
  obtain ⟨model', vs, hget', -, hvs, -, -, -, hj⟩ := plan_visits h hparse
  obtain rfl : model = model' := Option.some.inj (hget.symm.trans hget')
  rw [keepsRows_iff, hj hjoins, joins_left_iff]
  simp only [hvs.mem_iff, mem_visits_iff]

theorem keepsRows_of_depth_le_one {V : Type} [DecidableEq V]
    {sources : OrderedMap ModelSource} {models : Models} {model : Model} {name : String}
    {options : QueryOptions} {template : OrderedMap Value} {depth : Int} {plan : QueryPlan}
    (h : resolveQuery sources name options template depth = .ok plan)
    (hjoins : options.joins = none) (hparse : parseModels sources = .ok models)
    (hget : models.get? name = some model) (hown : model.RelationsOptional template)
    (hdepth : depth ≤ defaultJoinDepth) (db : Contents V) : plan.KeepsRows db := by
  have hvs := visits_depthFirst models template depth.toNat model
  have hbehind : OptionalBehind models template depth.toNat model := by
    intro route hop hne hlength _
    have hpos := List.length_pos_iff.mpr hne
    rw [defaultJoinDepth] at hdepth
    omega
  exact (plan_keepsRows_iff h hjoins hparse hget).mpr ((hvs.optional_iff hown).mpr hbehind) db

/--
The plan of a model whose own relations are optional keeps the rows of the model, whatever the
tables hold, exactly when the relations behind those relations are optional too, as far as they are
within the depth.
-/
theorem keepsRows_iff_optional_behind {V : Type} [DecidableEq V]
    {sources : OrderedMap ModelSource} {models : Models} {model : Model} {name : String}
    {options : QueryOptions} {template : OrderedMap Value} {depth : Int} {plan : QueryPlan}
    (h : resolveQuery sources name options template depth = .ok plan)
    (hjoins : options.joins = none) (hparse : parseModels sources = .ok models)
    (hget : models.get? name = some model) (hown : model.RelationsOptional template) :
    (∀ db : Contents V, plan.KeepsRows db) ↔
      OptionalBehind models template depth.toNat model := by
  have hvs := visits_depthFirst models template depth.toNat model
  rw [plan_keepsRows_iff h hjoins hparse hget, hvs.optional_iff hown]

/-! ### Posts of users of companies -/

def posts : OrderedMap ModelSource :=
  .ofList
    [("company", .admitted (.ofFields [("name", .empty)])),
     ("user", .admitted (.ofFields
       [("name", .empty), ("company", declaredRelation "company" false true)])),
     ("post", .admitted (.ofFields
       [("title", .empty), ("author", declaredRelation "user" false false)]))]

def postModel : Model :=
  (Model.ofFields [("title", .empty), ("author", declaredRelation "user" false false)]).withId
    "post"

def postsModels : Models :=
  .ofList
    [("company", (Model.ofFields [("name", .empty)]).withId "company"),
     ("user", (Model.ofFields
       [("name", .empty), ("company", declaredRelation "company" false true)]).withId "user"),
     ("post", postModel)]

def postsPlan : QueryPlan where
  model := "post"
  table := "post"
  baseAlias := "post"
  selectColumns := ["title AS 'title'", "name AS 'author.name'", "name AS 'author.company.name'"]
  joins :=
    [⟨.left, "post", "author", "user", "id", some "author"⟩,
     ⟨.inner, "author", "company", "company", "id", some "author__company"⟩]

theorem posts_resolve : resolveQuery posts "post" {} defaultTemplate 2 = .ok postsPlan := by
  decide +kernel

theorem posts_admitted : parseModels posts = .ok postsModels := by
  decide +kernel

theorem posts_declared : postsModels.get? "post" = some postModel := by
  decide +kernel

theorem post_relations_optional : postModel.RelationsOptional defaultTemplate := by
  unfold Model.RelationsOptional
  decide +kernel

theorem posts_keep_rows_iff :
    resolveQuery posts "post" {} defaultTemplate 2 = .ok postsPlan ∧
      parseModels posts = .ok postsModels ∧ postsModels.get? "post" = some postModel ∧
      postModel.RelationsOptional defaultTemplate ∧
      ((∀ db : Contents Nat, postsPlan.KeepsRows db) ↔
        OptionalBehind postsModels defaultTemplate 2 postModel) :=
  ⟨posts_resolve, posts_admitted, posts_declared, post_relations_optional,
    keepsRows_iff_optional_behind posts_resolve rfl posts_admitted posts_declared
      post_relations_optional⟩

def anonymousPost : Contents Nat := fun table =>
  if table = "post" then [fun column => if column = "id" then some 1 else none] else []

/-- The post without an author is lost, although the relation to its author is optional. -/
theorem posts_lose_rows :
    resolveQuery posts "post" {} defaultTemplate 2 = .ok postsPlan ∧
      parseModels posts = .ok postsModels ∧ postsModels.get? "post" = some postModel ∧
      postModel.RelationsOptional defaultTemplate ∧
      postsPlan.rows anonymousPost = [] ∧ ¬ postsPlan.KeepsRows anonymousPost := by
  have hrows : postsPlan.rows anonymousPost = [] := by
    rw [← List.isEmpty_iff]
    decide +kernel
  refine ⟨posts_resolve, posts_admitted, posts_declared, post_relations_optional, hrows, ?_⟩
  intro hkeeps
  obtain ⟨b, hb, -⟩ := hkeeps _ (List.mem_singleton.mpr rfl)
  rw [hrows] at hb
  cases hb

end RelationalModels
