import RelationalModels.Proofs.Compilation
import RelationalModels.Proofs.Qualification

/-!
# Plans agree with the schema

Tables and plans are made by separate walks over the same models. `plan_agrees_with_schema` states
that they fit: a set of models that compiles also resolves, each join starts from a table that is
joined before it, a relation to one row is joined along the foreign key of its compiled table, and
a relation to many along the two foreign keys of its compiled junction table.
-/

namespace RelationalModels

/-! ### Models that compile also resolve -/

def Models.Contribute (template : OrderedMap Value) (models : Models) : Prop :=
  ∀ m ∈ models.values, ∀ e ∈ m.fields.entries,
    ∃ c, Contribution.ofDeclaration models m template e.1 e.2 = .ok c

theorem contribute_of_compile {models : Models} {template : OrderedMap Value}
    {collation : Option String} {schema : Schema}
    (h : models.compile template collation = .ok schema) : models.Contribute template := by
  obtain ⟨outs, houts, -⟩ := compileEach_eq_ok_iff.mp h
  intro m hm e he
  obtain ⟨out, -, hout⟩ := exists_related houts hm
  obtain ⟨cs, hcs, -⟩ := compileModel_eq_ok_iff.mp hout
  obtain ⟨c, -, hc⟩ := exists_related hcs he
  exact ⟨c, hc⟩

def Projector.Total (models : Models) (deeper : Projector) : Prop :=
  ∀ m ∈ models.values, ∀ base start, ∃ p, deeper m base start = .ok p

theorem projectField_ok {models : Models} {deeper? : Option Projector}
    (hdeeper : ∀ deeper, deeper? = some deeper → deeper.Total models) {m : Model}
    {f : Field} {c : Contribution} (hc : Contribution.ofField models m f = .ok c)
    (base start : String) : ∃ p, projectField models deeper? m base start f = .ok p := by
  cases f with
  | scalar t type d => exact ⟨_, rfl⟩
  | relation t target hasMany d =>
    cases deeper? with
    | none => exact ⟨_, rfl⟩
    | some deeper =>
      obtain ⟨tm, htm, -⟩ := Contribution.target_of_ofField hc
      obtain ⟨inner, hinner⟩ := hdeeper deeper rfl tm (OrderedMap.mem_values_of_get? htm)
        (Naming.joinAlias start t.name) (Naming.extendPath start t.name)
      simp only [projectField, htm, hinner]
      exact ⟨_, rfl⟩

theorem projectFields_ok {models : Models} {template : OrderedMap Value}
    {deeper? : Option Projector}
    (hdeeper : ∀ deeper, deeper? = some deeper → deeper.Total models) {m : Model}
    {entries : List (String × OrderedMap Value)}
    (h : ∀ e ∈ entries, ∃ c, Contribution.ofDeclaration models m template e.1 e.2 = .ok c)
    (base start : String) :
    ∃ p, projectFields models template deeper? m base start entries = .ok p := by
  induction entries with
  | nil => exact ⟨_, rfl⟩
  | cons e rest ih =>
    obtain ⟨c, hc⟩ := h e (List.mem_cons_self ..)
    obtain ⟨f, hf, hc⟩ := Contribution.ofDeclaration_eq_ok_iff.mp hc
    obtain ⟨first, hfirst⟩ := projectField_ok hdeeper hc base start
    obtain ⟨others, hothers⟩ := ih fun e he => h e (List.mem_cons_of_mem _ he)
    exact ⟨_, projectFields_cons_eq_ok.mpr ⟨f, first, others, hf, hfirst, hothers, rfl⟩⟩

theorem project_total {models : Models} {template : OrderedMap Value}
    (h : models.Contribute template) (depth : Nat) :
    (project models template depth).Total models := by
  induction depth with
  | zero =>
    intro m hm base start
    exact projectFields_ok (by simp) (h m hm) base start
  | succ depth ih =>
    intro m hm base start
    refine projectFields_ok ?_ (h m hm) base start
    intro deeper hd
    obtain rfl := Option.some.inj hd
    exact ih

theorem resolveQuery_of_contribute {sources : OrderedMap ModelSource} {models : Models}
    {template : OrderedMap Value} {name : String} {depth : Int}
    (hparse : parseModels sources = .ok models) (h : models.Contribute template)
    (hname : name ∈ sources.names) (hdepth : 0 ≤ depth) (options : QueryOptions) :
    ∃ plan, resolveQuery sources name options template depth = .ok plan := by
  rw [← parseModels_names hparse] at hname
  obtain ⟨model, hget⟩ := OrderedMap.exists_get?_of_mem_names hname
  obtain ⟨p, hp⟩ := project_total h depth.toNat model (OrderedMap.mem_values_of_get? hget)
    (options.baseAlias.getD name) ""
  have hneg : ¬ depth < 0 := by omega
  simp only [resolveQuery, hneg, if_false, hparse, Models.plan, hget, hp]
  exact ⟨_, rfl⟩

/-! ### Joins start from joined tables -/

/-- Each join starts from the table called `base` or from one that is joined before it. -/
def Linked (base : String) (js : List Join) : Prop :=
  ∀ before j after, js = before ++ j :: after →
    j.leftTable = base ∨ ∃ e ∈ before, j.leftTable = e.rightName

theorem split_of_flatMap {α β : Type} {f : α → List β} {as : List α} {before after : List β}
    {b : β} (h : as.flatMap f = before ++ b :: after) :
    ∃ passed a rest early late, as = passed ++ a :: rest ∧ f a = early ++ b :: late ∧
      before = passed.flatMap f ++ early := by
  induction as generalizing before with
  | nil => simp at h
  | cons a as ih =>
    rw [List.flatMap_cons, List.append_eq_append_iff] at h
    -- the element comes from a later part, or from the first one, unless that ends before it
    rcases h with ⟨middle, rfl, hrest⟩ | ⟨middle, hfirst, hrest⟩
    · obtain ⟨passed, a', rest, early, late, rfl, hsplit, rfl⟩ := ih hrest
      exact ⟨a :: passed, a', rest, early, late, rfl, hsplit, by simp⟩
    · cases middle with
      | nil =>
        have hnext : as.flatMap f = [] ++ b :: after := by simpa using hrest.symm
        obtain ⟨passed, a', rest, early, late, rfl, hsplit, hempty⟩ := ih hnext
        refine ⟨a :: passed, a', rest, early, late, rfl, hsplit, ?_⟩
        rw [List.flatMap_cons, List.append_assoc, ← hempty, hfirst]
        simp
      | cons c middle =>
        obtain ⟨rfl, -⟩ := List.cons.inj hrest
        exact ⟨[], a, as, before, middle, rfl, hfirst, by simp⟩

theorem Hop.leftTable_of_split {h : Hop} {base path : String} {early late : List Join} {j : Join}
    (hsplit : h.joins base path = early ++ j :: late) :
    j.leftTable = base ∨ ∃ e ∈ early, j.leftTable = e.rightName := by
  cases hm : h.hasMany with
  | false =>
    have hj := (Hop.joins_of_not_hasMany hm base path).symm.trans hsplit
    cases early with
    | nil =>
      obtain ⟨rfl, -⟩ := List.cons.inj hj
      exact Or.inl (by simp [Hop.targetJoin, hm])
    | cons e early => simp at hj
  | true =>
    have hj := (Hop.joins_of_hasMany hm base path).symm.trans hsplit
    cases early with
    | nil =>
      obtain ⟨rfl, -⟩ := List.cons.inj hj
      exact Or.inl rfl
    | cons e early =>
      obtain ⟨he, hrest⟩ := List.cons.inj hj
      cases early with
      | nil =>
        obtain ⟨rfl, -⟩ := List.cons.inj hrest
        exact Or.inr ⟨e, List.mem_cons_self .., by simp [Hop.targetJoin, hm, ← he]⟩
      | cons e' early => simp at hrest

/--
The joins of a depth-first traversal are linked: the relation by which an owner is reached is
visited, and joined, before the relations of that owner.
-/
theorem DepthFirst.joins_linked {models : Models} {template : OrderedMap Value} {depth : Nat}
    {m : Model} {vs : List Visit} (hvs : DepthFirst models template depth m vs)
    (hnames : models.FieldNames (· ≠ "")) (hm : m ∈ models.values) (base : String) :
    Linked base (vs.flatMap (Visit.joins base)) := by
  intro before j after hsplit
  obtain ⟨passed, v, rest, early, late, rfl, hv, rfl⟩ := split_of_flatMap hsplit
  cases v with
  | column r owner t => simp [Visit.joins] at hv
  | relation r h =>
    rcases Hop.leftTable_of_split hv with hleft | ⟨e, he, hleft⟩
    · rcases r.eq_nil_or_concat with rfl | ⟨r, g, rfl⟩
      · exact Or.inl hleft
      · rw [List.concat_eq_append] at hleft hvs
        obtain ⟨hlength, hfrom⟩ := (hvs.mem_iff (.relation (r ++ [g]) h)).mp (by simp)
        obtain ⟨hfrom, -⟩ := (Route.from_append (r ++ [g]) [h]).mp hfrom
        -- `g` reaches the owner of `h`, and its place is in front of that of `h`
        have hreach : .relation r g ∈ passed ++ .relation (r ++ [g]) h :: rest :=
          (hvs.mem_iff _).mpr ⟨by simp at hlength; omega, hfrom⟩
        have hpassed := mem_of_place_lt hvs.sorted hreach
          (Visit.place_lt_of_behind (List.prefix_refl _))
        have hname : g.traits.name ≠ "" :=
          hfrom.names_satisfy hnames hm _ (by simp [Route.names])
        have hlast := Hop.joins_getLast? (Route.tableAlias base "" r) (Route.path "" r) g
        refine Or.inr ⟨_, List.mem_append_left _
          (List.mem_flatMap.mpr ⟨_, hpassed, List.mem_of_getLast? hlast⟩), ?_⟩
        rw [hleft, Route.tableAlias_append, Hop.targetJoin_rightName hname]
    · exact Or.inr ⟨e, List.mem_append_right _ he, hleft⟩

/-! ### Joins follow compiled foreign keys -/

def Join.AlongKey (j : Join) (table : Table) : Prop :=
  ∃ key, table.foreignKeys.get? j.leftColumn = some key ∧
    key.table = j.rightTable ∧ key.column = j.rightColumn

structure FitsTable (table : Table) (j : Join) : Prop where
  column : ∃ c, table.column? j.leftColumn = some c ∧ (j.kind = .inner ↔ c.nullable = false)
  key : j.AlongKey table

/--
Two joins that lead through a junction table, against its key to `ownerTable` and along its key to
the target. The first key is lost when the columns of the two have one name.
-/
structure FitsJunction (t : JunctionTable) (ownerTable : String) (link j : Join) : Prop where
  kind : link.kind = j.kind
  name : t.name = link.rightTable
  ownerColumn : link.rightColumn ∈ t.columns.map fun c => c.name
  targetColumn : j.leftColumn ∈ t.columns.map fun c => c.name
  key : j.AlongKey t.toTable
  ownerKey : link.rightColumn ≠ j.leftColumn →
    ∃ key, t.foreignKeys.get? link.rightColumn = some key ∧
      key.table = ownerTable ∧ key.column = link.leftColumn

theorem Hop.Follows.contribution {models : Models} {template : OrderedMap Value} {h : Hop}
    (hf : h.Follows models template) {cs : List Contribution}
    (hcs : List.Forall₂
      (fun e c => Contribution.ofDeclaration models h.owner template e.1 e.2 = .ok c)
      h.owner.fields.entries cs) :
    ∃ target default, (if h.hasMany then
          Contribution.junction
            (.build h.owner.tableName h.traits.name target h.target.tableName)
        else
          .reference (.ofField (.relation h.traits target h.hasMany default))
            { constraint := Naming.foreignKeyName h.owner.tableName h.traits.name
              table := h.target.tableName }) ∈ cs := by
  obtain ⟨target, default, ⟨raw, hraw, hresolve⟩, hget⟩ := hf
  -- the compiler settles the declared field once more, to the same relation
  obtain ⟨c, hc, hdecl⟩ := exists_related hcs hraw
  obtain ⟨f, hf, hfield⟩ := Contribution.ofDeclaration_eq_ok_iff.mp hdecl
  obtain rfl := Except.ok.inj (hresolve.symm.trans hf)
  obtain ⟨targetModel, hget', rfl⟩ := Contribution.target_of_ofField hfield
  obtain rfl := Option.some.inj (hget.symm.trans hget')
  exact ⟨target, default, hc⟩

theorem belongsTo_fits {models : Models} {template : OrderedMap Value}
    {collation : Option String} {schema : Schema}
    (h : models.compile template collation = .ok schema) {hop : Hop}
    (hf : hop.Follows models template) (howner : hop.owner ∈ models.values)
    (hmany : hop.hasMany = false) (base path : String) :
    ∃ table junctions j, compileModel models hop.owner template collation = .ok (table, junctions) ∧
      table ∈ schema.tables ∧ hop.joins base path = [j] ∧ FitsTable table j := by
  obtain ⟨cs, hcs, hcompiled, htable, -⟩ := compiled_model h howner
  obtain ⟨target, default, hc⟩ := hf.contribution hcs
  simp only [hmany, Bool.false_eq_true, if_false] at hc
  have hjoins := Hop.joins_of_not_hasMany hmany base path
  have hleft : (Column.ofField (.relation hop.traits target false default)).name =
      (hop.targetJoin base path).leftColumn := by
    simp [Hop.targetJoin, hmany, Column.ofField, Field.traits]
  have hcolumn := ofContributions_column? collation hcs hc rfl
  have hkey := ofContributions_foreignKey collation hcs hc rfl
  rw [hleft] at hcolumn hkey
  refine ⟨_, _, _, hcompiled, htable, hjoins, ⟨_, hcolumn, ?_⟩, ⟨_, hkey, rfl, rfl⟩⟩
  rw [Hop.targetJoin, JoinKind.ofRequired_eq_inner_iff]
  simp [Column.ofField, Field.traits]

theorem hasMany_fits {models : Models} {template : OrderedMap Value}
    {collation : Option String} {schema : Schema}
    (h : models.compile template collation = .ok schema) {hop : Hop}
    (hf : hop.Follows models template) (howner : hop.owner ∈ models.values)
    (hmany : hop.hasMany = true) (base path : String) :
    ∃ t ∈ schema.junctions, ∃ link j, hop.joins base path = [link, j] ∧
      t.ownerTable = hop.owner.tableName ∧ t.fieldName = hop.traits.name ∧
      FitsJunction t hop.owner.tableName link j := by
  obtain ⟨cs, hcs, -, -, hjunctions⟩ := compiled_model h howner
  obtain ⟨target, default, hc⟩ := hf.contribution hcs
  simp only [hmany, if_true] at hc
  have hjoins := Hop.joins_of_hasMany hmany base path
  have hleft : (hop.targetJoin base path).leftColumn = Naming.junctionColumn hop.traits.name := by
    simp [Hop.targetJoin, hmany]
  refine ⟨_, hjunctions _ (List.mem_filterMap.mpr ⟨_, hc, rfl⟩), _, _, hjoins, rfl, rfl, ?_⟩
  constructor
  case kind => rfl
  case name => rfl
  case ownerColumn => simp [Hop.junctionJoin, JunctionTable.build, Column.link]
  case targetColumn => simp [hleft, JunctionTable.build, Column.link]
  case key =>
    have hkey := JunctionTable.build_foreignKeys hop.owner.tableName hop.traits.name target
      hop.target.tableName (hop.targetJoin base path).leftColumn
    rw [if_pos hleft] at hkey
    exact ⟨_, hkey, rfl, rfl⟩
  case ownerKey =>
    -- with one name for both columns the key to the target has taken the place of this one
    intro hne
    have hkey := JunctionTable.build_foreignKeys hop.owner.tableName hop.traits.name target
      hop.target.tableName (hop.junctionJoin base path).rightColumn
    rw [hleft] at hne
    rw [if_neg hne, Hop.junctionJoin, if_pos rfl] at hkey
    exact ⟨_, hkey, rfl, rfl⟩

/-! ### Plans and schemas -/

/--
The joins of a plan agree with a schema of the same models: they are linked, and what is visited
along a relation to one row is joined along a key of its owner's compiled table, along a relation
to many through the junction table compiled for it.
-/
structure PlanAgrees (models : Models) (template : OrderedMap Value) (collation : Option String)
    (schema : Schema) (plan : QueryPlan) (vs : List Visit) : Prop where
  joins : plan.joins = vs.flatMap (Visit.joins plan.baseAlias)
  linked : Linked plan.baseAlias plan.joins
  belongsTo : ∀ r h, .relation r h ∈ vs → h.hasMany = false →
    ∃ table junctions j, compileModel models h.owner template collation = .ok (table, junctions) ∧
      table ∈ schema.tables ∧
      (Visit.relation r h).joins plan.baseAlias = [j] ∧ FitsTable table j
  hasMany : ∀ r h, .relation r h ∈ vs → h.hasMany = true →
    ∃ t ∈ schema.junctions, ∃ link j,
      (Visit.relation r h).joins plan.baseAlias = [link, j] ∧
      t.ownerTable = h.owner.tableName ∧ t.fieldName = h.traits.name ∧
      FitsJunction t h.owner.tableName link j

/--
When a set of models compiles, each of them resolves without an override of its joins, and its plan
agrees with the schema.
-/
theorem plan_agrees_with_schema {sources : OrderedMap ModelSource} {models : Models}
    {template : OrderedMap Value} {collation : Option String} {schema : Schema} {name : String}
    {options : QueryOptions} {depth : Int}
    (hcompile : compileSchema sources template collation = .ok schema)
    (hparse : parseModels sources = .ok models) (hnames : models.FieldNames (· ≠ ""))
    (hname : name ∈ sources.names) (hdepth : 0 ≤ depth) (hjoins : options.joins = none) :
    ∃ model plan vs, models.get? name = some model ∧
      resolveQuery sources name options template depth = .ok plan ∧
      plan.baseAlias = options.baseAlias.getD name ∧
      DepthFirst models template depth.toNat model vs ∧
      PlanAgrees models template collation schema plan vs := by
  have hschema : models.compile template collation = .ok schema := by
    simpa only [compileSchema, hparse] using hcompile
  obtain ⟨plan, hplan⟩ := resolveQuery_of_contribute hparse (contribute_of_compile hschema) hname
    hdepth options
  obtain ⟨model, vs, hget, hmodel, hvs, -, hbase, -, hj⟩ := plan_visits hplan hparse
  have hhop : ∀ {r h}, .relation r h ∈ vs →
      h.owner ∈ models.values ∧ h.Follows models template := fun hv =>
    ((hvs.mem_iff _).mp hv).2.owner_mem hmodel _ (by simp)
  refine ⟨model, plan, vs, hget, hplan, hbase, hvs, hj hjoins, ?_, ?_, ?_⟩
  · rw [hj hjoins]
    exact hvs.joins_linked hnames hmodel plan.baseAlias
  · intro r h hv hmany
    obtain ⟨howner, hf⟩ := hhop hv
    exact belongsTo_fits hschema hf howner hmany _ _
  · intro r h hv hmany
    obtain ⟨howner, hf⟩ := hhop hv
    exact hasMany_fits hschema hf howner hmany _ _

theorem mentoring_compiles :
    ∃ schema, compileSchema mentoring defaultTemplate none = .ok schema := by
  apply exists_ok_of_isSome
  decide +kernel

theorem mentoring_agrees_with_schema :
    ∃ schema, compileSchema mentoring defaultTemplate none = .ok schema ∧
      parseModels mentoring = .ok mentoringModels ∧ mentoringModels.FieldNames (· ≠ "") ∧
      "user" ∈ mentoring.names ∧
      ∃ model plan vs, mentoringModels.get? "user" = some model ∧
        resolveQuery mentoring "user" { baseAlias := some "u" } defaultTemplate 2 = .ok plan ∧
        plan.baseAlias = "u" ∧
        DepthFirst mentoringModels defaultTemplate 2 model vs ∧
        PlanAgrees mentoringModels defaultTemplate none schema plan vs := by
  obtain ⟨schema, hschema⟩ := mentoring_compiles
  have hnames : mentoringModels.FieldNames (· ≠ "") := fun m hm name hname =>
    (mentoring_names m hm name hname).ne_empty
  have huser : "user" ∈ mentoring.names := by decide +kernel
  exact ⟨schema, hschema, mentoring_admitted, hnames, huser,
    plan_agrees_with_schema hschema mentoring_admitted hnames huser (by decide) rfl⟩

end RelationalModels
