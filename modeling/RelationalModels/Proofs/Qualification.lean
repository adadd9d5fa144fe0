import RelationalModels.Proofs.Projection
import RelationalModels.Proofs.SelectEntry

/-!
# Select entries are qualified with the joined tables

A select entry names no table. When it is read back, the table is found again from the dots in its
label. `select_entries_qualified` states that this is the alias under which the plan has joined that
table, at every number of hops.
-/

namespace RelationalModels

open RelationalModels.Text RelationalModels.Sql

def Models.FieldNames (p : String → Prop) (models : Models) : Prop :=
  ∀ m ∈ models.values, ∀ name ∈ m.fields.names, p name

def IsWordName (name : String) : Prop := isBareName name.toList = true

theorem IsWordName.ne_empty {name : String} (h : IsWordName name) : name ≠ "" := by
  rintro rfl
  cases h

theorem IsWordName.dot_notMem {name : String} (h : IsWordName name) : '.' ∉ name.toList := by
  intro hdot
  have hword := (isBareName_iff.mp h).2 '.' hdot
  exact absurd hword (by decide)

/-! ### Field names along a route -/

theorem Model.Declares.name_mem {template : OrderedMap Value} {m : Model} {f : Field}
    (h : m.Declares template f) : f.traits.name ∈ m.fields.names := by
  obtain ⟨raw, hraw, -⟩ := h
  exact List.mem_map_of_mem hraw

theorem Hop.Follows.target_mem {models : Models} {template : OrderedMap Value} {h : Hop}
    (hf : h.Follows models template) : h.target ∈ models.values := by
  obtain ⟨target, d, -, hget⟩ := hf
  exact OrderedMap.mem_values_of_get? hget

theorem Hop.Follows.name_mem {models : Models} {template : OrderedMap Value} {h : Hop}
    (hf : h.Follows models template) : h.traits.name ∈ h.owner.fields.names := by
  obtain ⟨target, d, hdecl, -⟩ := hf
  exact hdecl.name_mem

theorem Route.From.owner_mem {models : Models} {template : OrderedMap Value} {m : Model}
    {r : Route} (hm : m ∈ models.values) (hr : Route.From models template m r) :
    ∀ h ∈ r, h.owner ∈ models.values ∧ h.Follows models template := by
  induction r generalizing m with
  | nil => simp
  | cons h r ih =>
    obtain ⟨rfl, hf, hr⟩ := hr
    intro k hk
    rcases List.mem_cons.mp hk with rfl | hk
    · exact ⟨hm, hf⟩
    · exact ih hf.target_mem hr k hk

theorem Route.From.names_satisfy {models : Models} {template : OrderedMap Value}
    {p : String → Prop} (hp : models.FieldNames p) {m : Model} {r : Route}
    (hm : m ∈ models.values) (hr : Route.From models template m r) :
    ∀ name ∈ Route.names r, p name := by
  intro name hname
  obtain ⟨h, hh, rfl⟩ := List.mem_map.mp hname
  obtain ⟨howner, hf⟩ := hr.owner_mem hm h hh
  exact hp h.owner howner _ hf.name_mem

theorem Route.From.last_mem {models : Models} {template : OrderedMap Value} {m : Model}
    {r : Route} (hm : m ∈ models.values) (hr : Route.From models template m r) :
    Route.last m r ∈ models.values := by
  induction r generalizing m with
  | nil => exact hm
  | cons h r ih => exact ih hr.2.1.target_mem hr.2.2

/-! ### Aliases along a route -/

theorem splitOnChar_intercalate {parts : List String} (hne : parts ≠ [])
    (hdot : ∀ s ∈ parts, '.' ∉ s.toList) :
    splitOnChar '.' (".".intercalate parts).toList = parts.map String.toList := by
  rw [splitOnChar_eq_splitOn, String.toList_intercalate]
  refine List.splitOn_intercalate '.' ?_ (by simpa using hne)
  intro l hl
  obtain ⟨t, ht, rfl⟩ := List.mem_map.mp hl
  exact hdot t ht

theorem hops_intercalate {parts : List String} (hdot : ∀ s ∈ parts, '.' ∉ s.toList) :
    Naming.hops (".".intercalate parts) = parts.filter fun s => s ≠ "" := by
  cases parts with
  | nil => rfl
  | cons s parts =>
    have hempty : ∀ t : String, (!t.toList.isEmpty) = decide (t ≠ "") := by
      intro t
      by_cases ht : t = "" <;> simp [ht]
    rw [Naming.hops, splitOnChar_intercalate (by simp) hdot, List.filter_map, List.map_map]
    simp only [Function.comp_def, hempty, String.ofList_toList, List.map_id']

theorem hops_intercalate_of_names {names : List String} (hnames : ∀ s ∈ names, IsWordName s) :
    Naming.hops (".".intercalate names) = names := by
  rw [hops_intercalate fun s hs => (hnames s hs).dot_notMem]
  exact List.filter_eq_self.mpr fun s hs => by simpa using (hnames s hs).ne_empty

/-- The path along a route has one dot too many at its end, which adds nothing but an empty part. -/
theorem hops_path {r : Route} (hnames : ∀ s ∈ Route.names r, IsWordName s) :
    Naming.hops (Route.path "" r) = Route.names r := by
  have hpath : Route.path "" r = ".".intercalate (Route.names r ++ [""]) := by
    simpa using Route.path_append_name "" r ""
  have hself : (Route.names r).filter (fun s => s ≠ "") = Route.names r :=
    List.filter_eq_self.mpr fun s hs => by simpa using (hnames s hs).ne_empty
  have hdot : ∀ s ∈ Route.names r ++ [""], '.' ∉ s.toList := by
    intro s hs
    rcases List.mem_append.mp hs with hs | hs
    · exact (hnames s hs).dot_notMem
    · simp_all
  rw [hpath, hops_intercalate hdot, List.filter_append, hself]
  simp

theorem intercalate_names_ne_empty {names : List String} (hnames : ∀ s ∈ names, IsWordName s)
    (hne : names ≠ []) : ".".intercalate names ≠ "" := by
  intro hempty
  have hhops := hops_intercalate_of_names hnames
  rw [hempty] at hhops
  exact hne hhops.symm

/--
The alias of the table at the end of a route is the names of its hops with double underscores
between them.
-/
theorem tableAlias_eq_intercalate {r : Route} {h : Hop}
    (hnames : ∀ s ∈ Route.names r, IsWordName s) (base : String) :
    Route.tableAlias base "" (r ++ [h]) =
      "__".intercalate (Route.names r ++ [h.traits.name]) := by
  rw [Route.tableAlias_append, Naming.joinAlias, hops_path hnames]

theorem tableOfAlias_label {r : Route} {name : String} (hr : ∀ s ∈ Route.names r, IsWordName s)
    (hname : IsWordName name) (base : String) :
    tableOfAlias (".".intercalate (Route.names r ++ [name])) base =
      Route.tableAlias base "" r := by
  have hdot : ∀ s ∈ Route.names r ++ [name], '.' ∉ s.toList := by
    intro s hs
    rcases List.mem_append.mp hs with hs | hs
    · exact (hr s hs).dot_notMem
    · rw [List.mem_singleton.mp hs]
      exact hname.dot_notMem
  have hinit : ((Route.names r ++ [name]).map String.toList).dropLast =
      (Route.names r).map String.toList := by
    simp
  -- without its last part the label is the route, whose last hop names the table
  rw [tableOfAlias, splitOnChar_intercalate (by simp) hdot, hinit]
  rcases r.eq_nil_or_concat with rfl | ⟨before, h, rfl⟩
  · rfl
  · rw [List.concat_eq_append, Route.names_concat] at hr ⊢
    have hbefore : ∀ s ∈ Route.names before, IsWordName s :=
      fun s hs => hr s (List.mem_append_left _ hs)
    rw [tableAlias_eq_intercalate hbefore]
    simp [Naming.joinAlias, hops_intercalate_of_names hbefore]

/-! ### Plans -/

/--
The visits of a plan give its select entries and its joins. The entry of a scalar of the model
itself is read back as that scalar of the plan's own alias, and the entry of any other scalar as
that scalar of the last table joined for the relation through which it is reached, each under the
names along its route with dots between them.
-/
structure EntriesQualified (plan : QueryPlan) (vs : List Visit) : Prop where
  selects : plan.selectColumns = vs.flatMap Visit.entries
  joins : plan.joins = vs.flatMap (Visit.joins plan.baseAlias)
  own : ∀ owner traits, .column [] owner traits ∈ vs →
    ∃ entry, Visit.entries (.column [] owner traits) = [entry] ∧
      SelectEntry.ofText entry plan.baseAlias =
        ⟨plan.baseAlias ++ "." ++ traits.name, .named traits.name⟩
  joined : ∀ before hop owner traits, .column (before ++ [hop]) owner traits ∈ vs →
    .relation before hop ∈ vs ∧
    ∃ entry, Visit.entries (.column (before ++ [hop]) owner traits) = [entry] ∧
      ∃ j ∈ plan.joins,
        (Visit.joins plan.baseAlias (.relation before hop)).getLast? = some j ∧
        SelectEntry.ofText entry plan.baseAlias =
          ⟨j.rightName ++ "." ++ traits.name,
           .named (".".intercalate (Route.names (before ++ [hop]) ++ [traits.name]))⟩

theorem ofText_entry {r : Route} {name : String} (hr : ∀ s ∈ Route.names r, IsWordName s)
    (hname : IsWordName name) (base : String) :
    SelectEntry.ofText
        (Naming.selectExpression name (".".intercalate (Route.names r ++ [name]))) base =
      ⟨Route.tableAlias base "" r ++ "." ++ name,
       .named (".".intercalate (Route.names r ++ [name]))⟩ := by
  have hnames : ∀ s ∈ Route.names r ++ [name], IsWordName s :=
    List.forall_mem_append.mpr ⟨hr, List.forall_mem_singleton.mpr hname⟩
  have hlabel := intercalate_names_ne_empty hnames (by simp)
  rw [ofText_selectExpression hname hlabel, tableOfAlias_label hr hname]

/-- Without overrides of select entries and joins, all entries of a plan are qualified. -/
theorem select_entries_qualified {sources : OrderedMap ModelSource} {name : String}
    {options : QueryOptions} {template : OrderedMap Value} {depth : Int} {plan : QueryPlan}
    {models : Models} (h : resolveQuery sources name options template depth = .ok plan)
    (hselect : options.select = none) (hjoins : options.joins = none)
    (hparse : parseModels sources = .ok models) (hnames : models.FieldNames IsWordName) :
    ∃ model vs, models.get? name = some model ∧
      DepthFirst models template depth.toNat model vs ∧ EntriesQualified plan vs := by
  obtain ⟨model, vs, hget, hmodel, hvs, -, -, hs, hj⟩ := plan_visits h hparse
  refine ⟨model, vs, hget, hvs, hs hselect, hj hjoins, ?_, ?_⟩
  · intro owner traits hcolumn
    obtain ⟨-, -, rfl, type, default, hdecl⟩ := (hvs.mem_iff _).mp hcolumn
    have hname : IsWordName traits.name := hnames _ hmodel _ hdecl.name_mem
    have hentry := ofText_entry (r := []) (by simp [Route.names]) hname plan.baseAlias
    exact ⟨_, rfl, hentry⟩
  · intro before hop owner traits hcolumn
    obtain ⟨hlength, hfrom, rfl, type, default, hdecl⟩ := (hvs.mem_iff _).mp hcolumn
    have hroute : ∀ s ∈ Route.names (before ++ [hop]), IsWordName s :=
      hfrom.names_satisfy hnames hmodel
    have hname : IsWordName traits.name := hnames _ (hfrom.last_mem hmodel) _ hdecl.name_mem
    have hhop : hop.traits.name ≠ "" := (hroute _ (by simp [Route.names])).ne_empty
    have hrelation : .relation before hop ∈ vs :=
      (hvs.mem_iff _).mpr ⟨by simpa using hlength, hfrom⟩
    have hlast := Hop.joins_getLast? (Route.tableAlias plan.baseAlias "" before)
      (Route.path "" before) hop
    refine ⟨hrelation, _, rfl, _, ?_, hlast, ?_⟩
    · rw [hj hjoins, List.mem_flatMap]
      exact ⟨_, hrelation, List.mem_of_getLast? hlast⟩
    · rw [Hop.targetJoin_rightName hhop, ← Route.tableAlias_append plan.baseAlias]
      exact ofText_entry hroute hname plan.baseAlias

def mentoringModels : Models :=
  .ofList
    [("tag", (Model.ofFields [("label", .empty)]).withId "tag"),
     ("user", (Model.ofFields
       [("mentor", declaredRelation "user" false true), ("name", .empty),
        ("tags", declaredRelation "tag" true false)]).withId "user")]

theorem mentoring_admitted : parseModels mentoring = .ok mentoringModels := by
  decide +kernel

theorem mentoring_names : mentoringModels.FieldNames IsWordName := by
  unfold Models.FieldNames IsWordName
  decide +kernel

theorem mentoring_entries_qualified :
    resolveQuery mentoring "user" {} defaultTemplate 2 = .ok mentoringPlan ∧
      parseModels mentoring = .ok mentoringModels ∧ mentoringModels.FieldNames IsWordName ∧
      ∃ model vs, mentoringModels.get? "user" = some model ∧
        DepthFirst mentoringModels defaultTemplate 2 model vs ∧
        EntriesQualified mentoringPlan vs :=
  ⟨mentoring_resolves, mentoring_admitted, mentoring_names,
    select_entries_qualified mentoring_resolves rfl rfl mentoring_admitted mentoring_names⟩

end RelationalModels
