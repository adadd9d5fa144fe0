import RelationalModels.Proofs.Qualification

/-!
# What the tables of one query go by

A query reads the model's own table, the target of every relation it follows and the junction table
of every has-many relation. Each of them goes by a name that is glued together from parts with
double underscores. `from_names_nodup_iff` states when these names are all different: gluing must
not make two lists of parts one name, and neither a relation nor a junction table may take the name
of another table. `comments_names_clash` shows a model whose relation has the name of the model.
-/

namespace RelationalModels

open RelationalModels.Text

def QueryPlan.fromNames (plan : QueryPlan) : List String :=
  plan.baseAlias :: plan.joins.map Join.rightName

/-! ### Tables and the parts of their names -/

inductive FromTable where
  | own
  | junction (route : Route) (hop : Hop)
  | target (route : Route) (hop : Hop)

namespace FromTable

/-- The parts of the name that a table goes by; junctions of the model itself have no path. -/
def parts (base : String) : FromTable → List String
  | own => [base]
  | junction [] h => [h.junction]
  | junction (g :: r) h => Route.names (g :: r ++ [h]) ++ [h.junction]
  | target r h => Route.names (r ++ [h])

def name (base : String) (t : FromTable) : String := "__".intercalate (t.parts base)

theorem parts_target (base : String) (r : Route) (h : Hop) :
    (target r h).parts base = Route.names r ++ [h.traits.name] := Route.names_concat r h

def visit? : FromTable → Option Visit
  | own => none
  | junction r h => some (.relation r h)
  | target r h => some (.relation r h)

end FromTable

def Visit.tables : Visit → List FromTable
  | column _ _ _ => []
  | relation r h => if h.hasMany then [.junction r h, .target r h] else [.target r h]

def fromTables (vs : List Visit) : List FromTable := .own :: vs.flatMap Visit.tables

theorem Visit.visit?_of_mem_tables {v : Visit} {t : FromTable} (ht : t ∈ v.tables) :
    t.visit? = some v := by
  cases v with
  | column r owner traits => cases ht
  | relation r h =>
    cases hm : h.hasMany with
    | false =>
      obtain rfl : t = .target r h := by simpa [Visit.tables, hm] using ht
      rfl
    | true =>
      obtain rfl | rfl : t = .junction r h ∨ t = .target r h := by
        simpa [Visit.tables, hm] using ht
      · rfl
      · rfl

theorem junction_mem_fromTables {vs : List Visit} {r : Route} {h : Hop} :
    .junction r h ∈ fromTables vs ↔ .relation r h ∈ vs ∧ h.hasMany = true := by
  rw [fromTables, List.mem_cons, List.mem_flatMap]
  constructor
  · rintro (hown | ⟨v, hv, ht⟩)
    · cases hown
    · obtain rfl : .relation r h = v := Option.some.inj (Visit.visit?_of_mem_tables ht)
      cases hm : h.hasMany with
      | false => simp [Visit.tables, hm] at ht
      | true => exact ⟨hv, rfl⟩
  · rintro ⟨hv, hm⟩
    exact Or.inr ⟨_, hv, by simp [Visit.tables, hm]⟩

theorem target_mem_fromTables {vs : List Visit} {r : Route} {h : Hop} :
    .target r h ∈ fromTables vs ↔ .relation r h ∈ vs := by
  rw [fromTables, List.mem_cons, List.mem_flatMap]
  constructor
  · rintro (hown | ⟨v, hv, ht⟩)
    · cases hown
    · obtain rfl : .relation r h = v := Option.some.inj (Visit.visit?_of_mem_tables ht)
      exact hv
  · intro hv
    refine Or.inr ⟨_, hv, ?_⟩
    cases hm : h.hasMany <;> simp [Visit.tables, hm]

theorem fromTables_nodup {vs : List Visit} (hvs : vs.Nodup) : (fromTables vs).Nodup := by
  rw [fromTables, List.nodup_cons, List.nodup_flatMap]
  -- each table knows the visit that it is joined for
  refine ⟨?_, ?_, ?_⟩
  · intro hown
    obtain ⟨v, -, ht⟩ := List.mem_flatMap.mp hown
    cases Visit.visit?_of_mem_tables ht
  · intro v _
    cases v with
    | column r owner traits => exact List.nodup_nil
    | relation r h => cases hm : h.hasMany <;> simp [Visit.tables, hm]
  · refine hvs.imp ?_
    intro v w hne t hv hw
    have hv := Visit.visit?_of_mem_tables hv
    have hw := Visit.visit?_of_mem_tables hw
    exact hne (Option.some.inj (hv.symm.trans hw))

/-! ### Joined tables go by glued names -/

theorem glue_concat (ss : List String) (s t : String) :
    "__".intercalate (ss ++ [s ++ "__" ++ t]) = "__".intercalate (ss ++ [s, t]) := by
  have htwo : "__".intercalate [s, t] = s ++ "__" ++ t := by
    simp [String.intercalate_cons_of_ne_nil]
  cases ss with
  | nil => simp
  | cons a ss =>
    rw [String.intercalate_append_of_ne_nil (by simp) (by simp),
      String.intercalate_append_of_ne_nil (by simp) (by simp), htwo, String.intercalate_singleton]

theorem Hop.targetJoin_name {r : Route} {h : Hop}
    (hnames : ∀ s ∈ Route.names (r ++ [h]), IsWordName s) (base owner : String) :
    (h.targetJoin owner (Route.path "" r)).rightName = (FromTable.target r h).name base := by
  have hr : ∀ s ∈ Route.names r, IsWordName s :=
    fun s hs => hnames s (by rw [Route.names_concat]; exact List.mem_append_left _ hs)
  have hname : h.traits.name ≠ "" := (hnames _ (by simp [Route.names])).ne_empty
  rw [Hop.targetJoin_rightName hname, Naming.joinAlias, hops_path hr, FromTable.name,
    FromTable.parts_target]

theorem Hop.junctionJoin_name {r : Route} {h : Hop}
    (hnames : ∀ s ∈ Route.names (r ++ [h]), IsWordName s) (base owner : String) :
    (h.junctionJoin owner (Route.path "" r)).rightName = (FromTable.junction r h).name base := by
  cases r with
  | nil => simp [Join.rightName, Join.alias?, Hop.junctionJoin, Naming.junctionAlias?, Route.path,
      FromTable.name, FromTable.parts]
  | cons g r =>
    have hr : ∀ s ∈ Route.names (g :: r), IsWordName s :=
      fun s hs => hnames s (by rw [Route.names_concat]; exact List.mem_append_left _ hs)
    have hhops := hops_path hr
    -- the path is not empty, since it has the names of the route between its dots
    have hpath : (Route.path "" (g :: r)).isEmpty = false := by
      rw [String.isEmpty_eq_false_iff]
      intro hempty
      rw [hempty] at hhops
      cases hhops
    have halias : Naming.joinAlias (Route.path "" (g :: r)) (h.traits.name ++ "__" ++ h.junction) =
        (FromTable.junction (g :: r) h).name base := by
      rw [Naming.joinAlias, hhops, glue_concat, FromTable.name, FromTable.parts, Route.names_concat]
      simp
    have hne : h.traits.name ++ "__" ++ h.junction ≠ "" := by simp
    have hfull := Naming.joinAlias_ne_empty hne (Route.path "" (g :: r))
    rw [halias] at hfull
    simp [Join.rightName, Join.alias?, Hop.junctionJoin, Naming.junctionAlias?, hpath, halias,
      Option.filter, hfull]

theorem Visit.joins_names {models : Models} {template : OrderedMap Value} {depth : Nat}
    {m : Model} (hm : m ∈ models.values) (hwords : models.FieldNames IsWordName) {v : Visit}
    (hv : v.Within models template depth m) (base : String) :
    (v.joins base).map Join.rightName = v.tables.map (FromTable.name base) := by
  cases v with
  | column r owner traits => rfl
  | relation r h =>
    have hnames : ∀ s ∈ Route.names (r ++ [h]), IsWordName s := hv.2.names_satisfy hwords hm
    have htarget := Hop.targetJoin_name hnames base (Route.tableAlias base "" r)
    have hjunction := Hop.junctionJoin_name hnames base (Route.tableAlias base "" r)
    cases hmany : h.hasMany with
    | false => simp [Visit.joins, Hop.joins, Visit.tables, hmany, htarget]
    | true => simp [Visit.joins, Hop.joins, Visit.tables, hmany, htarget, hjunction]

/-! ### Names that take one another's place -/

def GluedApart (base : String) (vs : List Visit) : Prop :=
  ∀ t ∈ fromTables vs, ∀ u ∈ fromTables vs, t.name base = u.name base → t.parts base = u.parts base

/--
No relation and no junction table has the name of another table: a relation of the model itself has
neither the name of the model's own table nor that of one of its junction tables, and a relation
behind a has-many relation does not have the name of that relation's junction table.
-/
structure Unclashing (base : String) (vs : List Visit) : Prop where
  relation_own : ∀ h, .relation [] h ∈ vs → h.traits.name ≠ base
  junction_own : ∀ h, .relation [] h ∈ vs → h.hasMany = true → h.junction ≠ base
  relation_junction : ∀ h k, .relation [] h ∈ vs → .relation [] k ∈ vs → h.hasMany = true →
    k.traits.name ≠ h.junction
  behind_junction : ∀ r h k, r ≠ [] → .relation r h ∈ vs → .relation (r ++ [h]) k ∈ vs →
    h.hasMany = true → k.traits.name ≠ h.junction

section Clashes

variable {models : Models} {template : OrderedMap Value} {depth : Nat} {m : Model}
  {vs : List Visit} {r s : Route} {h k : Hop}

theorem DepthFirst.eq_of_route_names (hvs : DepthFirst models template depth m vs)
    (hr : .relation r h ∈ vs) (hs : .relation s k ∈ vs)
    (hnames : Route.names (r ++ [h]) = Route.names (s ++ [k])) : r = s ∧ h = k := by
  have hsame : r ++ [h] = s ++ [k] :=
    Route.eq_of_names ((hvs.mem_iff _).mp hr).2 ((hvs.mem_iff _).mp hs).2 hnames
  obtain ⟨hroutes, hlast⟩ := List.append_inj' hsame rfl
  exact ⟨hroutes, (List.cons.inj hlast).1⟩

theorem DepthFirst.junction_parts_ne (hvs : DepthFirst models template depth m vs) {base : String}
    (hun : Unclashing base vs) (hr : .relation r h ∈ vs) (hmany : h.hasMany = true)
    (hs : .relation s k ∈ vs) :
    (FromTable.junction r h).parts base ≠ (FromTable.target s k).parts base := by
  intro hparts
  rw [FromTable.parts_target] at hparts
  cases r with
  | nil =>
    -- one part, so that the target is that of a relation of the model itself
    have hone : [] ++ [h.junction] = Route.names s ++ [k.traits.name] := hparts
    obtain ⟨hnil, hlast⟩ := List.append_inj' hone rfl
    obtain rfl : s = [] := by simpa [Route.names] using hnil.symm
    exact hun.relation_junction h k hr hs hmany (List.cons.inj hlast).1.symm
  | cons g r =>
    obtain ⟨hnames, hlast⟩ := List.append_inj' hparts rfl
    have hfrom := (Route.from_append s [k]).mp ((hvs.mem_iff _).mp hs).2
    obtain rfl : g :: r ++ [h] = s :=
      Route.eq_of_names ((hvs.mem_iff _).mp hr).2 hfrom.1 hnames
    exact hun.behind_junction (g :: r) h k (by simp) hr hs hmany (List.cons.inj hlast).1.symm

theorem DepthFirst.junction_eq_of_parts (hvs : DepthFirst models template depth m vs)
    {base : String} (hr : .relation r h ∈ vs) (hs : .relation s k ∈ vs)
    (hparts : (FromTable.junction r h).parts base = (FromTable.junction s k).parts base) :
    r = s ∧ h = k := by
  -- a junction has one part at the top level and more of them further down
  cases r with
  | nil =>
    cases s with
    | nil =>
      obtain ⟨howner, -, -⟩ := ((hvs.mem_iff _).mp hr).2
      obtain ⟨howner', -, -⟩ := ((hvs.mem_iff _).mp hs).2
      have hjunction : h.junction = k.junction := (List.cons.inj hparts).1
      rw [Hop.junction, Hop.junction, howner, howner'] at hjunction
      have hname : h.traits.name = k.traits.name := by
        simpa [Naming.junctionTableName] using hjunction
      exact hvs.eq_of_route_names hr hs (by simp [Route.names, hname])
    | cons g s =>
      have hlength := congrArg List.length hparts
      simp [FromTable.parts, Route.names] at hlength
  | cons g r =>
    cases s with
    | nil =>
      have hlength := congrArg List.length hparts
      simp [FromTable.parts, Route.names] at hlength
    | cons g' s => exact hvs.eq_of_route_names hr hs (List.append_inj' hparts rfl).1

theorem Unclashing.own_parts_ne {base : String} (hun : Unclashing base vs) {t : FromTable}
    (ht : t ∈ fromTables vs) (hne : t ≠ .own) : t.parts base ≠ FromTable.own.parts base := by
  intro hparts
  cases t with
  | own => exact hne rfl
  | junction r h =>
    obtain ⟨hv, hmany⟩ := junction_mem_fromTables.mp ht
    cases r with
    | nil => exact hun.junction_own h hv hmany (List.cons.inj hparts).1
    | cons g r =>
      have hlength := congrArg List.length hparts
      simp [FromTable.parts, Route.names] at hlength
  | target r h =>
    have hv := target_mem_fromTables.mp ht
    rw [FromTable.parts_target] at hparts
    have hone : Route.names r ++ [h.traits.name] = [] ++ [base] := hparts
    obtain ⟨hnil, hlast⟩ := List.append_inj' hone rfl
    obtain rfl : r = [] := by simpa [Route.names] using hnil
    exact hun.relation_own h hv (List.cons.inj hlast).1

theorem DepthFirst.eq_of_parts (hvs : DepthFirst models template depth m vs) {base : String}
    (hun : Unclashing base vs) {t u : FromTable} (ht : t ∈ fromTables vs)
    (hu : u ∈ fromTables vs) (hparts : t.parts base = u.parts base) : t = u := by
  -- tables of different kinds would clash, and those of one kind have the same route
  by_cases hown : u = .own
  · by_contra hne
    rw [hown] at hne hparts
    exact hun.own_parts_ne ht hne hparts
  by_cases hown' : t = .own
  · rw [hown'] at hparts
    exact absurd hparts.symm (hun.own_parts_ne hu hown)
  cases t with
  | own => exact absurd rfl hown'
  | junction r h =>
    obtain ⟨hv, hmany⟩ := junction_mem_fromTables.mp ht
    cases u with
    | own => exact absurd rfl hown
    | junction s k =>
      obtain ⟨rfl, rfl⟩ := hvs.junction_eq_of_parts hv (junction_mem_fromTables.mp hu).1 hparts
      rfl
    | target s k =>
      exact absurd hparts (hvs.junction_parts_ne hun hv hmany (target_mem_fromTables.mp hu))
  | target r h =>
    have hv := target_mem_fromTables.mp ht
    cases u with
    | own => exact absurd rfl hown
    | junction s k =>
      obtain ⟨hw, hmany⟩ := junction_mem_fromTables.mp hu
      exact absurd hparts.symm (hvs.junction_parts_ne hun hw hmany hv)
    | target s k =>
      obtain ⟨rfl, rfl⟩ := hvs.eq_of_route_names hv (target_mem_fromTables.mp hu) hparts
      rfl

theorem Unclashing.of_name_inj {base : String}
    (hinj : ∀ t ∈ fromTables vs, ∀ u ∈ fromTables vs, t.name base = u.name base → t = u) :
    Unclashing base vs where
  relation_own h hv heq := by
    have hsame := hinj _ (target_mem_fromTables.mpr hv) .own (List.mem_cons_self ..)
      (by simp [FromTable.name, FromTable.parts, Route.names, heq])
    cases hsame
  junction_own h hv hmany heq := by
    have hsame := hinj _ (junction_mem_fromTables.mpr ⟨hv, hmany⟩) .own (List.mem_cons_self ..)
      (by simp [FromTable.name, FromTable.parts, heq])
    cases hsame
  relation_junction h k hv hw hmany heq := by
    have hsame := hinj _ (target_mem_fromTables.mpr hw) _
      (junction_mem_fromTables.mpr ⟨hv, hmany⟩)
      (by simp [FromTable.name, FromTable.parts, Route.names, heq])
    cases hsame
  behind_junction r h k hne hv hw hmany heq := by
    obtain ⟨g, r, rfl⟩ := List.exists_cons_of_ne_nil hne
    have hsame := hinj _ (target_mem_fromTables.mpr hw) _
      (junction_mem_fromTables.mpr ⟨hv, hmany⟩)
      (by simp [FromTable.name, FromTable.parts, Route.names, heq])
    cases hsame

theorem DepthFirst.names_nodup_iff (hvs : DepthFirst models template depth m vs) (base : String) :
    ((fromTables vs).map (FromTable.name base)).Nodup ↔
      GluedApart base vs ∧ Unclashing base vs := by
  rw [List.nodup_map_iff_inj_on (fromTables_nodup (hvs.names_nodup.of_map _))]
  constructor
  · intro hinj
    refine ⟨?_, .of_name_inj hinj⟩
    intro t ht u hu hname
    rw [hinj t ht u hu hname]
  · rintro ⟨hglued, hun⟩ t ht u hu hname
    exact hvs.eq_of_parts hun ht hu (hglued t ht u hu hname)

end Clashes

/-! ### Names that are glued apart -/

def IsPlainName (name : String) : Prop := [] ∉ name.toList.splitOn '_'

def Models.PlainNames (models : Models) : Prop :=
  models.FieldNames IsPlainName ∧ ∀ m ∈ models.values, IsPlainName m.tableName

theorem splitOn_glue (parts : List (List Char)) (hne : parts ≠ []) :
    (['_', '_'].intercalate parts).splitOn '_' =
      [[]].intercalate (parts.map (List.splitOn '_')) := by
  induction parts with
  | nil => exact absurd rfl hne
  | cons p parts ih =>
    cases parts with
    | nil => simp
    | cons q parts =>
      have hrest := ih (by simp)
      rw [List.map_cons] at hrest ⊢
      rw [List.map_cons, List.intercalate_cons_cons, List.intercalate_cons_cons, ← hrest]
      have hempty : (['_'] ++ ['_', '_'].intercalate (q :: parts)).splitOn '_' =
          [] :: (['_', '_'].intercalate (q :: parts)).splitOn '_' :=
        List.splitOn_append_cons_self [] _
      have hcut := List.splitOn_append_cons_self (a := '_') p
        (['_'] ++ ['_', '_'].intercalate (q :: parts))
      rw [hempty] at hcut
      simpa using hcut

theorem eq_of_glue {ss ts : List String} (hss : ∀ s ∈ ss, IsPlainName s)
    (hts : ∀ t ∈ ts, IsPlainName t) (hs : ss ≠ []) (ht : ts ≠ [])
    (heq : "__".intercalate ss = "__".intercalate ts) : ss = ts := by
  -- cut at every underscore, the glued name has an empty word where two parts meet
  have hwords : ∀ us : List String, (∀ u ∈ us, IsPlainName u) → us ≠ [] →
      ((("__".intercalate us).toList.splitOn '_').splitOn []) =
        us.map fun u => u.toList.splitOn '_' := by
    intro us hus hne
    rw [String.toList_intercalate]
    have hglue := splitOn_glue (us.map String.toList) (by simpa using hne)
    rw [List.map_map] at hglue
    change ((['_', '_'].intercalate (us.map String.toList)).splitOn '_').splitOn [] = _
    rw [hglue, List.splitOn_intercalate]
    · rfl
    · intro l hl
      obtain ⟨u, hu, rfl⟩ := List.mem_map.mp hl
      exact hus u hu
    · simpa using hne
  have hsame : ss.map (fun u => u.toList.splitOn '_') = ts.map fun u => u.toList.splitOn '_' := by
    rw [← hwords ss hss hs, ← hwords ts hts ht, heq]
  refine List.map_injective_iff.mpr ?_ hsame
  intro s t hst
  -- the words of a name, joined again, are the name
  have hjoin : ['_'].intercalate (s.toList.splitOn '_') =
      ['_'].intercalate (t.toList.splitOn '_') := congrArg _ hst
  rw [List.intercalate_splitOn, List.intercalate_splitOn] at hjoin
  exact String.toList_injective hjoin

theorem IsPlainName.junction {table field : String} (ht : IsPlainName table)
    (hf : IsPlainName field) : IsPlainName (Naming.junctionTableName table field) := by
  have hsplit : (Naming.junctionTableName table field).toList.splitOn '_' =
      table.toList.splitOn '_' ++ field.toList.splitOn '_' := by
    rw [← List.splitOn_append_cons_self]
    simp [Naming.junctionTableName]
  rw [IsPlainName, hsplit, List.mem_append]
  rintro (hempty | hempty)
  · exact ht hempty
  · exact hf hempty

theorem DepthFirst.parts_plain {models : Models} {template : OrderedMap Value} {depth : Nat}
    {m : Model} {vs : List Visit} (hvs : DepthFirst models template depth m vs)
    (hm : m ∈ models.values) (hplain : models.PlainNames) {base : String}
    (hbase : IsPlainName base) {t : FromTable} (ht : t ∈ fromTables vs) :
    ∀ s ∈ t.parts base, IsPlainName s := by
  have hroute : ∀ {r h}, .relation r h ∈ vs → ∀ s ∈ Route.names (r ++ [h]), IsPlainName s :=
    fun hv => ((hvs.mem_iff _).mp hv).2.names_satisfy hplain.1 hm
  cases t with
  | own =>
    intro s hs
    rw [List.mem_singleton.mp hs]
    exact hbase
  | target r h => exact hroute (target_mem_fromTables.mp ht)
  | junction r h =>
    obtain ⟨hv, -⟩ := junction_mem_fromTables.mp ht
    obtain ⟨howner, -⟩ := ((hvs.mem_iff _).mp hv).2.owner_mem hm h (by simp)
    have hname : IsPlainName h.traits.name := hroute hv _ (by simp [Route.names])
    have hjunction : IsPlainName h.junction := (hplain.2 h.owner howner).junction hname
    cases r with
    | nil =>
      intro s hs
      rw [List.mem_singleton.mp hs]
      exact hjunction
    | cons g r =>
      intro s hs
      rcases List.mem_append.mp hs with hs | hs
      · exact hroute hv s hs
      · rw [List.mem_singleton.mp hs]
        exact hjunction

theorem DepthFirst.gluedApart {models : Models} {template : OrderedMap Value} {depth : Nat}
    {m : Model} {vs : List Visit} (hvs : DepthFirst models template depth m vs)
    (hm : m ∈ models.values) (hplain : models.PlainNames) {base : String}
    (hbase : IsPlainName base) : GluedApart base vs := by
  have hne : ∀ t : FromTable, t.parts base ≠ [] := by
    intro t
    cases t with
    | own => simp [FromTable.parts]
    | junction r h => cases r <;> simp [FromTable.parts]
    | target r h => simp [FromTable.parts_target]
  intro t ht u hu hname
  exact eq_of_glue (hvs.parts_plain hm hplain hbase ht) (hvs.parts_plain hm hplain hbase hu)
    (hne t) (hne u) hname

/-! ### Plans -/

/--
Without an override of the joins, the tables of a query go by different names exactly when these
are glued apart and do not clash. Plain names are glued apart, so that they can only clash.
-/
theorem from_names_nodup_iff {sources : OrderedMap ModelSource} {name : String}
    {options : QueryOptions} {template : OrderedMap Value} {depth : Int} {plan : QueryPlan}
    {models : Models} (h : resolveQuery sources name options template depth = .ok plan)
    (hjoins : options.joins = none) (hparse : parseModels sources = .ok models)
    (hwords : models.FieldNames IsWordName) :
    ∃ model vs, models.get? name = some model ∧
      DepthFirst models template depth.toNat model vs ∧
      (plan.fromNames.Nodup ↔
        GluedApart plan.baseAlias vs ∧ Unclashing plan.baseAlias vs) ∧
      (models.PlainNames → IsPlainName plan.baseAlias → GluedApart plan.baseAlias vs) := by
  obtain ⟨model, vs, hget, hmodel, hvs, -, -, -, hj⟩ := plan_visits h hparse
  have hnames : plan.fromNames = (fromTables vs).map (FromTable.name plan.baseAlias) := by
    have hown : FromTable.own.name plan.baseAlias = plan.baseAlias := by
      simp [FromTable.name, FromTable.parts]
    rw [QueryPlan.fromNames, hj hjoins, fromTables, List.map_cons, hown, List.map_flatMap,
      List.map_flatMap]
    refine congrArg _ (List.flatMap_congr ?_)
    intro v hv
    exact Visit.joins_names hmodel hwords ((hvs.mem_iff v).mp hv) plan.baseAlias
  refine ⟨model, vs, hget, hvs, ?_, fun hplain hbase => hvs.gluedApart hmodel hplain hbase⟩
  rw [hnames]
  exact hvs.names_nodup_iff plan.baseAlias

theorem mentoring_from_names_nodup_iff :
    resolveQuery mentoring "user" {} defaultTemplate 2 = .ok mentoringPlan ∧
      parseModels mentoring = .ok mentoringModels ∧ mentoringModels.FieldNames IsWordName ∧
      mentoringModels.PlainNames ∧ IsPlainName "user" ∧
      ∃ model vs, mentoringModels.get? "user" = some model ∧
        DepthFirst mentoringModels defaultTemplate 2 model vs ∧
        (mentoringPlan.fromNames.Nodup ↔ GluedApart "user" vs ∧ Unclashing "user" vs) ∧
        GluedApart "user" vs := by
  have hplain : mentoringModels.PlainNames := by
    unfold Models.PlainNames Models.FieldNames IsPlainName
    decide +kernel
  have huser : IsPlainName "user" := by
    unfold IsPlainName
    decide +kernel
  obtain ⟨model, vs, hget, hvs, hiff, hglued⟩ :=
    from_names_nodup_iff mentoring_resolves rfl mentoring_admitted mentoring_names
  exact ⟨mentoring_resolves, mentoring_admitted, mentoring_names, hplain, huser, model, vs, hget,
    hvs, hiff, hglued hplain huser⟩

/-! ### Comments on comments -/

def comments : OrderedMap ModelSource :=
  .ofList
    [("comment", .admitted (.ofFields
      [("text", .empty), ("comment", declaredRelation "comment" false false)]))]

def commentsModels : Models :=
  .ofList
    [("comment", (Model.ofFields
      [("text", .empty), ("comment", declaredRelation "comment" false false)]).withId "comment")]

def commentsPlan : QueryPlan where
  model := "comment"
  table := "comment"
  baseAlias := "comment"
  selectColumns := ["text AS 'text'", "text AS 'comment.text'"]
  joins := [⟨.left, "comment", "comment", "comment", "id", some "comment"⟩]

/-- The relation has the name of its model, and both tables of the query go by that name. -/
theorem comments_names_clash :
    resolveQuery comments "comment" {} defaultTemplate defaultJoinDepth = .ok commentsPlan ∧
      parseModels comments = .ok commentsModels ∧ commentsModels.FieldNames IsWordName ∧
      ¬ commentsPlan.fromNames.Nodup ∧
      commentsPlan.selectColumns.map
          (fun entry => (Sql.SelectEntry.ofText entry commentsPlan.baseAlias).text) =
        ["comment.text", "comment.text"] := by
  unfold Models.FieldNames IsWordName
  decide +kernel

end RelationalModels
