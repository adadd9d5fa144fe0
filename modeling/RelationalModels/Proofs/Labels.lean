import RelationalModels.Proofs.Qualification

/-!
# Result columns have labels of their own

The label of a select entry is the names along its route with dots between them. Names without dots
are found again between the dots, and so no two entries of a plan have one label, however often a
model is reached. A row that is keyed by labels therefore keeps the value of every entry.
-/

namespace RelationalModels

open RelationalModels.Text RelationalModels.Sql

/-! ### Entries of visited columns -/

namespace Visit

def isColumn : Visit → Bool
  | column _ _ _ => true
  | relation _ _ => false

def columnAlias (v : Visit) : String := Naming.columnAlias (Route.path "" v.route) v.name

theorem columnAlias_eq_label (v : Visit) : v.columnAlias = v.label := by
  rw [columnAlias, Naming.columnAlias, Route.path_append_name, String.empty_append]
  rfl

theorem flatMap_entries (vs : List Visit) :
    vs.flatMap entries =
      (vs.filter isColumn).map fun v => Naming.selectExpression v.name v.columnAlias := by
  induction vs with
  | nil => rfl
  | cons v vs ih =>
    rw [List.flatMap_cons, ih]
    cases v with
    | column r owner t =>
      rw [List.filter_cons_of_pos (by rfl), List.map_cons, columnAlias_eq_label]
      rfl
    | relation r h =>
      rw [List.filter_cons_of_neg (by simp [isColumn])]
      rfl

end Visit

/-! ### Labels determine names -/

theorem eq_of_intercalate_dot {ss ts : List String} (hss : ∀ s ∈ ss, '.' ∉ s.toList)
    (hts : ∀ t ∈ ts, '.' ∉ t.toList) (hs : ss ≠ []) (ht : ts ≠ [])
    (heq : ".".intercalate ss = ".".intercalate ts) : ss = ts := by
  -- the label is cut at its dots, and names have none of their own
  have hsplit : ss.map String.toList = ts.map String.toList := by
    rw [← splitOnChar_intercalate hs hss, ← splitOnChar_intercalate ht hts, heq]
  exact List.map_injective_iff.mpr (fun _ _ => String.toList_injective) hsplit

theorem Visit.Within.names_satisfy {models : Models} {template : OrderedMap Value}
    {p : String → Prop} (hp : models.FieldNames p) {depth : Nat} {m : Model} {v : Visit}
    (hm : m ∈ models.values) (hv : v.Within models template depth m) : ∀ s ∈ v.names, p s := by
  intro s hs
  cases v with
  | column r owner t =>
    obtain ⟨-, hr, rfl, type, d, hd⟩ := hv
    rcases List.mem_append.mp hs with hs | hs
    · exact hr.names_satisfy hp hm s hs
    · rw [List.mem_singleton.mp hs]
      exact hp _ (hr.last_mem hm) _ hd.name_mem
  | relation r h =>
    obtain ⟨-, hr⟩ := hv
    have hnames : (Visit.relation r h).names = Route.names (r ++ [h]) := (Route.names_concat r h).symm
    rw [hnames] at hs
    exact hr.names_satisfy hp hm s hs

theorem Visit.Within.label_ne_empty {models : Models} {template : OrderedMap Value} {depth : Nat}
    {m : Model} {v : Visit} (hv : v.Within models template depth m) (hm : m ∈ models.values)
    (hwords : models.FieldNames IsWordName) : v.label ≠ "" :=
  intercalate_names_ne_empty (hv.names_satisfy hwords hm) (by simp [Visit.names])

theorem DepthFirst.labels_nodup {models : Models} {template : OrderedMap Value} {depth : Nat}
    {m : Model} {vs : List Visit} (hvs : DepthFirst models template depth m vs)
    (hdots : models.FieldNames fun name => '.' ∉ name.toList) (hm : m ∈ models.values) :
    (vs.map Visit.label).Nodup := by
  have hne : ∀ v : Visit, v.names ≠ [] := fun v => by simp [Visit.names]
  have hnames : (vs.map Visit.names).Pairwise fun ss ts =>
      ".".intercalate ss ≠ ".".intercalate ts := by
    refine hvs.names_nodup.imp_of_mem ?_
    intro ss ts hss hts hne'
    obtain ⟨v, hv, rfl⟩ := List.mem_map.mp hss
    obtain ⟨w, hw, rfl⟩ := List.mem_map.mp hts
    have hvdots := ((hvs.mem_iff v).mp hv).names_satisfy hdots hm
    have hwdots := ((hvs.mem_iff w).mp hw).names_satisfy hdots hm
    exact fun heq => hne' (eq_of_intercalate_dot hvdots hwdots (hne v) (hne w) heq)
  rw [List.pairwise_map] at hnames
  exact List.pairwise_map.mpr hnames

/-! ### Plans -/

def QueryPlan.labels (plan : QueryPlan) : List ColumnLabel :=
  plan.selectColumns.map fun entry => (SelectEntry.ofText entry plan.baseAlias).label

/-- The row that a result gives: its values under the labels, where a label is written but once. -/
def labelledRow {V : Type} (labels : List String) (values : List V) : OrderedMap V :=
  .ofList (labels.zip values)

theorem labelledRow_entries {V : Type} {labels : List String} {values : List V}
    (hnodup : labels.Nodup) (hlength : values.length = labels.length) :
    (labelledRow labels values).entries = labels.zip values := by
  have hkeys : (labels.zip values).map Prod.fst = labels :=
    List.map_fst_zip (by omega)
  exact OrderedMap.ofList_entries _ (by rwa [hkeys])

structure WrittenApart (plan : QueryPlan) (columns : List Visit) : Prop where
  entries : plan.selectColumns =
    columns.map fun v => Naming.selectExpression v.name v.columnAlias
  aliases : (columns.map Visit.columnAlias).Nodup

/--
The entries of a plan are read back under labels that are all different, so that a row keyed by
them has the value of every entry.
-/
structure ReadApart (plan : QueryPlan) (labels : List String) : Prop where
  readBack : plan.labels = labels.map .named
  nodup : labels.Nodup
  rows : ∀ {V : Type} (values : List V), values.length = plan.selectColumns.length →
    (labelledRow labels values).entries = labels.zip values

/--
Without an override of its select entries, the entries of a plan are written under distinct
aliases. Columns whose names consist of word characters are read back under these aliases.
-/
theorem select_labels_distinct {sources : OrderedMap ModelSource} {name : String}
    {options : QueryOptions} {template : OrderedMap Value} {depth : Int} {plan : QueryPlan}
    {models : Models} (h : resolveQuery sources name options template depth = .ok plan)
    (hselect : options.select = none) (hparse : parseModels sources = .ok models)
    (hdots : models.FieldNames fun name => '.' ∉ name.toList) :
    ∃ model vs, models.get? name = some model ∧
      DepthFirst models template depth.toNat model vs ∧
      WrittenApart plan (vs.filter Visit.isColumn) ∧
      (models.FieldNames IsWordName →
        ReadApart plan ((vs.filter Visit.isColumn).map Visit.columnAlias)) := by
  obtain ⟨model, vs, hget, hmodel, hvs, -, -, hs, -⟩ := plan_visits h hparse
  have hentries := (hs hselect).trans (Visit.flatMap_entries _)
  have haliases : ((vs.filter Visit.isColumn).map Visit.columnAlias).Nodup := by
    have hlabels := hvs.labels_nodup hdots hmodel
    rw [funext Visit.columnAlias_eq_label]
    exact hlabels.sublist (List.filter_sublist.map _)
  refine ⟨model, vs, hget, hvs, ⟨hentries, haliases⟩, ?_⟩
  intro hwords
  refine ⟨?_, haliases, ?_⟩
  · rw [QueryPlan.labels, hentries, List.map_map, List.map_map]
    refine List.map_congr_left ?_
    intro v hv
    have hwithin := (hvs.mem_iff v).mp (List.mem_filter.mp hv).1
    have hname : IsWordName v.name :=
      hwithin.names_satisfy hwords hmodel _ (by simp [Visit.names])
    have hlabel : v.columnAlias ≠ "" :=
      v.columnAlias_eq_label ▸ hwithin.label_ne_empty hmodel hwords
    simp only [Function.comp_apply, ofText_selectExpression hname hlabel]
  · intro V values hlength
    rw [hentries, List.length_map] at hlength
    exact labelledRow_entries haliases (by simpa using hlength)

theorem mentoring_labels_distinct :
    resolveQuery mentoring "user" {} defaultTemplate 2 = .ok mentoringPlan ∧
      parseModels mentoring = .ok mentoringModels ∧
      (mentoringModels.FieldNames fun name => '.' ∉ name.toList) ∧
      mentoringModels.FieldNames IsWordName ∧
      ∃ model vs, mentoringModels.get? "user" = some model ∧
        DepthFirst mentoringModels defaultTemplate 2 model vs ∧
        WrittenApart mentoringPlan (vs.filter Visit.isColumn) ∧
        ReadApart mentoringPlan ((vs.filter Visit.isColumn).map Visit.columnAlias) := by
  have hdots : mentoringModels.FieldNames fun name => '.' ∉ name.toList :=
    fun m hm name hname => (mentoring_names m hm name hname).dot_notMem
  obtain ⟨model, vs, hget, hvs, hwritten, hread⟩ :=
    select_labels_distinct mentoring_resolves rfl mentoring_admitted hdots
  exact ⟨mentoring_resolves, mentoring_admitted, hdots, mentoring_names, model, vs, hget, hvs,
    hwritten, hread mentoring_names⟩

end RelationalModels
