import RelationalModels.Proofs.Agreement
import RelationalModels.Proofs.FromClause
import RelationalModels.Proofs.Labels
import RelationalModels.Sql.Select

/-!
# Quotes around identifiers

A statement introduces identifiers, which are the names and aliases of tables and the labels of its
columns, and refers to some of them, and to columns, in its select list and its joins. What it
introduces is written in quotes where quotes are needed. What it refers to is written as it is, so
that `references_quoted_iff` holds: the references of a resolved query are written like the
identifiers they refer to exactly when none of them needs quotes. `items_order_unquoted` shows a
relation whose name is a reserved word.
-/

namespace RelationalModels.Sql

open RelationalModels.Text

/-! ### Identifiers and their quotes -/

theorem length_le_flatMap_quotedChar (cs : List Char) :
    cs.length ≤ (cs.flatMap quotedChar).length := by
  induction cs with
  | nil => exact Nat.le_refl 0
  | cons c cs ih =>
    have hc : 1 ≤ (quotedChar c).length := by
      rw [quotedChar]
      split <;> simp
    rw [List.flatMap_cons, List.length_append, List.length_cons]
    omega

theorem length_lt_quoteIdentifier (name : String) :
    name.length < (quoteIdentifier name).length := by
  have hbody := length_le_flatMap_quotedChar name.toList
  have hquoted : (quoteIdentifier name).length =
      (name.toList.flatMap quotedChar).length + 2 := by
    simp [quoteIdentifier, ← String.length_toList]
  rw [hquoted, ← String.length_toList]
  omega

theorem length_le_writeIdentifier (name : String) :
    name.length ≤ (writeIdentifier name).length := by
  rw [writeIdentifier]
  split
  · exact Nat.le_refl _
  · exact Nat.le_of_lt (length_lt_quoteIdentifier name)

theorem eq_writeIdentifier_iff {name : String} :
    name = writeIdentifier name ↔ isPlain name = true := by
  constructor
  · intro hsame
    by_contra hplain
    have hlonger := length_lt_quoteIdentifier name
    rw [writeIdentifier, if_neg hplain] at hsame
    rw [← hsame] at hlonger
    exact Nat.lt_irrefl _ hlonger
  · intro hplain
    rw [writeIdentifier, if_pos hplain]

/-! ### Pieces of a statement -/

inductive Piece where
  | words (text : String)
  | defined (name : String)
  | referenced (name : String)

def Piece.text (write : String → String) : Piece → String
  | words text => text
  | defined name => writeIdentifier name
  | referenced name => write name

def Piece.reference? : Piece → Option String
  | referenced name => some name
  | _ => none

def spelled (write : String → String) (ps : List Piece) : String :=
  String.join (ps.map (Piece.text write))

def references (ps : List Piece) : List String := ps.filterMap Piece.reference?

theorem spelled_cons (write : String → String) (p : Piece) (ps : List Piece) :
    spelled write (p :: ps) = p.text write ++ spelled write ps := by
  rw [spelled, List.map_cons, String.join_cons, spelled]

theorem spelled_append (write : String → String) (ps qs : List Piece) :
    spelled write (ps ++ qs) = spelled write ps ++ spelled write qs := by
  rw [spelled, List.map_append, String.join_append, spelled, spelled]

theorem references_cons (p : Piece) (ps : List Piece) :
    references (p :: ps) = p.reference?.toList ++ references ps := by
  cases p with
  | words text => rfl
  | defined name => rfl
  | referenced name => rfl

theorem references_append (ps qs : List Piece) :
    references (ps ++ qs) = references ps ++ references qs := List.filterMap_append

theorem Piece.length_text_le (p : Piece) :
    (p.text id).length ≤ (p.text writeIdentifier).length := by
  cases p with
  | words text => exact Nat.le_refl _
  | defined name => exact Nat.le_refl _
  | referenced name => exact length_le_writeIdentifier name

theorem length_spelled_le (ps : List Piece) :
    (spelled id ps).length ≤ (spelled writeIdentifier ps).length := by
  induction ps with
  | nil => exact Nat.le_refl _
  | cons p ps ih =>
    have hp := p.length_text_le
    rw [spelled_cons, spelled_cons, String.length_append, String.length_append]
    omega

theorem append_eq_append_iff_of_length_le {a b c d : String} (hab : a.length ≤ b.length)
    (hcd : c.length ≤ d.length) : a ++ c = b ++ d ↔ a = b ∧ c = d := by
  constructor
  · intro heq
    have hlength := congrArg String.length heq
    rw [String.length_append, String.length_append] at hlength
    have hchars : a.toList ++ c.toList = b.toList ++ d.toList := by
      rw [← String.toList_append, ← String.toList_append, heq]
    have hfront : a.toList.length = b.toList.length := by
      rw [String.length_toList, String.length_toList]
      omega
    obtain ⟨hab, hcd⟩ := List.append_inj hchars hfront
    exact ⟨String.toList_injective hab, String.toList_injective hcd⟩
  · rintro ⟨rfl, rfl⟩
    rfl

theorem Piece.text_eq_iff (p : Piece) :
    p.text id = p.text writeIdentifier ↔ ∀ name ∈ p.reference?, isPlain name = true := by
  cases p with
  | words text => simp [Piece.text, Piece.reference?]
  | defined name => simp [Piece.text, Piece.reference?]
  | referenced name => simpa [Piece.text, Piece.reference?] using eq_writeIdentifier_iff

/-- Quotes make a text longer, so that they are left out nowhere when the texts are the same. -/
theorem spelled_eq_iff (ps : List Piece) :
    spelled id ps = spelled writeIdentifier ps ↔ ∀ name ∈ references ps, isPlain name = true := by
  induction ps with
  | nil => simp [spelled, references]
  | cons p ps ih =>
    have hmem : (∀ name ∈ references (p :: ps), isPlain name = true) ↔
        (∀ name ∈ p.reference?, isPlain name = true) ∧
          ∀ name ∈ references ps, isPlain name = true := by
      simp only [references_cons, List.forall_mem_append, Option.mem_toList, Option.mem_def]
    rw [spelled_cons, spelled_cons,
      append_eq_append_iff_of_length_le p.length_text_le (length_spelled_le ps), p.text_eq_iff, ih,
      hmem]

/-! ### Statements in pieces -/

structure SelectedColumn where
  table : String
  column : String
  label : String

namespace SelectedColumn

def entry (c : SelectedColumn) : SelectEntry := ⟨c.table ++ "." ++ c.column, .named c.label⟩

def pieces (c : SelectedColumn) : List Piece :=
  [.referenced c.table, .words ".", .referenced c.column, .words " AS ", .defined c.label]

theorem item_entry (c : SelectedColumn) (made : MadeLabels) :
    c.entry.item made = (spelled id c.pieces, made) := by
  simp [entry, SelectEntry.item, spelled, pieces, Piece.text, String.append_assoc]

theorem selectItems_entries (columns : List SelectedColumn) (made : MadeLabels) :
    selectItems made (columns.map entry) = columns.map fun c => spelled id c.pieces := by
  induction columns with
  | nil => rfl
  | cons c columns ih =>
    rw [List.map_cons, List.map_cons, selectItems, item_entry]
    dsimp only
    rw [ih]

end SelectedColumn

def listed : List (List Piece) → List Piece
  | [] => []
  | [ps] => ps
  | ps :: qs :: rest => ps ++ .words ", " :: listed (qs :: rest)

theorem spelled_listed (write : String → String) (pss : List (List Piece)) :
    spelled write (listed pss) = ", ".intercalate (pss.map (spelled write)) := by
  induction pss with
  | nil => rfl
  | cons ps pss ih =>
    cases pss with
    | nil => simp [listed]
    | cons qs rest =>
      have hcomma : Piece.text write (.words ", ") = ", " := rfl
      rw [listed, spelled_append, spelled_cons, ih, hcomma, List.map_cons, List.map_cons,
        List.map_cons, String.intercalate_cons_cons, String.append_assoc]

theorem references_listed (pss : List (List Piece)) :
    references (listed pss) = pss.flatMap references := by
  induction pss with
  | nil => rfl
  | cons ps pss ih =>
    cases pss with
    | nil => simp [listed]
    | cons qs rest =>
      have hcomma : (Piece.words ", ").reference? = none := rfl
      rw [listed, references_append, references_cons, ih, hcomma, List.flatMap_cons]
      rfl

def selectPieces (columns : List SelectedColumn) : List Piece :=
  if columns.isEmpty then [.words "*"] else listed (columns.map SelectedColumn.pieces)

def aliasedPieces (front table name : String) : List Piece :=
  [.defined (front ++ table), .words " AS ", .defined name]

def joinPieces (front : String) (j : Join) : List Piece :=
  .words (joinWord j.kind) :: aliasedPieces front j.rightTable j.rightName ++
    [.words " ON ", .referenced j.leftTable, .words ".", .referenced j.leftColumn, .words " = ",
      .referenced j.rightName, .words ".", .referenced j.rightColumn]

def statementPieces (plan : QueryPlan) (front : String) (columns : List SelectedColumn) :
    List Piece :=
  let options := plan.passthrough
  .words "SELECT " :: selectPieces columns ++ .words " \nFROM " ::
    aliasedPieces front plan.table plan.baseAlias ++ plan.joins.flatMap (joinPieces front) ++
      [.words (filterClause options.conditions.entries), .words (orderClause options.orderBy),
        .words (limitClause options.limit options.offset).sql]

theorem spelled_joinPieces (front : String) (j : Join) :
    spelled id (joinPieces front j) = joinClause front j := by
  simp [joinPieces, joinClause, joinCondition, aliasedPieces, aliased, spelled, Piece.text,
    String.append_assoc]

theorem spelled_joins (front : String) (js : List Join) :
    spelled id (js.flatMap (joinPieces front)) = String.join (js.map (joinClause front)) := by
  induction js with
  | nil => rfl
  | cons j js ih =>
    rw [List.flatMap_cons, spelled_append, spelled_joinPieces, ih, List.map_cons,
      String.join_cons]

theorem selectStatement_spelled {plan : QueryPlan} {columns : List SelectedColumn}
    (h : (plan.selectColumns.map fun c => SelectEntry.ofText c plan.baseAlias) =
      columns.map SelectedColumn.entry) (front : String) :
    (selectStatement plan front).sql = spelled id (statementPieces plan front columns) := by
  have hselect : spelled id (selectPieces columns) = ", ".intercalate (selectList plan) := by
    rw [selectList, h, selectPieces]
    cases columns with
    | nil => rfl
    | cons c columns =>
      have hitems := SelectedColumn.selectItems_entries (c :: columns) {}
      rw [if_neg (by simp), if_neg (by simp), hitems, spelled_listed, List.map_map]
      rfl
  have htable : spelled id (aliasedPieces front plan.table plan.baseAlias) =
      aliased front plan.table plan.baseAlias := by
    simp [spelled, aliasedPieces, aliased, Piece.text, String.append_assoc]
  have hrest : ∀ a b c : String, spelled id [.words a, .words b, .words c] = a ++ b ++ c := by
    intro a b c
    simp [spelled, Piece.text, String.append_assoc]
  rw [statementPieces, selectStatement_sql]
  simp only [spelled_append, spelled_cons, List.cons_append, hselect, htable, spelled_joins, hrest,
    Piece.text, String.append_assoc]

def planReferences (plan : QueryPlan) (columns : List SelectedColumn) : List String :=
  columns.flatMap (fun c => [c.table, c.column]) ++
    plan.joins.flatMap fun j => [j.leftTable, j.leftColumn, j.rightName, j.rightColumn]

theorem references_statementPieces (plan : QueryPlan) (front : String)
    (columns : List SelectedColumn) :
    references (statementPieces plan front columns) = planReferences plan columns := by
  have hselect : references (selectPieces columns) =
      columns.flatMap fun c => [c.table, c.column] := by
    rw [selectPieces]
    cases columns with
    | nil => rfl
    | cons c columns =>
      rw [if_neg (by simp), references_listed, List.flatMap_map]
      rfl
  have hjoins : references (plan.joins.flatMap (joinPieces front)) =
      plan.joins.flatMap fun j => [j.leftTable, j.leftColumn, j.rightName, j.rightColumn] := by
    rw [references, List.filterMap_flatMap]
    rfl
  have hnil : references [] = [] := rfl
  simp [statementPieces, references_append, references_cons, aliasedPieces, hselect, hjoins, hnil,
    planReferences, Piece.reference?]

end RelationalModels.Sql

namespace RelationalModels

open RelationalModels.Sql

/-! ### Resolved queries -/

def selectedColumns (base : String) : Visit → List SelectedColumn
  | v@(.column r _ traits) => [⟨Route.tableAlias base "" r, traits.name, v.label⟩]
  | .relation _ _ => []

theorem mem_selectedColumns {vs : List Visit} {base : String} {c : SelectedColumn}
    (hc : c ∈ vs.flatMap (selectedColumns base)) :
    ∃ r owner traits, Visit.column r owner traits ∈ vs ∧
      c = ⟨Route.tableAlias base "" r, traits.name, (Visit.column r owner traits).label⟩ := by
  obtain ⟨v, hv, hc⟩ := List.mem_flatMap.mp hc
  cases v with
  | relation r h => cases hc
  | column r owner traits => exact ⟨r, owner, traits, hv, List.mem_singleton.mp hc⟩

section Visits

variable {models : Models} {template : OrderedMap Value} {depth : Nat} {m : Model}
  {vs : List Visit}

theorem Visit.Within.entries_read {v : Visit} (hv : v.Within models template depth m)
    (hm : m ∈ models.values) (hwords : models.FieldNames IsWordName) (base : String) :
    (v.entries.map fun text => SelectEntry.ofText text base) =
      (selectedColumns base v).map SelectedColumn.entry := by
  have hnames := hv.names_satisfy hwords hm
  cases v with
  | relation r h => rfl
  | column r owner traits =>
    have hroute : ∀ s ∈ Route.names r, IsWordName s :=
      fun s hs => hnames s (List.mem_append_left _ hs)
    have hname : IsWordName traits.name :=
      hnames _ (List.mem_append_right _ (List.mem_singleton.mpr rfl))
    exact congrArg (fun e => [e]) (ofText_entry hroute hname base)

theorem DepthFirst.selected_tables (hvs : DepthFirst models template depth m vs)
    (hm : m ∈ models.values) (hwords : models.FieldNames IsWordName) (base : String) :
    ∀ c ∈ vs.flatMap (selectedColumns base),
      c.table = base ∨ ∃ j ∈ vs.flatMap (Visit.joins base), c.table = j.rightName := by
  intro c hc
  obtain ⟨r, owner, traits, hv, rfl⟩ := mem_selectedColumns hc
  rcases r.eq_nil_or_concat with rfl | ⟨before, hop, rfl⟩
  · exact Or.inl rfl
  · rw [List.concat_eq_append] at hv ⊢
    -- the scalar is behind `hop`, which is visited too and whose last join goes by its name
    obtain ⟨hlength, hfrom, -⟩ := (hvs.mem_iff _).mp hv
    have hrelation : .relation before hop ∈ vs :=
      (hvs.mem_iff _).mpr ⟨by simpa using hlength, hfrom⟩
    have hname : IsWordName hop.traits.name :=
      hfrom.names_satisfy hwords hm _ (by simp [Route.names])
    have hlast := Hop.joins_getLast? (Route.tableAlias base "" before) (Route.path "" before) hop
    refine Or.inr ⟨_, List.mem_flatMap.mpr ⟨_, hrelation, List.mem_of_getLast? hlast⟩, ?_⟩
    rw [Hop.targetJoin_rightName hname.ne_empty]
    exact Route.tableAlias_append base "" before hop

theorem DepthFirst.selected_read (hvs : DepthFirst models template depth m vs)
    (hm : m ∈ models.values) (hwords : models.FieldNames IsWordName) (base : String) :
    ((vs.flatMap Visit.entries).map fun text => SelectEntry.ofText text base) =
      (vs.flatMap (selectedColumns base)).map SelectedColumn.entry := by
  rw [List.map_flatMap, List.map_flatMap]
  exact List.flatMap_congr fun v hv => ((hvs.mem_iff v).mp hv).entries_read hm hwords base

end Visits

/--
The statement of a plan that selects the given columns writes what it refers to as it is. The text
in which references are written as identifiers is the same one only when none of them needs quotes.
-/
structure RefersAsGiven (plan : QueryPlan) (front : String) (columns : List SelectedColumn) :
    Prop where
  text : (selectStatement plan front).sql = spelled id (statementPieces plan front columns)
  references : references (statementPieces plan front columns) = planReferences plan columns
  quoted_iff : (selectStatement plan front).sql =
      spelled writeIdentifier (statementPieces plan front columns) ↔
    ∀ name ∈ planReferences plan columns, isPlain name = true

/-- The tables that are referred to are among those of the FROM clause. -/
structure RefersToFrom (plan : QueryPlan) (columns : List SelectedColumn) : Prop where
  selected : ∀ c ∈ columns, c.table ∈ plan.fromNames
  joined : ∀ j ∈ plan.joins, j.leftTable ∈ plan.fromNames ∧ j.rightName ∈ plan.fromNames

theorem DepthFirst.refersToFrom {models : Models} {template : OrderedMap Value} {depth : Nat}
    {m : Model} {vs : List Visit} (hvs : DepthFirst models template depth m vs)
    (hm : m ∈ models.values) (hwords : models.FieldNames IsWordName) {plan : QueryPlan}
    (hjoins : plan.joins = vs.flatMap (Visit.joins plan.baseAlias)) :
    RefersToFrom plan (vs.flatMap (selectedColumns plan.baseAlias)) := by
  have hbase : plan.baseAlias ∈ plan.fromNames := List.mem_cons_self ..
  have hright : ∀ j ∈ plan.joins, j.rightName ∈ plan.fromNames :=
    fun j hj => List.mem_cons_of_mem _ (List.mem_map_of_mem hj)
  have hnonempty : models.FieldNames (· ≠ "") :=
    fun k hk name hname => (hwords k hk name hname).ne_empty
  have hlinked := hvs.joins_linked hnonempty hm plan.baseAlias
  rw [← hjoins] at hlinked
  constructor
  · intro c hc
    rcases hvs.selected_tables hm hwords plan.baseAlias c hc with hown | ⟨j, hj, hjoined⟩
    · rw [hown]
      exact hbase
    · rw [← hjoins] at hj
      rw [hjoined]
      exact hright j hj
  · intro j hj
    -- the joins are linked: what stands on the left is the own table or comes from an earlier join
    obtain ⟨before, after, hsplit⟩ := List.append_of_mem hj
    refine ⟨?_, hright j hj⟩
    rcases hlinked before j after hsplit with hown | ⟨e, he, hleft⟩
    · rw [hown]
      exact hbase
    · rw [hleft]
      exact hright e (by rw [hsplit]; exact List.mem_append_left _ he)

/--
The select list of a resolved query refers to a column for each scalar that is visited, and its
joins refer to four names each. All of them are written as they are, and so like the identifiers
that they refer to exactly when none of them needs quotes.
-/
theorem references_quoted_iff {sources : OrderedMap ModelSource} {name : String}
    {options : QueryOptions} {template : OrderedMap Value} {depth : Int} {plan : QueryPlan}
    {models : Models} (h : resolveQuery sources name options template depth = .ok plan)
    (hselect : options.select = none) (hparse : parseModels sources = .ok models)
    (hwords : models.FieldNames IsWordName) (front : String) :
    ∃ model vs, models.get? name = some model ∧
      DepthFirst models template depth.toNat model vs ∧
      RefersAsGiven plan front (vs.flatMap (selectedColumns plan.baseAlias)) ∧
      (options.joins = none →
        RefersToFrom plan (vs.flatMap (selectedColumns plan.baseAlias))) := by
  obtain ⟨model, vs, hget, hmodel, hvs, -, -, hs, hj⟩ := plan_visits h hparse
  have hread := hvs.selected_read hmodel hwords plan.baseAlias
  rw [← hs hselect] at hread
  have htext := selectStatement_spelled hread front
  have hreferences := references_statementPieces plan front
    (vs.flatMap (selectedColumns plan.baseAlias))
  refine ⟨model, vs, hget, hvs, ⟨htext, hreferences, ?_⟩, ?_⟩
  · rw [htext, spelled_eq_iff, hreferences]
  · intro hjoins
    exact hvs.refersToFrom hmodel hwords (hj hjoins)

theorem mentoring_references_quoted_iff :
    resolveQuery mentoring "user" {} defaultTemplate 2 = .ok mentoringPlan ∧
      parseModels mentoring = .ok mentoringModels ∧ mentoringModels.FieldNames IsWordName ∧
      ∃ model vs, mentoringModels.get? "user" = some model ∧
        DepthFirst mentoringModels defaultTemplate 2 model vs ∧
        RefersAsGiven mentoringPlan "app_" (vs.flatMap (selectedColumns "user")) ∧
        RefersToFrom mentoringPlan (vs.flatMap (selectedColumns "user")) := by
  obtain ⟨model, vs, hget, hvs, hgiven, hfrom⟩ :=
    references_quoted_iff mentoring_resolves rfl mentoring_admitted mentoring_names "app_"
  exact ⟨mentoring_resolves, mentoring_admitted, mentoring_names, model, vs, hget, hvs, hgiven,
    hfrom rfl⟩

/-! ### Items of orders -/

def orderItems : OrderedMap ModelSource :=
  .ofList
    [("order", .admitted (.ofFields [("number", .empty)])),
     ("item", .admitted (.ofFields
       [("title", .empty), ("order", declaredRelation "order" false false)]))]

def orderItemsModels : Models :=
  .ofList
    [("order", (Model.ofFields [("number", .empty)]).withId "order"),
     ("item", (Model.ofFields
       [("title", .empty), ("order", declaredRelation "order" false false)]).withId "item")]

def orderItemsPlan : QueryPlan where
  model := "item"
  table := "item"
  baseAlias := "item"
  selectColumns := ["title AS 'title'", "number AS 'order.number'"]
  joins := [⟨.left, "item", "order", "order", "id", some "order"⟩]

def orderItemsColumns : List SelectedColumn :=
  [⟨"item", "title", "title"⟩, ⟨"order", "number", "order.number"⟩]

/-- The table and its alias are in quotes, and the references to the alias are not. -/
theorem items_order_unquoted :
    resolveQuery orderItems "item" {} defaultTemplate defaultJoinDepth = .ok orderItemsPlan ∧
      parseModels orderItems = .ok orderItemsModels ∧ orderItemsModels.FieldNames IsWordName ∧
      (∀ m ∈ orderItemsModels.values, IsWordName m.tableName) ∧
      (∀ name ∈ orderItemsModels.names, IsWordName name) ∧
      (selectStatement orderItemsPlan "").sql =
        "SELECT item.title AS title, order.number AS \"order.number\" \nFROM item AS item " ++
          "LEFT OUTER JOIN \"order\" AS \"order\" ON item.order = order.id" ∧
      (selectStatement orderItemsPlan "").sql =
        spelled id (statementPieces orderItemsPlan "" orderItemsColumns) ∧
      (selectStatement orderItemsPlan "").sql ≠
        spelled writeIdentifier (statementPieces orderItemsPlan "" orderItemsColumns) := by
  have hwords : orderItemsModels.FieldNames IsWordName ∧
      (∀ m ∈ orderItemsModels.values, IsWordName m.tableName) ∧
      ∀ name ∈ orderItemsModels.names, IsWordName name := by
    unfold Models.FieldNames IsWordName
    decide +kernel
  have hread : orderItemsPlan.selectColumns.map
      (fun c => SelectEntry.ofText c orderItemsPlan.baseAlias) =
        orderItemsColumns.map SelectedColumn.entry := by decide +kernel
  have hraw := selectStatement_spelled hread ""
  have hreserved : ¬ ∀ name ∈ references (statementPieces orderItemsPlan "" orderItemsColumns),
      isPlain name = true := by decide +kernel
  refine ⟨by decide +kernel, by decide +kernel, hwords.1, hwords.2.1, hwords.2.2,
    by decide +kernel, hraw, ?_⟩
  rw [hraw, Ne, spelled_eq_iff]
  exact hreserved

end RelationalModels
