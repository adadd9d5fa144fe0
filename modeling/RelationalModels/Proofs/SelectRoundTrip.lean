import RelationalModels.Proofs.SelectEntry
import RelationalModels.Sql.Select

/-!
# Select entries are written and read alike

`select_entries_read_back` states that an entry written from an expression and a label is read back
as these two, whatever the expression contains, and that an entry which is read as an expression
under an alias is read alike when it is written anew from the two. An empty alias is not read back
as a label: a statement makes one in its place.
-/

namespace RelationalModels.Sql

open RelationalModels.Text

/-! ### The shortest expression -/

theorem aliasEnding?_of_space {c : Char} (hc : isSpace c = true) {ending label : List Char}
    (h : aliasEnding? ending = some label) : aliasEnding? (c :: ending) = some label := by
  cases ending with
  | nil => cases h
  | cons d rest =>
    by_cases hd : isSpace d = true
    · have hsame : afterSpaces? (c :: d :: rest) = afterSpaces? (d :: rest) := by
        simp [afterSpaces?, hc, hd]
      rw [aliasEnding?, hsame]
      exact h
    · simp [aliasEnding?, afterSpaces?, hd] at h

/-- An alias is left behind the expression, and behind no shorter one. -/
theorem splitAlias?_eq_some {cs expr label : List Char} (h : splitAlias? cs = some (expr, label)) :
    ∃ ending, cs = expr ++ ending ∧ expr ≠ [] ∧ aliasEnding? ending = some label ∧
      ∀ before after, expr = before ++ after → before ≠ [] → after ≠ [] →
        aliasEnding? (after ++ ending) = none := by
  induction cs generalizing expr with
  | nil => cases h
  | cons c rest ih =>
    rw [splitAlias?] at h
    -- the first place at which an alias follows is taken, so that none follows at a place before it
    cases hhere : aliasEnding? rest with
    | some written =>
      rw [hhere] at h
      obtain ⟨rfl, rfl⟩ := Prod.mk.inj (Option.some.inj h)
      refine ⟨rest, rfl, List.cons_ne_nil _ _, hhere, ?_⟩
      intro before after hsplit hbefore hafter
      have hlength := congrArg List.length hsplit
      have hpos := List.length_pos_iff.mpr hbefore
      have hpos' := List.length_pos_iff.mpr hafter
      simp only [List.length_singleton, List.length_append] at hlength
      omega
    | none =>
      rw [hhere] at h
      obtain ⟨⟨expr', label'⟩, hlater, heq⟩ := Option.map_eq_some_iff.mp h
      obtain ⟨rfl, rfl⟩ := Prod.mk.inj heq
      obtain ⟨ending, rfl, hne, hending, hshortest⟩ := ih hlater
      refine ⟨ending, rfl, List.cons_ne_nil _ _, hending, ?_⟩
      intro before after hsplit hbefore hafter
      obtain ⟨b, before, rfl⟩ := List.exists_cons_of_ne_nil hbefore
      have htail : expr' = before ++ after := (List.cons.inj hsplit).2
      cases before with
      | nil =>
        rw [List.nil_append] at htail
        rwa [htail] at hhere
      | cons d before => exact hshortest _ _ htail (List.cons_ne_nil _ _) hafter

/-- The expression of a trimmed entry is trimmed: white space before the alias belongs to that. -/
theorem trimmed_of_splitAlias? {cs expr label : List Char}
    (hhead : ∀ c ∈ cs.head?, isSpace c = false) (h : splitAlias? cs = some (expr, label)) :
    Trimmed expr := by
  obtain ⟨ending, rfl, hne, hending, hshortest⟩ := splitAlias?_eq_some h
  rw [List.head?_append_of_ne_nil _ hne] at hhead
  refine ⟨hne, hhead, ?_⟩
  intro c hc
  obtain ⟨before, rfl⟩ := List.getLast?_eq_some_iff.mp hc
  cases before with
  | nil => exact hhead c rfl
  | cons b before =>
    -- with white space at its end, a shorter expression would have been taken
    have hnone := hshortest (b :: before) [c] rfl (List.cons_ne_nil _ _) (List.cons_ne_nil _ _)
    by_contra hspace
    rw [Bool.not_eq_false] at hspace
    rw [List.singleton_append, aliasEnding?_of_space hspace hending] at hnone
    cases hnone

/-! ### Entries -/

theorem ofText_eq_aliased {text written base : String}
    (h : (SelectEntry.ofText text base).label = .ofAlias written) :
    ∃ expr : String, splitAlias? (trimSpace text.toList) = some (expr.toList, written.toList) ∧
      Trimmed expr.toList ∧
      SelectEntry.ofText text base = ⟨qualified expr written base, .ofAlias written⟩ := by
  cases hsplit : splitAlias? (trimSpace text.toList) with
  | none =>
    simp only [SelectEntry.ofText, hsplit, ColumnLabel.ofAlias] at h
    split at h <;> cases h
  | some parts =>
    obtain ⟨expr, chars⟩ := parts
    simp only [SelectEntry.ofText, hsplit] at h
    obtain rfl := ColumnLabel.ofAlias_injective h
    have htrimmed : Trimmed expr := trimmed_of_splitAlias? trimBy_head hsplit
    refine ⟨String.ofList expr, ?_, ?_, ?_⟩
    · rw [String.toList_ofList, String.toList_ofList]
    · rwa [String.toList_ofList]
    · simp only [SelectEntry.ofText, hsplit, qualified, String.toList_ofList]

/--
Whatever quotes, white space or aliases an expression has inside it, it is read back from the entry
in which it is written under a label, together with the label, and qualified when it is a bare name.
Written under an empty alias it is read back too, but the label is left to the statement. An entry
of any other form that is read as an expression under an alias is read alike when it is written anew
from the two.
-/
theorem select_entries_read_back (base : String) :
    (∀ expr label : String, Trimmed expr.toList → label ≠ "" →
      SelectEntry.ofText (Naming.selectExpression expr label) base =
        ⟨if isBareName expr.toList then tableOfAlias label base ++ "." ++ expr else expr,
          .named label⟩) ∧
    (∀ expr : String, Trimmed expr.toList →
      SelectEntry.ofText (Naming.selectExpression expr "") base =
        ⟨if isBareName expr.toList then base ++ "." ++ expr else expr, .generated⟩) ∧
    ∀ text written : String, (SelectEntry.ofText text base).label = .ofAlias written →
      ∃ expr : String, splitAlias? (trimSpace text.toList) = some (expr.toList, written.toList) ∧
        SelectEntry.ofText (Naming.selectExpression expr written) base =
          SelectEntry.ofText text base := by
  refine ⟨?_, ?_, ?_⟩
  · intro expr label hexpr hlabel
    have hread := ofText_selectExpression_of_trimmed hexpr label base
    rwa [ColumnLabel.ofAlias_of_ne_empty hlabel] at hread
  · intro expr hexpr
    exact ofText_selectExpression_of_trimmed hexpr "" base
  · intro text written hlabel
    obtain ⟨expr, hsplit, htrimmed, hentry⟩ := ofText_eq_aliased hlabel
    refine ⟨expr, hsplit, ?_⟩
    rw [hentry, ofText_selectExpression_of_trimmed htrimmed]

def disguisedAlias : String := "coalesce(note, ' AS ''x') || ' as 'y"

theorem trimmed_of_ends {s : String} (first last : Char) (hne : s.toList ≠ [])
    (hhead : s.toList.head? = some first) (hfirst : isSpace first = false)
    (hlast : s.toList.getLast? = some last) (hend : isSpace last = false) : Trimmed s.toList where
  ne_nil := hne
  head c hc := by rwa [← Option.some.inj (hhead.symm.trans hc)]
  last c hc := by rwa [← Option.some.inj (hlast.symm.trans hc)]

theorem disguised_alias_read_back :
    Trimmed disguisedAlias.toList ∧ "it's.short" ≠ "" ∧
      SelectEntry.ofText (Naming.selectExpression disguisedAlias "it's.short") "post" =
        ⟨disguisedAlias, .named "it's.short"⟩ ∧
      SelectEntry.ofText (Naming.selectExpression disguisedAlias "") "post" =
        ⟨disguisedAlias, .generated⟩ ∧
      (SelectEntry.ofText " name\n aS  'author.full''name' " "post").label =
        .ofAlias "author.full'name" ∧
      ∃ expr : String, splitAlias? (trimSpace " name\n aS  'author.full''name' ".toList) =
          some (expr.toList, "author.full'name".toList) ∧
        SelectEntry.ofText (Naming.selectExpression expr "author.full'name") "post" =
          SelectEntry.ofText " name\n aS  'author.full''name' " "post" := by
  have htrimmed : Trimmed disguisedAlias.toList :=
    trimmed_of_ends 'c' 'y' (by decide) (by decide +kernel) (by decide +kernel)
      (by decide +kernel) (by decide +kernel)
  have hlabel : (SelectEntry.ofText " name\n aS  'author.full''name' " "post").label =
      .ofAlias "author.full'name" := by decide +kernel
  obtain ⟨hread, hempty, hanew⟩ := select_entries_read_back "post"
  exact ⟨htrimmed, by decide, hread _ _ htrimmed (by decide), hempty _ htrimmed, hlabel,
    hanew _ _ hlabel⟩

def emptyAliasPlan : QueryPlan where
  model := "post"
  table := "post"
  baseAlias := "post"
  selectColumns := [Naming.selectExpression "name" ""]

/-- Under an empty alias a column has the label that the statement makes for it. -/
theorem empty_alias_not_read_back :
    Trimmed "name".toList ∧
      (SelectEntry.ofText (Naming.selectExpression "name" "") "post").label ≠ .named "" ∧
      (selectStatement emptyAliasPlan "").sql =
        "SELECT post.name AS \"post.name_1\" \nFROM post AS post" := by
  refine ⟨?_, by decide +kernel, by decide +kernel⟩
  exact trimmed_of_ends 'n' 'e' (by decide) (by decide +kernel) (by decide +kernel)
    (by decide +kernel) (by decide +kernel)

end RelationalModels.Sql
