import RelationalModels.Proofs.Rendering

/-!
# What refused tables leave behind

A build drops the earlier table of its name and puts placeholders in place before it can be refused,
and nothing is put back. `registry_after_refusal` states what a registry holds then, and that it
holds what it held before exactly when no table stood under the name and no placeholder came in.
`doubled_clubs_drop_table` shows clubs whose table is lost in this way, so that a foreign key to one
of its columns can no longer be written.
-/

namespace RelationalModels.Sql

namespace Registry

variable {reg after : Registry} {front name other : String} {t : Table} {e : SqlError}
  {keys : List SqlForeignKey}

/-! ### Placeholders, whether or not all of them could be put in place -/

theorem get?_addPlaceholders_of_known {x : SqlTable} (h : reg.get? other = some x) :
    (addPlaceholders name keys reg).1.get? other = some x := by
  induction keys generalizing reg with
  | nil => exact h
  | cons k keys ih =>
    rw [addPlaceholders]
    split
    · exact ih h
    · next hnew =>
      split
      · exact h
      · -- the new placeholder has another name, since nothing stood under its own
        have hunknown : reg.get? k.targetTable = none := by
          have hboth : k.targetTable ≠ name ∧ reg.get? k.targetTable = none := by
            simpa [OrderedMap.contains] using hnew
          exact hboth.2
        have hne : other ≠ k.targetTable := by
          rintro rfl
          rw [hunknown] at h
          cases h
        apply ih
        rw [OrderedMap.get?_insert, if_neg hne]
        exact h

theorem get?_addPlaceholders_of_unknown (h : reg.get? other = none) :
    (addPlaceholders name keys reg).1.get? other = none ∨
      other ≠ name ∧ (addPlaceholders name keys reg).1.get? other =
        SqlTable.awaited? keys other := by
  induction keys generalizing reg with
  | nil => exact Or.inl h
  | cons k keys ih =>
    rw [addPlaceholders, SqlTable.awaited?_cons]
    split
    · next hskip =>
      by_cases htarget : k.targetTable = other
      · -- the key was passed over although nothing stands for its target: it is the name itself
        have hname : k.targetTable = name := by
          have hknown : k.targetTable = name ∨ (reg.get? k.targetTable).isSome = true := by
            simpa [OrderedMap.contains] using hskip
          refine hknown.resolve_right fun hsome => ?_
          rw [htarget, h] at hsome
          cases hsome
        refine Or.inl ((ih h).resolve_right ?_)
        rintro ⟨hne, -⟩
        exact hne (htarget.symm.trans hname)
      · rw [if_neg htarget]
        exact ih h
    · next hnew =>
      split
      · exact Or.inl h
      · by_cases htarget : k.targetTable = other
        · subst htarget
          have hne : k.targetTable ≠ name := by
            intro hname
            simp [hname] at hnew
          refine Or.inr ⟨hne, ?_⟩
          rw [if_pos rfl]
          apply get?_addPlaceholders_of_known
          rw [OrderedMap.get?_insert, if_pos rfl]
        · rw [if_neg htarget]
          apply ih
          rw [OrderedMap.get?_insert, if_neg (Ne.symm htarget)]
          exact h

def firstUnknown? (reg : Registry) (name : String) (keys : List SqlForeignKey) :
    Option SqlForeignKey :=
  keys.find? fun k => !(k.targetTable == name || reg.contains k.targetTable)

theorem firstUnknown?_cons (reg : Registry) (name : String) (k : SqlForeignKey)
    (keys : List SqlForeignKey) :
    firstUnknown? reg name (k :: keys) =
      if (k.targetTable == name || reg.contains k.targetTable) = true then
        firstUnknown? reg name keys
      else some k := by
  rw [firstUnknown?, List.find?_cons, firstUnknown?]
  cases k.targetTable == name || reg.contains k.targetTable <;> rfl

theorem firstUnknown?_erase (reg : Registry) (name : String) (keys : List SqlForeignKey) :
    firstUnknown? (reg.erase name) name keys = firstUnknown? reg name keys := by
  have hsame : ∀ k : SqlForeignKey,
      (k.targetTable == name || OrderedMap.contains (reg.erase name) k.targetTable) =
        (k.targetTable == name || reg.contains k.targetTable) := by
    intro k
    by_cases h : k.targetTable = name
    · simp [h]
    · simp [OrderedMap.contains, OrderedMap.get?_erase, h]
  simp only [firstUnknown?, hsame]

/-- Nothing is put in place exactly when nothing has to be, or the first key has no column. -/
theorem addPlaceholders_unchanged_iff :
    (∀ other, (addPlaceholders name keys reg).1.get? other = reg.get? other) ↔
      ∀ k, firstUnknown? reg name keys = some k → k.targetColumn = "" := by
  induction keys with
  | nil => simp [addPlaceholders, firstUnknown?]
  | cons k keys ih =>
    rw [addPlaceholders]
    by_cases hskip : (k.targetTable == name || reg.contains k.targetTable) = true
    · rw [if_pos hskip, firstUnknown?_cons, if_pos hskip, ih]
    · have hunknown : reg.get? k.targetTable = none := by
        have hboth : k.targetTable ≠ name ∧ reg.get? k.targetTable = none := by
          simpa [OrderedMap.contains] using hskip
        exact hboth.2
      rw [if_neg hskip, firstUnknown?_cons, if_neg hskip]
      by_cases hcolumn : k.targetColumn = ""
      · simp [hcolumn]
      · have hempty : ¬ k.targetColumn.isEmpty = true := by simpa using hcolumn
        rw [if_neg hempty]
        refine iff_of_false ?_ fun hall => hcolumn (hall k rfl)
        intro hsame
        have hplaced : (addPlaceholders name keys (reg.insert k.targetTable
            (.placeholder k.targetTable k.targetColumn))).1.get? k.targetTable =
            some (.placeholder k.targetTable k.targetColumn) := by
          apply get?_addPlaceholders_of_known
          rw [OrderedMap.get?_insert, if_pos rfl]
        rw [hsame, hunknown] at hplaced
        cases hplaced

/-! ### Refusals -/

theorem build_eq_error (h : reg.build front t = (after, .error e)) :
    after = reg.prepared front t := by
  rw [build] at h
  rw [prepared]
  rcases hplaced : addPlaceholders (front ++ t.name) (SqlTable.foreignKeysOf front t)
    (reg.erase (front ++ t.name)) with ⟨placed, _ | error⟩
  · rw [hplaced] at h
    cases hfault : SqlTable.fault? front t with
    | none =>
      simp only [hfault] at h
      cases h
    | some fault =>
      simp only [hfault] at h
      cases h
      rfl
  · rw [hplaced] at h
    cases h
    rfl

theorem get?_prepared_self (reg : Registry) (front : String) (t : Table) :
    (reg.prepared front t).get? (front ++ t.name) = none := by
  have herased : (reg.erase (front ++ t.name)).get? (front ++ t.name) = none := by
    rw [OrderedMap.get?_erase, if_pos rfl]
  refine (get?_addPlaceholders_of_unknown herased).resolve_right ?_
  rintro ⟨hne, -⟩
  exact hne rfl

theorem prepared_unchanged_iff :
    (∀ other, (reg.prepared front t).get? other = reg.get? other) ↔
      reg.get? (front ++ t.name) = none ∧
        ∀ k, firstUnknown? reg (front ++ t.name) (SqlTable.foreignKeysOf front t) = some k →
          k.targetColumn = "" := by
  have hplaced : (∀ other,
      (reg.prepared front t).get? other = (reg.erase (front ++ t.name)).get? other) ↔
      ∀ k, firstUnknown? reg (front ++ t.name) (SqlTable.foreignKeysOf front t) = some k →
        k.targetColumn = "" := by
    rw [← firstUnknown?_erase]
    exact addPlaceholders_unchanged_iff
  rw [← hplaced]
  -- where nothing stands under the name, nothing is dropped
  have herased : reg.get? (front ++ t.name) = none →
      ∀ other, (reg.erase (front ++ t.name)).get? other = reg.get? other := by
    intro hnone other
    rw [OrderedMap.get?_erase]
    split
    · next hname => rw [hname, hnone]
    · rfl
  constructor
  · intro hsame
    have hnone : reg.get? (front ++ t.name) = none := by
      rw [← hsame]
      exact get?_prepared_self reg front t
    exact ⟨hnone, fun other => (hsame other).trans (herased hnone other).symm⟩
  · rintro ⟨hnone, hsame⟩ other
    exact (hsame other).trans (herased hnone other)

/--
What a registry holds after a table was refused: nothing under its name, all tables of other names,
and no others than placeholders for targets of its foreign keys. It holds what it held before
exactly when nothing stood under the name and no placeholder came in.
-/
structure LeftByRefusal (front : String) (t : Table) (before after : Registry) : Prop where
  dropped : after.get? (front ++ t.name) = none
  kept : ∀ name x, name ≠ front ++ t.name → before.get? name = some x → after.get? name = some x
  added : ∀ name, before.get? name = none →
    after.get? name = none ∨
      after.get? name = SqlTable.awaited? (SqlTable.foreignKeysOf front t) name
  awaited : (∀ e ∈ t.foreignKeys.entries, e.2.column ≠ "") →
    ∀ name, name ≠ front ++ t.name → before.get? name = none →
      after.get? name = SqlTable.awaited? (SqlTable.foreignKeysOf front t) name
  unchanged_iff : (∀ name, after.get? name = before.get? name) ↔
    before.get? (front ++ t.name) = none ∧
      ∀ k, firstUnknown? before (front ++ t.name) (SqlTable.foreignKeysOf front t) = some k →
        k.targetColumn = ""

/-- A refused table is not in the registry, and an earlier table of its name is there no more. -/
theorem registry_after_refusal (h : reg.build front t = (after, .error e)) :
    LeftByRefusal front t reg after := by
  obtain rfl := build_eq_error h
  constructor
  case dropped => exact get?_prepared_self reg front t
  case kept =>
    intro name x hne hx
    apply get?_addPlaceholders_of_known
    rw [OrderedMap.get?_erase, if_neg hne]
    exact hx
  case added =>
    intro name hnone
    have herased : (reg.erase (front ++ t.name)).get? name = none := by
      rw [OrderedMap.get?_erase, hnone]
      exact ite_self none
    exact (get?_addPlaceholders_of_unknown herased).imp_right And.right
  case awaited =>
    intro hnamed name hne hnone
    have hkeys : ∀ k ∈ SqlTable.foreignKeysOf front t, k.targetColumn ≠ "" := by
      intro k hk
      obtain ⟨entry, hentry, rfl⟩ := List.mem_map.mp hk
      exact hnamed entry hentry
    rw [get?_prepared (addPlaceholders_ok hkeys), if_neg hne, hnone, Option.none_or]
  case unchanged_iff => exact prepared_unchanged_iff

/-! ### Clubs -/

def clubs : Table where
  name := "club"
  columns := [Column.link "code"]

def doubledClubs : Table where
  name := "club"
  columns := [Column.link "town", Column.link "code", Column.link "code"]
  foreignKeys := .ofList [("town", { constraint := "FK_club_town", table := "town" })]

def visits : Table where
  name := "visit"
  columns := [Column.link "club"]
  foreignKeys := .ofList [("club", { constraint := "FK_visit_club", table := "club" })]

def memberships : Table where
  name := "membership"
  columns := [Column.link "club"]
  foreignKeys := .ofList
    [("club", { constraint := "FK_membership_club", table := "club", column := "code" })]

def clubRegistry : Registry := (build .empty "" clubs).1

theorem doubled_clubs_leave : ∃ after,
    clubRegistry.build "" doubledClubs = (after, .error (.duplicateColumn "club" "code")) ∧
      LeftByRefusal "" doubledClubs clubRegistry after := by
  have hrefused : (clubRegistry.build "" doubledClubs).2 =
      .error (.duplicateColumn "club" "code") := by decide +kernel
  have hbuild : clubRegistry.build "" doubledClubs =
      ((clubRegistry.build "" doubledClubs).1, .error (.duplicateColumn "club" "code")) :=
    Prod.ext rfl hrefused
  exact ⟨_, hbuild, registry_after_refusal hbuild⟩

/--
The clubs are refused for their second code and lose the table that they had, and a placeholder for
towns is left. Memberships that are built after the visits then miss the code of a club, which they
would find if the registry had stayed as it was.
-/
theorem doubled_clubs_drop_table : ∃ after,
    buildEach "" [clubs] .empty = .ok clubRegistry ∧
      clubRegistry.build "" doubledClubs = (after, .error (.duplicateColumn "club" "code")) ∧
      clubRegistry.names = ["club"] ∧ after.names = ["town"] ∧
      ¬ (∀ name, after.get? name = clubRegistry.get? name) ∧
      (∃ written, ((clubRegistry.build "" visits).1.render "" memberships).2 = .ok written) ∧
      ((after.build "" visits).1.render "" memberships).2 =
        .error (.missingTargetColumn "membership" "club.code" "club" "code") := by
  have hrefused : (clubRegistry.build "" doubledClubs).2 =
      .error (.duplicateColumn "club" "code") := by decide +kernel
  have hdropped : (clubRegistry.build "" doubledClubs).1.get? "club" = none := by decide +kernel
  have hstood : (clubRegistry.get? "club").isSome = true := by decide +kernel
  have hwritten : ∃ written,
      ((clubRegistry.build "" visits).1.render "" memberships).2 = .ok written :=
    exists_ok_of_isSome (by decide +kernel)
  refine ⟨(clubRegistry.build "" doubledClubs).1, by decide +kernel, Prod.ext rfl hrefused,
    by decide +kernel, by decide +kernel, ?_, hwritten, by decide +kernel⟩
  intro hsame
  rw [← hsame, hdropped] at hstood
  cases hstood

end Registry

end RelationalModels.Sql
