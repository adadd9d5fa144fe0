import RelationalModels.Proofs.Building

/-!
# What a registry holds

Tables are built one after the other in one registry. Each build drops the earlier table of its
name, leaves all others as they are, and adds a placeholder for every target that is still unknown.
`buildEach_holds` states what stands in a registry that was empty at first: under every name that
was built the last table of that name, under every other name a foreign key points at a placeholder
for the first such key, and nothing else.
-/

namespace RelationalModels.Sql

/-- The placeholder for a table that foreign keys point at; the first of them names its column. -/
def SqlTable.awaited? (keys : List SqlForeignKey) (name : String) : Option SqlTable :=
  (keys.find? fun k => k.targetTable == name).map fun k => placeholder name k.targetColumn

namespace SqlTable

theorem awaited?_cons (k : SqlForeignKey) (keys : List SqlForeignKey) (name : String) :
    awaited? (k :: keys) name =
      if k.targetTable = name then some (placeholder name k.targetColumn)
      else awaited? keys name := by
  by_cases h : k.targetTable = name <;> simp [awaited?, h]

theorem awaited?_append (keys others : List SqlForeignKey) (name : String) :
    awaited? (keys ++ others) name = (awaited? keys name).or (awaited? others name) := by
  simp [awaited?, List.find?_append, Option.map_or]

theorem awaited?_eq_some {keys : List SqlForeignKey} {name : String} {table : SqlTable}
    (h : awaited? keys name = some table) :
    ∃ k ∈ keys, k.targetTable = name ∧ table = placeholder name k.targetColumn := by
  obtain ⟨k, hfind, rfl⟩ := Option.map_eq_some_iff.mp h
  have htarget : k.targetTable = name := by simpa using List.find?_some hfind
  exact ⟨k, List.mem_of_find?_eq_some hfind, htarget, rfl⟩

theorem awaited?_eq_none_iff {keys : List SqlForeignKey} {name : String} :
    awaited? keys name = none ↔ ∀ k ∈ keys, name ≠ k.targetTable := by
  simp [awaited?, @eq_comm _ name]

theorem isSome_awaited? {keys : List SqlForeignKey} {k : SqlForeignKey} (hk : k ∈ keys) :
    (awaited? keys k.targetTable).isSome = true := by
  rw [awaited?, Option.isSome_map, List.find?_isSome]
  exact ⟨k, hk, by simp⟩

end SqlTable

namespace Registry

/-! ### One table -/

theorem get?_addPlaceholders {name : String} {keys : List SqlForeignKey} {reg : Registry}
    (h : (addPlaceholders name keys reg).2 = none) (other : String) :
    (addPlaceholders name keys reg).1.get? other =
      (reg.get? other).or (if other = name then none else SqlTable.awaited? keys other) := by
  induction keys generalizing reg with
  | nil => simp [addPlaceholders, SqlTable.awaited?]
  | cons k keys ih =>
    -- a key is passed over when its target is the name itself or stands already
    rw [addPlaceholders] at h ⊢
    rw [SqlTable.awaited?_cons]
    split at h
    · next hskip =>
      rw [if_pos hskip, ih h]
      by_cases htarget : k.targetTable = other
      · subst htarget
        rcases Bool.or_eq_true_iff.mp hskip with hself | hknown
        · simp [eq_of_beq hself]
        · obtain ⟨x, hx⟩ := Option.isSome_iff_exists.mp hknown
          simp [hx]
      · simp [htarget]
    · next hadd =>
      have hnew : k.targetTable ≠ name ∧ reg.get? k.targetTable = none := by
        simpa [OrderedMap.contains] using hadd
      split at h
      · cases h
      · next hcolumn =>
        rw [if_neg hadd, if_neg hcolumn, ih h, OrderedMap.get?_insert]
        by_cases htarget : k.targetTable = other
        · subst htarget
          simp [hnew]
        · simp [htarget, Ne.symm htarget]

def entered (reg : Registry) (front : String) (t : Table) : Registry :=
  (reg.prepared front t).insert (front ++ t.name) (SqlTable.assemble front t)

theorem build_eq_ok {reg after : Registry} {front : String} {t : Table} {table : SqlTable}
    (h : reg.build front t = (after, .ok table)) :
    (addPlaceholders (front ++ t.name) (SqlTable.foreignKeysOf front t)
        (reg.erase (front ++ t.name))).2 = none ∧
      table = SqlTable.assemble front t ∧ after = reg.entered front t := by
  rw [build] at h
  rw [entered, prepared]
  rcases hplaced : addPlaceholders (front ++ t.name) (SqlTable.foreignKeysOf front t)
    (reg.erase (front ++ t.name)) with ⟨placed, error⟩
  rw [hplaced] at h
  cases error with
  | some e => cases h
  | none =>
    cases hfault : SqlTable.fault? front t with
    | some e =>
      simp only [hfault] at h
      cases h
    | none =>
      simp only [hfault] at h
      cases h
      exact ⟨rfl, rfl, rfl⟩

theorem get?_prepared {reg : Registry} {front : String} {t : Table}
    (h : (addPlaceholders (front ++ t.name) (SqlTable.foreignKeysOf front t)
      (reg.erase (front ++ t.name))).2 = none) (other : String) :
    (reg.prepared front t).get? other =
      if other = front ++ t.name then none
      else (reg.get? other).or (SqlTable.awaited? (SqlTable.foreignKeysOf front t) other) := by
  rw [prepared, get?_addPlaceholders h, OrderedMap.get?_erase]
  split <;> rfl

theorem get?_entered {reg : Registry} {front : String} {t : Table}
    (h : (addPlaceholders (front ++ t.name) (SqlTable.foreignKeysOf front t)
      (reg.erase (front ++ t.name))).2 = none) (other : String) :
    (reg.entered front t).get? other =
      if other = front ++ t.name then some (SqlTable.assemble front t)
      else (reg.get? other).or (SqlTable.awaited? (SqlTable.foreignKeysOf front t) other) := by
  rw [entered, OrderedMap.get?_insert, get?_prepared h]
  split <;> rfl

theorem get?_of_build {reg after : Registry} {front : String} {t : Table} {table : SqlTable}
    (h : reg.build front t = (after, .ok table)) (other : String) :
    after.get? other =
      if other = front ++ t.name then some (SqlTable.assemble front t)
      else (reg.get? other).or (SqlTable.awaited? (SqlTable.foreignKeysOf front t) other) := by
  obtain ⟨hplaced, -, rfl⟩ := build_eq_ok h
  exact get?_entered hplaced other

/-! ### One table after the other -/

def buildEach (front : String) : List Table → Registry → Except SqlError Registry
  | [], reg => .ok reg
  | t :: rest, reg =>
    match reg.build front t with
    | (_, .error e) => .error e
    | (after, .ok _) => buildEach front rest after

def lastBuilt? (front : String) (ts : List Table) (name : String) : Option SqlTable :=
  (ts.reverse.find? fun t => front ++ t.name == name).map (SqlTable.assemble front)

section Run

variable {front : String} {ts : List Table} {t : Table} {reg after : Registry}

theorem buildEach_cons_eq_ok {rest : List Table} (h : buildEach front (t :: rest) reg = .ok after) :
    ∃ mid, reg.build front t = (mid, .ok (SqlTable.assemble front t)) ∧
      buildEach front rest mid = .ok after := by
  rw [buildEach] at h
  rcases hbuild : reg.build front t with ⟨mid, outcome⟩
  rw [hbuild] at h
  cases outcome with
  | error e => cases h
  | ok table =>
    obtain ⟨-, rfl, -⟩ := build_eq_ok hbuild
    exact ⟨mid, rfl, h⟩

theorem buildEach_append_eq_ok {before rest : List Table}
    (h : buildEach front (before ++ rest) reg = .ok after) :
    ∃ mid, buildEach front before reg = .ok mid ∧ buildEach front rest mid = .ok after := by
  induction before generalizing reg with
  | nil => exact ⟨reg, rfl, h⟩
  | cons t before ih =>
    obtain ⟨next, hbuild, hrest⟩ := buildEach_cons_eq_ok h
    obtain ⟨mid, hbefore, hafter⟩ := ih hrest
    refine ⟨mid, ?_, hafter⟩
    rw [buildEach, hbuild]
    exact hbefore

theorem lastBuilt?_append (before rest : List Table) (name : String) :
    lastBuilt? front (before ++ rest) name =
      (lastBuilt? front rest name).or (lastBuilt? front before name) := by
  rw [lastBuilt?, List.reverse_append, List.find?_append, Option.map_or, lastBuilt?, lastBuilt?]

theorem lastBuilt?_cons (rest : List Table) (name : String) :
    lastBuilt? front (t :: rest) name = (lastBuilt? front rest name).or
      (if name = front ++ t.name then some (SqlTable.assemble front t) else none) := by
  have hone : lastBuilt? front [t] name =
      if name = front ++ t.name then some (SqlTable.assemble front t) else none := by
    by_cases h : name = front ++ t.name
    · simp [lastBuilt?, h]
    · simp [lastBuilt?, h, Ne.symm h]
  rw [← hone, ← lastBuilt?_append, List.singleton_append]

theorem lastBuilt?_eq_none_iff {name : String} :
    lastBuilt? front ts name = none ↔ ∀ t ∈ ts, name ≠ front ++ t.name := by
  simp [lastBuilt?, @eq_comm _ name]

theorem get?_buildEach (h : buildEach front ts reg = .ok after) (name : String) :
    after.get? name = (lastBuilt? front ts name).or ((reg.get? name).or
      (SqlTable.awaited? (ts.flatMap (SqlTable.foreignKeysOf front)) name)) := by
  induction ts generalizing reg with
  | nil =>
    obtain rfl : reg = after := Except.ok.inj h
    simp [lastBuilt?, SqlTable.awaited?]
  | cons t rest ih =>
    obtain ⟨mid, hbuild, hrest⟩ := buildEach_cons_eq_ok h
    -- what the first build left counts for the others as what stood before
    rw [ih hrest, get?_of_build hbuild, lastBuilt?_cons, List.flatMap_cons,
      SqlTable.awaited?_append]
    by_cases hname : name = front ++ t.name
    · simp [hname]
    · simp [hname, Option.or_assoc]

/-! ### What stands in the registry -/

/--
What a registry holds when some tables have been built in it: the names that were built or that a
foreign key points at, each built name with the last of its tables, each other name with a
placeholder whose key is the column that a foreign key names.
-/
structure HoldsBuilt (reg : Registry) (front : String) (ts : List Table) : Prop where
  mem_names_iff : ∀ name, name ∈ reg.names ↔
    (∃ t ∈ ts, name = front ++ t.name) ∨
      ∃ t ∈ ts, ∃ e ∈ t.foreignKeys.entries, name = front ++ e.2.table
  built : ∀ before t rest, ts = before ++ t :: rest → (∀ u ∈ rest, u.name ≠ t.name) →
    reg.get? (front ++ t.name) = some (SqlTable.assemble front t)
  awaited : ∀ name ∈ reg.names, (∀ t ∈ ts, name ≠ front ++ t.name) →
    ∃ t ∈ ts, ∃ e ∈ t.foreignKeys.entries, name = front ++ e.2.table ∧
      reg.get? name = some (SqlTable.placeholder name e.2.column)

structure Enters (front : String) (t : Table) (before after : Registry) : Prop where
  entered : after.get? (front ++ t.name) = some (SqlTable.assemble front t)
  kept : ∀ name table, name ≠ front ++ t.name → before.get? name = some table →
    after.get? name = some table

theorem awaited_target {k : SqlForeignKey} (hk : k ∈ ts.flatMap (SqlTable.foreignKeysOf front)) :
    ∃ t ∈ ts, ∃ e ∈ t.foreignKeys.entries,
      k.targetTable = front ++ e.2.table ∧ k.targetColumn = e.2.column := by
  obtain ⟨t, ht, hk⟩ := List.mem_flatMap.mp hk
  obtain ⟨e, he, rfl⟩ := List.mem_map.mp hk
  exact ⟨t, ht, e, he, rfl, rfl⟩

theorem target_awaited (front : String) {e : String × ForeignKey} (ht : t ∈ ts)
    (he : e ∈ t.foreignKeys.entries) :
    ∃ k ∈ ts.flatMap (SqlTable.foreignKeysOf front), k.targetTable = front ++ e.2.table :=
  ⟨_, List.mem_flatMap.mpr ⟨t, ht, List.mem_map_of_mem he⟩, rfl⟩

theorem holdsBuilt_of_buildEach (h : buildEach front ts .empty = .ok reg) :
    HoldsBuilt reg front ts := by
  have hget : ∀ name, reg.get? name = (lastBuilt? front ts name).or
      (SqlTable.awaited? (ts.flatMap (SqlTable.foreignKeysOf front)) name) := fun name =>
    get?_buildEach h name
  constructor
  case mem_names_iff =>
    intro name
    rw [← not_iff_not, ← OrderedMap.get?_eq_none_iff, hget, Option.or_eq_none_iff,
      lastBuilt?_eq_none_iff, SqlTable.awaited?_eq_none_iff, not_or]
    simp only [not_exists, not_and]
    refine and_congr_right fun _ => ⟨?_, ?_⟩
    · intro hkeys t ht e he
      obtain ⟨k, hk, htarget⟩ := target_awaited front ht he
      rw [← htarget]
      exact hkeys k hk
    · intro htargets k hk
      obtain ⟨t, ht, e, he, htarget, -⟩ := awaited_target hk
      rw [htarget]
      exact htargets t ht e he
  case built =>
    rintro before t rest rfl hlast
    have hrest : lastBuilt? front rest (front ++ t.name) = none := by
      rw [lastBuilt?_eq_none_iff]
      intro u hu
      simpa using (hlast u hu).symm
    rw [hget, lastBuilt?_append, lastBuilt?_cons, hrest, if_pos rfl]
    rfl
  case awaited =>
    intro name hname hbuilt
    obtain ⟨table, htable⟩ := OrderedMap.exists_get?_of_mem_names hname
    have hawaited := htable
    rw [hget, lastBuilt?_eq_none_iff.mpr hbuilt, Option.none_or] at hawaited
    obtain ⟨k, hk, rfl, rfl⟩ := SqlTable.awaited?_eq_some hawaited
    obtain ⟨t, ht, e, he, htarget, hcolumn⟩ := awaited_target hk
    exact ⟨t, ht, e, he, htarget, by rw [htable, hcolumn]⟩

theorem enters_of_build {before after : Registry} {table : SqlTable}
    (h : before.build front t = (after, .ok table)) : Enters front t before after where
  entered := by
    rw [get?_of_build h, if_pos rfl]
  kept name x hname hx := by
    rw [get?_of_build h, if_neg hname, hx]
    rfl

end Run

/--
Tables that can all be built one after the other leave a registry that holds them: the last one
under each name, and placeholders for the targets that were never built. This is so at every stage
of the run, and each table in turn takes the place of whatever stood under its name and of nothing
else.
-/
theorem buildEach_holds {front : String} {ts : List Table} {reg : Registry}
    (h : buildEach front ts .empty = .ok reg) :
    HoldsBuilt reg front ts ∧
      ∀ before t rest, ts = before ++ t :: rest →
        ∃ earlier later, buildEach front before .empty = .ok earlier ∧
          HoldsBuilt earlier front before ∧
          earlier.build front t = (later, .ok (SqlTable.assemble front t)) ∧
          Enters front t earlier later ∧ buildEach front rest later = .ok reg := by
  refine ⟨holdsBuilt_of_buildEach h, ?_⟩
  rintro before t rest rfl
  obtain ⟨earlier, hbefore, hrest⟩ := buildEach_append_eq_ok h
  obtain ⟨later, hbuild, hafter⟩ := buildEach_cons_eq_ok hrest
  exact ⟨earlier, later, hbefore, holdsBuilt_of_buildEach hbefore, hbuild,
    enters_of_build hbuild, hafter⟩

/-! ### Members of clubs -/

def clubTables : List Table :=
  [{ name := "member"
     columns := [Column.link "sponsor", Column.link "club", Column.link "town"]
     foreignKeys := .ofList
       [("sponsor", { constraint := "FK_member_sponsor", table := "member" }),
        ("club", { constraint := "FK_member_club", table := "club", column := "code" }),
        ("town", { constraint := "FK_member_town", table := "town", column := "code" })] },
   { name := "club", columns := [Column.link "code"] },
   { name := "club", columns := [Column.link "code", Column.link "founded"] }]

theorem club_tables_held : ∃ reg, buildEach "app_" clubTables .empty = .ok reg ∧
    HoldsBuilt reg "app_" clubTables ∧
    ∀ before t rest, clubTables = before ++ t :: rest →
      ∃ earlier later, buildEach "app_" before .empty = .ok earlier ∧
        HoldsBuilt earlier "app_" before ∧
        earlier.build "app_" t = (later, .ok (SqlTable.assemble "app_" t)) ∧
        Enters "app_" t earlier later ∧ buildEach "app_" rest later = .ok reg := by
  obtain ⟨reg, hreg⟩ : ∃ reg, buildEach "app_" clubTables .empty = .ok reg :=
    exists_ok_of_isSome (by decide +kernel)
  exact ⟨reg, hreg, buildEach_holds hreg⟩

end Registry

end RelationalModels.Sql
