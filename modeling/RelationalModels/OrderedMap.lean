/-!
# Ordered mappings

A mapping from names that keeps the order in which its names were first written. Writing a name
again keeps its place and takes the new value. The names of a mapping are distinct by its type;
`get?` is the view through which the operations are described.
-/

namespace RelationalModels

def insertEntry {α : Type} (entries : List (String × α)) (name : String) (a : α) :
    List (String × α) :=
  match entries with
  | [] => [(name, a)]
  | e :: rest => if e.1 = name then (name, a) :: rest else e :: insertEntry rest name a

/-- The names after writing an entry: a new name comes last. -/
theorem insertEntry_names {α : Type} (entries : List (String × α)) (name : String) (a : α) :
    (insertEntry entries name a).map Prod.fst =
      if name ∈ entries.map Prod.fst then entries.map Prod.fst
      else entries.map Prod.fst ++ [name] := by
  induction entries with
  | nil => simp [insertEntry]
  | cons e rest ih =>
    by_cases h : e.1 = name
    · simp [insertEntry, h]
    · have h' : ¬ name = e.1 := fun c => h c.symm
      simp only [insertEntry, h, if_false, List.map_cons, ih, List.mem_cons, h', false_or]
      split <;> simp

theorem insertEntry_nodup {α : Type} (entries : List (String × α)) (name : String) (a : α)
    (h : (entries.map Prod.fst).Nodup) : ((insertEntry entries name a).map Prod.fst).Nodup := by
  rw [insertEntry_names]
  split
  · exact h
  · next c => exact List.nodup_append.2 ⟨h, by simp, by rintro x hx y hy rfl; simp_all⟩

theorem insertEntry_of_not_mem {α : Type} (entries : List (String × α)) (name : String) (a : α)
    (h : name ∉ entries.map Prod.fst) : insertEntry entries name a = entries ++ [(name, a)] := by
  induction entries with
  | nil => rfl
  | cons e rest ih =>
    have h' : ¬ e.1 = name := fun c => h (by simp [c])
    have hrest : name ∉ rest.map Prod.fst := fun c => h (by simp [c])
    simp only [insertEntry, h', if_false, ih hrest, List.cons_append]

/-- A mapping with distinct names in a fixed order. -/
structure OrderedMap (α : Type) where
  entries : List (String × α)
  nodup : (entries.map Prod.fst).Nodup
  deriving DecidableEq

namespace OrderedMap

variable {α β : Type}

instance : Inhabited (OrderedMap α) := ⟨⟨[], by simp⟩⟩

def empty : OrderedMap α := ⟨[], by simp⟩

def insert (m : OrderedMap α) (name : String) (a : α) : OrderedMap α :=
  ⟨insertEntry m.entries name a, insertEntry_nodup m.entries name a m.nodup⟩

def insertMany (m : OrderedMap α) (entries : List (String × α)) : OrderedMap α :=
  entries.foldl (fun m e => m.insert e.1 e.2) m

def ofList (entries : List (String × α)) : OrderedMap α := empty.insertMany entries

def get? (m : OrderedMap α) (name : String) : Option α := m.entries.lookup name

def contains (m : OrderedMap α) (name : String) : Bool := (m.get? name).isSome

def erase (m : OrderedMap α) (name : String) : OrderedMap α :=
  ⟨m.entries.filter fun e => e.1 != name,
   List.Pairwise.sublist (List.Sublist.map _ List.filter_sublist) m.nodup⟩

def names (m : OrderedMap α) : List String := m.entries.map Prod.fst

def values (m : OrderedMap α) : List α := m.entries.map Prod.snd

def mapValues (f : String → α → β) (m : OrderedMap α) : OrderedMap β :=
  ⟨m.entries.map fun e => (e.1, f e.1 e.2), by
    have h : (m.entries.map fun e => (e.1, f e.1 e.2)).map Prod.fst = m.entries.map Prod.fst := by
      simp [Function.comp_def]
    rw [h]; exact m.nodup⟩

theorem lookup_entry (e : String × α) (rest : List (String × α)) (name : String) :
    (e :: rest).lookup name = if name = e.1 then some e.2 else rest.lookup name := by
  obtain ⟨key, a⟩ := e
  by_cases h : name = key
  · subst h
    simp
  · have hb : (name == key) = false := beq_false_of_ne h
    simp [List.lookup_cons, hb, h]

theorem get?_eq_some_iff (m : OrderedMap α) (name : String) (a : α) :
    m.get? name = some a ↔ (name, a) ∈ m.entries := by
  have key : ∀ entries : List (String × α), (entries.map Prod.fst).Nodup →
      (entries.lookup name = some a ↔ (name, a) ∈ entries) := by
    intro entries
    induction entries with
    | nil => simp
    | cons e rest ih =>
      intro hd
      obtain ⟨hnot, hd⟩ := List.nodup_cons.mp hd
      by_cases he : e.1 = name
      · have hrest : (name, a) ∉ rest := fun c => hnot (he ▸ List.mem_map_of_mem (f := Prod.fst) c)
        subst he
        simp [lookup_entry, hrest, Prod.ext_iff, eq_comm]
      · simp [lookup_entry, ih hd, Prod.ext_iff, Ne.symm he]
  exact key m.entries m.nodup

theorem mem_values_of_get? {m : OrderedMap α} {name : String} {a : α} (h : m.get? name = some a) :
    a ∈ m.values :=
  List.mem_map_of_mem (f := Prod.snd) ((m.get?_eq_some_iff name a).mp h)

theorem exists_get?_of_mem_names {m : OrderedMap α} {name : String} (h : name ∈ m.names) :
    ∃ a, m.get? name = some a := by
  obtain ⟨⟨_, a⟩, hmem, rfl⟩ := List.mem_map.mp h
  exact ⟨a, (m.get?_eq_some_iff _ a).mpr hmem⟩

theorem get?_eq_none_iff {m : OrderedMap α} {name : String} :
    m.get? name = none ↔ name ∉ m.names := by
  constructor
  · intro hnone hmem
    obtain ⟨a, ha⟩ := exists_get?_of_mem_names hmem
    rw [hnone] at ha
    cases ha
  · intro hmem
    cases hget : m.get? name with
    | none => rfl
    | some a =>
      have hentry := (m.get?_eq_some_iff name a).mp hget
      exact absurd (List.mem_map_of_mem (f := Prod.fst) hentry) hmem

theorem get?_mapValues (f : String → α → β) (m : OrderedMap α) (name : String) :
    (m.mapValues f).get? name = (m.get? name).map (f name) := by
  have key : ∀ entries : List (String × α),
      (entries.map fun e => (e.1, f e.1 e.2)).lookup name =
        (entries.lookup name).map (f name) := by
    intro entries
    induction entries with
    | nil => rfl
    | cons e rest ih =>
      rw [List.map_cons, lookup_entry, lookup_entry, ih]
      split
      · next h => rw [h]; rfl
      · rfl
  exact key m.entries

theorem get?_insert (m : OrderedMap α) (name other : String) (a : α) :
    (m.insert name a).get? other = if other = name then some a else m.get? other := by
  have key : ∀ entries : List (String × α), (insertEntry entries name a).lookup other =
      if other = name then some a else entries.lookup other := by
    intro entries
    induction entries with
    | nil => exact lookup_entry (name, a) [] other
    | cons e rest ih =>
      by_cases he : e.1 = name
      · subst he
        simp only [insertEntry, if_true, lookup_entry]
        split <;> rfl
      · simp only [insertEntry, he, if_false, lookup_entry, ih]
        by_cases h : other = e.1
        · have hne : ¬ other = name := fun c => he (h.symm.trans c)
          rw [if_pos h, if_neg hne, if_pos h]
        · rw [if_neg h, if_neg h]
  exact key m.entries

theorem get?_erase (m : OrderedMap α) (name other : String) :
    (m.erase name).get? other = if other = name then none else m.get? other := by
  have key : ∀ entries : List (String × α), (entries.filter fun e => e.1 != name).lookup other =
      if other = name then none else entries.lookup other := by
    intro entries
    induction entries with
    | nil => simp
    | cons e rest ih =>
      by_cases he : e.1 = name
      · rw [List.filter_cons_of_neg (by simp [he]), ih, lookup_entry, he]
        split <;> rfl
      · rw [List.filter_cons_of_pos (by simp [he]), lookup_entry, lookup_entry, ih]
        by_cases h : other = e.1
        · have hne : ¬ other = name := fun c => he (h.symm.trans c)
          rw [if_pos h, if_neg hne, if_pos h]
        · rw [if_neg h, if_neg h]
  exact key m.entries

theorem ofList_entries (entries : List (String × α)) (h : (entries.map Prod.fst).Nodup) :
    (ofList entries).entries = entries := by
  have key : ∀ (rest : List (String × α)) (m : OrderedMap α),
      ((m.entries ++ rest).map Prod.fst).Nodup → (m.insertMany rest).entries = m.entries ++ rest := by
    intro rest
    induction rest with
    | nil => intro m _; simp [insertMany]
    | cons e rest ih =>
      intro m hd
      have hnew : e.1 ∉ m.entries.map Prod.fst := by
        rw [List.map_append, List.map_cons] at hd
        intro c
        exact (List.nodup_append.mp hd).2.2 _ c _ (List.mem_cons_self ..) rfl
      have hinsert : (m.insert e.1 e.2).entries = m.entries ++ [e] :=
        insertEntry_of_not_mem m.entries e.1 e.2 hnew
      have hrest := ih (m.insert e.1 e.2) (by simpa [hinsert] using hd)
      rw [hinsert] at hrest
      simpa [insertMany] using hrest
  simpa [ofList, empty] using key entries empty (by simpa [empty] using h)

end OrderedMap

end RelationalModels
