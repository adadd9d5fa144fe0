import RelationalModels.Schema.Column
import RelationalModels.Proofs.SelectEntry

/-!
# What the constraints of a column say

A column says the same things twice: in the fragments that end its definition, and in attributes of
their own. A fragment is a keyword and an operand, and no keyword is the beginning of another, so a
fragment can be read in one way only. `fragments_spell_out` states what each fragment says, which of
them a field's column can have, and that two columns have the same fragments exactly when they say
the same.
-/

namespace RelationalModels

/-! ### Literals -/

namespace Naming

def unquoteLiteral? (literal : String) : Option String :=
  match literal.toList with
  | '\'' :: rest => (Sql.closedLiteral? rest).map String.ofList
  | _ => none

theorem unquoteLiteral?_quoteLiteral (s : String) : unquoteLiteral? (quoteLiteral s) = some s := by
  have hchars : (quoteLiteral s).toList = '\'' :: (s.toList.flatMap literalChar ++ ['\'']) :=
    String.toList_ofList
  rw [unquoteLiteral?, hchars]
  show (Sql.closedLiteral? (s.toList.flatMap literalChar ++ ['\''])).map String.ofList = some s
  rw [Sql.closedLiteral?_literal, Option.map_some, String.ofList_toList]

theorem quoteLiteral_injective : Function.Injective quoteLiteral := by
  intro s t h
  have hread := congrArg unquoteLiteral? h
  rw [unquoteLiteral?_quoteLiteral, unquoteLiteral?_quoteLiteral] at hread
  exact Option.some.inj hread

end Naming

/-! ### Fragments -/

inductive FragmentKind where
  | unique
  | notNull
  | comment
  | characterSet
  | collation
  deriving DecidableEq

namespace FragmentKind

def keyword : FragmentKind → String
  | unique => "UNIQUE"
  | notNull => "NOT NULL"
  | comment => "COMMENT "
  | characterSet => "CHARACTER SET "
  | collation => "COLLATE "

def all : List FragmentKind := [unique, notNull, comment, characterSet, collation]

theorem mem_all (k : FragmentKind) : k ∈ all := by
  cases k <;> decide

theorem eq_of_prefixed_keyword {k k' : FragmentKind}
    (h : k.keyword.toList <+: k'.keyword.toList) : k = k' := by
  revert h
  cases k <;> cases k' <;> decide

theorem keyword_append_inj {k k' : FragmentKind} {s t : String}
    (h : k.keyword ++ s = k'.keyword ++ t) : k = k' ∧ s = t := by
  have hchars : k.keyword.toList ++ s.toList = k'.keyword.toList ++ t.toList := by
    rw [← String.toList_append, ← String.toList_append, h]
  have hkind : k = k' := by
    obtain hprefix | hprefix :=
      List.prefix_or_prefix_of_prefix ⟨s.toList, hchars⟩ ⟨t.toList, rfl⟩
    · exact eq_of_prefixed_keyword hprefix
    · exact (eq_of_prefixed_keyword hprefix).symm
  subst hkind
  exact ⟨rfl, String.toList_inj.mp (List.append_cancel_left hchars)⟩

end FragmentKind

namespace Column

def operand? (c : Column) : FragmentKind → Option String
  | .unique => if c.unique then some "" else none
  | .notNull => if c.nullable then none else some ""
  | .comment => (nonemptyName c.comment).map Naming.quoteLiteral
  | .characterSet => c.characterSet
  | .collation => c.collation

def fragment? (c : Column) (k : FragmentKind) : Option String :=
  (c.operand? k).map (k.keyword ++ ·)

def InOrder (c : Column) : Prop := c.constraints = FragmentKind.all.filterMap c.fragment?

theorem InOrder.keyword_append_mem_iff {c : Column} (hc : c.InOrder) (k : FragmentKind)
    (s : String) : k.keyword ++ s ∈ c.constraints ↔ c.operand? k = some s := by
  rw [hc, List.mem_filterMap]
  constructor
  · rintro ⟨k', -, hfragment⟩
    obtain ⟨t, ht, heq⟩ := Option.map_eq_some_iff.mp hfragment
    obtain ⟨rfl, rfl⟩ := FragmentKind.keyword_append_inj heq
    exact ht
  · intro hs
    refine ⟨k, k.mem_all, ?_⟩
    rw [fragment?, hs]
    rfl

theorem InOrder.constraints_eq_iff {c d : Column} (hc : c.InOrder) (hd : d.InOrder) :
    c.constraints = d.constraints ↔ ∀ k, c.operand? k = d.operand? k := by
  constructor
  · intro h k
    refine Option.ext fun s => ?_
    rw [← hc.keyword_append_mem_iff, ← hd.keyword_append_mem_iff, h]
  · intro h
    have hfragments : c.fragment? = d.fragment? := funext fun k => by rw [fragment?, fragment?, h]
    rw [hc, hd, hfragments]

/-! ### Attributes -/

/-- Two columns with the same attributes, apart from names and types; no comment is an empty one. -/
structure SayAlike (c d : Column) : Prop where
  unique : c.unique = d.unique
  nullable : c.nullable = d.nullable
  comment : nonemptyName c.comment = nonemptyName d.comment
  characterSet : c.characterSet = d.characterSet
  collation : c.collation = d.collation

theorem operand?_eq_iff {c d : Column} : (∀ k, c.operand? k = d.operand? k) ↔ c.SayAlike d := by
  constructor
  · intro h
    have hunique := h .unique
    have hnull := h .notNull
    have hcomment := h .comment
    simp only [operand?] at hunique hnull hcomment
    exact
      { unique := by cases hc : c.unique <;> cases hd : d.unique <;> simp_all
        nullable := by cases hc : c.nullable <;> cases hd : d.nullable <;> simp_all
        comment := Option.map_injective Naming.quoteLiteral_injective hcomment
        characterSet := h .characterSet
        collation := h .collation }
  · intro h k
    cases k with
    | unique => simp only [operand?, h.unique]
    | notNull => simp only [operand?, h.nullable]
    | comment => simp only [operand?, h.comment]
    | characterSet => exact h.characterSet
    | collation => exact h.collation

structure SpelledOut (c : Column) : Prop where
  inOrder : c.InOrder
  unique_iff : "UNIQUE" ∈ c.constraints ↔ c.unique = true
  notNull_iff : "NOT NULL" ∈ c.constraints ↔ c.nullable = false
  comment_iff : (∃ literal, "COMMENT " ++ literal ∈ c.constraints) ↔
    ∃ s, c.comment = some s ∧ s ≠ ""
  comment_unquoted : ∀ literal, "COMMENT " ++ literal ∈ c.constraints →
    Naming.unquoteLiteral? literal = c.comment
  characterSet_iff : ∀ name, "CHARACTER SET " ++ name ∈ c.constraints ↔ c.characterSet = some name
  collation_iff : ∀ name, "COLLATE " ++ name ∈ c.constraints ↔ c.collation = some name

theorem operand?_comment_eq_some_iff {c : Column} {literal : String} :
    c.operand? .comment = some literal ↔
      ∃ s, (c.comment = some s ∧ s ≠ "") ∧ Naming.quoteLiteral s = literal := by
  simp only [operand?, Option.map_eq_some_iff, nonemptyName_eq_some_iff]

theorem InOrder.spelledOut {c : Column} (hc : c.InOrder) : c.SpelledOut where
  inOrder := hc
  unique_iff := by
    have hmem := hc.keyword_append_mem_iff .unique ""
    rw [String.append_empty] at hmem
    refine hmem.trans ?_
    cases hunique : c.unique <;> simp [operand?, hunique]
  notNull_iff := by
    have hmem := hc.keyword_append_mem_iff .notNull ""
    rw [String.append_empty] at hmem
    refine hmem.trans ?_
    cases hnull : c.nullable <;> simp [operand?, hnull]
  comment_iff := by
    constructor
    · rintro ⟨literal, hmem⟩
      have hoperand := (hc.keyword_append_mem_iff .comment literal).mp hmem
      obtain ⟨s, hs, -⟩ := operand?_comment_eq_some_iff.mp hoperand
      exact ⟨s, hs⟩
    · rintro ⟨s, hs⟩
      refine ⟨Naming.quoteLiteral s, (hc.keyword_append_mem_iff .comment _).mpr ?_⟩
      exact operand?_comment_eq_some_iff.mpr ⟨s, hs, rfl⟩
  comment_unquoted := by
    intro literal hmem
    have hoperand := (hc.keyword_append_mem_iff .comment literal).mp hmem
    obtain ⟨s, ⟨hcomment, -⟩, rfl⟩ := operand?_comment_eq_some_iff.mp hoperand
    rw [Naming.unquoteLiteral?_quoteLiteral, hcomment]
  characterSet_iff := hc.keyword_append_mem_iff .characterSet
  collation_iff := hc.keyword_append_mem_iff .collation

/-! ### Columns of fields -/

/--
What a column takes from its field. Of the character set and the collation that a field declares, it
has those that its storage admits, and no collation beside a character set.
-/
structure WrittenAs (c : Column) (f : Field) : Prop where
  storage : c.storage = f.storage
  unique : c.unique = f.traits.unique
  nullable : c.nullable = !f.traits.required
  comment : c.comment = f.traits.comment
  characterSet_iff : ∀ name, c.characterSet = some name ↔
    c.storage.isText = true ∧ f.traits.characterSet = some name ∧ name ≠ ""
  collation_iff : ∀ name, c.collation = some name ↔
    c.storage.isText = true ∧ (f.traits.collation = some name ∧ name ≠ "") ∧
      ¬ ∃ other, f.traits.characterSet = some other ∧ other ≠ ""
  not_both : ∀ name other, "CHARACTER SET " ++ name ∈ c.constraints →
    "COLLATE " ++ other ∉ c.constraints
  text : ∀ name, "CHARACTER SET " ++ name ∈ c.constraints ∨ "COLLATE " ++ name ∈ c.constraints →
    c.storage = .largeText ∨ c.storage = .boundedString

theorem ofField_inOrder (f : Field) : (ofField f).InOrder := by
  have hunique : ((ofField f).fragment? .unique).toList =
      if f.traits.unique then ["UNIQUE"] else [] := by
    show ((if f.traits.unique then some "" else none).map ("UNIQUE" ++ ·)).toList = _
    cases f.traits.unique <;> rfl
  have hnull : ((ofField f).fragment? .notNull).toList =
      if f.traits.required then ["NOT NULL"] else [] := by
    show ((if !f.traits.required then none else some "").map ("NOT NULL" ++ ·)).toList = _
    cases f.traits.required <;> rfl
  have hcomment : ((ofField f).fragment? .comment).toList =
      ((nonemptyName f.traits.comment).map fun s => "COMMENT " ++ Naming.quoteLiteral s).toList := by
    show (((nonemptyName f.traits.comment).map Naming.quoteLiteral).map ("COMMENT " ++ ·)).toList = _
    rw [Option.map_map]
    rfl
  show constraintsOf f = FragmentKind.all.filterMap (ofField f).fragment?
  rw [List.filterMap_eq_flatMap_toList, constraintsOf, ← hunique, ← hnull, ← hcomment]
  simp only [FragmentKind.all, List.flatMap_cons, List.flatMap_nil, List.append_nil,
    List.append_assoc]
  rfl

theorem characterSetOf_eq_some_iff {f : Field} {name : String} : characterSetOf f = some name ↔
    f.storage.isText = true ∧ f.traits.characterSet = some name ∧ name ≠ "" := by
  unfold characterSetOf
  split
  · next htext => rw [nonemptyName_eq_some_iff, and_iff_right htext]
  · next htext => exact iff_of_false nofun fun h => htext h.1

theorem collationOf_eq_some_iff {f : Field} {name : String} : collationOf f = some name ↔
    f.storage.isText = true ∧ (f.traits.collation = some name ∧ name ≠ "") ∧
      ¬ ∃ other, f.traits.characterSet = some other ∧ other ≠ "" := by
  have hnone : f.storage.isText = true → ((characterSetOf f).isNone = true ↔
      ¬ ∃ other, f.traits.characterSet = some other ∧ other ≠ "") := by
    intro htext
    rw [Option.isNone_iff_eq_none, Option.eq_none_iff_forall_ne_some, not_exists]
    exact forall_congr' fun other => by
      rw [ne_eq, characterSetOf_eq_some_iff, and_iff_right htext]
  unfold collationOf
  split
  · next hboth =>
    obtain ⟨htext, hset⟩ := (Bool.and_eq_true _ _).mp hboth
    rw [nonemptyName_eq_some_iff, and_iff_right htext, and_iff_left ((hnone htext).mp hset)]
  · next hboth =>
    refine iff_of_false nofun ?_
    rintro ⟨htext, -, hset⟩
    exact hboth ((Bool.and_eq_true _ _).mpr ⟨htext, (hnone htext).mpr hset⟩)

theorem ofField_writtenAs (f : Field) : (ofField f).WrittenAs f := by
  have hspelled := (ofField_inOrder f).spelledOut
  have hset : ∀ name, "CHARACTER SET " ++ name ∈ (ofField f).constraints →
      f.storage.isText = true ∧ f.traits.characterSet = some name ∧ name ≠ "" := by
    intro name hmem
    exact characterSetOf_eq_some_iff.mp ((hspelled.characterSet_iff name).mp hmem)
  have hcollation : ∀ name, "COLLATE " ++ name ∈ (ofField f).constraints →
      f.storage.isText = true ∧ (f.traits.collation = some name ∧ name ≠ "") ∧
        ¬ ∃ other, f.traits.characterSet = some other ∧ other ≠ "" := by
    intro name hmem
    exact collationOf_eq_some_iff.mp ((hspelled.collation_iff name).mp hmem)
  exact
    { storage := rfl
      unique := rfl
      nullable := rfl
      comment := rfl
      characterSet_iff := fun _ => characterSetOf_eq_some_iff
      collation_iff := fun _ => collationOf_eq_some_iff
      not_both := fun name other hname hother =>
        (hcollation other hother).2.2 ⟨name, (hset name hname).2⟩
      text := by
        rintro name (hname | hname)
        · exact StorageKind.isText_iff.mp (hset name hname).1
        · exact StorageKind.isText_iff.mp (hcollation name hname).1 }

/--
The constraints of a field's column say what its attributes say, each fragment in its place and none
besides. The attributes are those of the field, and the columns of two fields have the same
constraints exactly when they say the same.
-/
theorem fragments_spell_out (f : Field) :
    (ofField f).SpelledOut ∧ (ofField f).WrittenAs f ∧
      ∀ g, (ofField f).constraints = (ofField g).constraints ↔ (ofField f).SayAlike (ofField g) :=
  ⟨(ofField_inOrder f).spelledOut, ofField_writtenAs f, fun g =>
    ((ofField_inOrder f).constraints_eq_iff (ofField_inOrder g)).trans operand?_eq_iff⟩

-- the quote in the comment is doubled, and the character set leaves no place for the collation
example : (ofField (.scalar ⟨"title", 255, true, false, some "it's", some "utf8", some "utf8_bin"⟩
      .string .null)).constraints =
    ["NOT NULL", "COMMENT 'it''s'", "CHARACTER SET utf8"] := by
  decide +kernel

end Column

end RelationalModels
