import Mathlib.Data.List.Basic
import RelationalModels.Proofs.Texts
import RelationalModels.Sql.SelectEntry

/-!
# Reading select entries

What a select entry was written from is read back from it: the text of a literal up to its closing
quote, and the expression in front of the alias. Behind a quote of the expression the quotes do not
pair up until the end, so that an alias is found where it was written and nowhere earlier.
-/

namespace RelationalModels.Text

/-! ### Word characters and white space -/

theorem isWord_space_codes :
    ∀ n ∈ Ranges.codes (blankTable ++ [(0x1C, 0x1F)]), isWord (Char.ofNat n) = false := by
  decide +kernel

theorem isSpace_of_isWord {c : Char} (h : isWord c = true) : isSpace c = false := by
  have htable : isSpace c = Ranges.mem (blankTable ++ [(0x1C, 0x1F)]) c.toNat := by
    simp only [isSpace, isBlank, Ranges.mem, List.any_append]
  -- white space is a finite table, none of whose code points is a word character
  by_contra hspace
  rw [Bool.not_eq_false, htable, Ranges.mem_iff] at hspace
  have hword := isWord_space_codes c.toNat hspace
  rw [Char.ofNat_toNat, h] at hword
  cases hword

theorem isBareName_iff {cs : List Char} :
    isBareName cs = true ↔ cs ≠ [] ∧ ∀ c ∈ cs, isWord c = true := by
  simp [isBareName]

/-! ### Trimming and cutting -/

structure Trimmed (cs : List Char) : Prop where
  ne_nil : cs ≠ []
  head : ∀ c ∈ cs.head?, isSpace c = false
  last : ∀ c ∈ cs.getLast?, isSpace c = false

theorem Trimmed.trimSpace_append {cs after : List Char} (h : Trimmed cs)
    (hafter : ∀ c ∈ after.getLast?, isSpace c = false) : trimSpace (cs ++ after) = cs ++ after := by
  apply trimBy_eq_self
  · intro c hc
    rw [List.head?_append_of_ne_nil _ h.ne_nil] at hc
    exact h.head c hc
  · intro c hc
    rw [List.getLast?_append, Option.mem_def, Option.or_eq_some_iff] at hc
    rcases hc with hc | ⟨-, hc⟩
    · exact hafter c hc
    · exact h.last c hc

theorem trimmed_of_isBareName {cs : List Char} (h : isBareName cs = true) : Trimmed cs where
  ne_nil := (isBareName_iff.mp h).1
  head c hc := isSpace_of_isWord ((isBareName_iff.mp h).2 c (List.mem_of_mem_head? hc))
  last c hc := isSpace_of_isWord ((isBareName_iff.mp h).2 c (List.mem_of_mem_getLast? hc))

theorem dropWhile_append_of_last {p : Char → Bool} {last : Char} (h : p last = false)
    (cs after : List Char) :
    (cs ++ last :: after).dropWhile p = cs.dropWhile p ++ last :: after := by
  induction cs with
  | nil => simp [h]
  | cons c cs ih => by_cases hc : p c = true <;> simp [hc, ih]

theorem splitOnChar_eq_splitOn (sep : Char) (cs : List Char) :
    splitOnChar sep cs = cs.splitOn sep := by
  induction cs with
  | nil => simp [splitOnChar, List.splitOn_eq_splitOnP]
  | cons c cs ih =>
    rw [List.splitOn_cons_eq_if_modifyHead, splitOnChar, ih]
    by_cases h : c = sep
    · simp [h]
    · have hne := List.splitOn_ne_nil sep cs
      simp only [h, if_false, beq_iff_eq]
      cases hs : cs.splitOn sep with
      | nil => exact absurd hs hne
      | cons part parts => rfl

end RelationalModels.Text

namespace RelationalModels.Sql

open RelationalModels.Text

/-! ### Literals -/

theorem closedLiteral?_cons {c : Char} (hc : c ≠ '\'') (rest : List Char) :
    closedLiteral? (c :: rest) = (closedLiteral? rest).map (c :: ·) := by
  rw [closedLiteral?.eq_def]
  split <;> simp_all

theorem closedLiteral?_lone {c : Char} (hc : c ≠ '\'') (rest : List Char) :
    closedLiteral? ('\'' :: c :: rest) = none := by
  simp [closedLiteral?, hc]

theorem closedLiteral?_quotes {rest : List Char} :
    closedLiteral? ('\'' :: '\'' :: rest) = (closedLiteral? rest).map ('\'' :: ·) := by
  simp [closedLiteral?]

theorem closedLiteral?_literal (label : List Char) :
    closedLiteral? (label.flatMap Naming.literalChar ++ ['\'']) = some label := by
  induction label with
  | nil => rfl
  | cons c label ih =>
    by_cases hc : c = '\''
    · subst hc
      simp only [List.flatMap_cons, Naming.literalChar, if_true, List.cons_append, List.nil_append,
        closedLiteral?_quotes, ih, Option.map_some]
    · simp only [List.flatMap_cons, Naming.literalChar, hc, if_false, List.cons_append,
        List.nil_append, closedLiteral?_cons hc, ih, Option.map_some]

def writtenAlias (label : List Char) : List Char :=
  ' ' :: 'A' :: 'S' :: ' ' :: '\'' :: (label.flatMap Naming.literalChar ++ ['\''])

theorem toList_selectExpression (column label : String) :
    (Naming.selectExpression column label).toList =
      column.toList ++ writtenAlias label.toList := by
  simp [Naming.selectExpression, Naming.quoteLiteral, writtenAlias]

theorem aliasEnding?_writtenAlias (label : List Char) :
    aliasEnding? (writtenAlias label) = some label := by
  have hspaces : ∀ rest, afterSpaces? (' ' :: 'A' :: rest) = some ('A' :: rest) := fun _ => rfl
  have hquote : ∀ rest, afterSpaces? (' ' :: '\'' :: rest) = some ('\'' :: rest) := fun _ => rfl
  have has : ∀ rest, afterAs? ('A' :: 'S' :: rest) = some rest := fun _ => rfl
  simp only [aliasEnding?, writtenAlias, hspaces, has, hquote, closedLiteral?_literal]

/-! ### Quotes that do not pair up -/

/-- Behind one quote too many, no quote of a literal is left to close it. -/
theorem closedLiteral?_quote_literal (label : List Char) :
    closedLiteral? ('\'' :: (label.flatMap Naming.literalChar ++ ['\''])) = none := by
  induction label with
  | nil => rfl
  | cons c label ih =>
    by_cases hc : c = '\''
    · subst hc
      have htwice : ('\'' :: label).flatMap Naming.literalChar =
          '\'' :: '\'' :: label.flatMap Naming.literalChar := rfl
      rw [htwice, List.cons_append, closedLiteral?_quotes, List.cons_append, ih]
      rfl
    · have honce : (c :: label).flatMap Naming.literalChar =
          c :: label.flatMap Naming.literalChar := by
        simp [Naming.literalChar, hc]
      rw [honce, List.cons_append, closedLiteral?_lone hc]

theorem closedLiteral?_append_writtenAlias (cs label : List Char) :
    closedLiteral? (cs ++ writtenAlias label) = none := by
  -- quotes in `cs` pair up or end the reading, and behind them the alias opens with one too many
  induction cs using closedLiteral?.induct with
  | case1 =>
    have hspace : ' ' ≠ '\'' := by decide
    have hA : 'A' ≠ '\'' := by decide
    have hS : 'S' ≠ '\'' := by decide
    simp only [List.nil_append, writtenAlias, closedLiteral?_cons hspace, closedLiteral?_cons hA,
      closedLiteral?_cons hS, closedLiteral?_quote_literal, Option.map_none]
  | case2 => exact closedLiteral?_lone (by decide) _
  | case3 rest ih =>
    rw [List.cons_append, List.cons_append, closedLiteral?_quotes, ih]
    rfl
  | case4 rest hend hpair =>
    cases rest with
    | nil => exact (hend rfl rfl).elim
    | cons d rest =>
      have hd : d ≠ '\'' := fun hd => hpair rest rfl (by rw [hd])
      exact closedLiteral?_lone hd _
  | case5 c rest _ _ hc ih =>
    rw [List.cons_append, closedLiteral?_cons hc, ih]
    rfl

/-! ### Where an alias begins -/

theorem afterSpaces?_of_last {last : Char} (h : isSpace last = false) {cs after rest : List Char}
    (hrest : afterSpaces? (cs ++ last :: after) = some rest) :
    ∃ less, rest = less ++ last :: after := by
  cases cs with
  | nil => simp [afterSpaces?, h] at hrest
  | cons c cs =>
    rw [List.cons_append, afterSpaces?] at hrest
    split at hrest
    · rw [dropWhile_append_of_last h] at hrest
      exact ⟨cs.dropWhile isSpace, (Option.some.inj hrest).symm⟩
    · cases hrest

theorem afterAs?_eq_some {cs rest : List Char} (h : afterAs? cs = some rest) :
    ∃ a s, cs = a :: s :: rest ∧ isLetterS s = true := by
  match cs, h with
  | a :: s :: tail, h =>
    rw [afterAs?] at h
    split at h
    · next hletters =>
      obtain rfl := Option.some.inj h
      exact ⟨a, s, rfl, (Bool.and_eq_true_iff.mp hletters).2⟩
    · cases h

/-- No alias begins inside an expression that goes on to another character than white space. -/
theorem aliasEnding?_append_writtenAlias {last : Char} (h : isSpace last = false)
    (cs label : List Char) : aliasEnding? (cs ++ last :: writtenAlias label) = none := by
  -- what is read after each part still ends in the expression, unless that ends with the word `AS`
  rw [aliasEnding?]
  cases hspaces : afterSpaces? (cs ++ last :: writtenAlias label) with
  | none => rfl
  | some atAs =>
    obtain ⟨less, rfl⟩ := afterSpaces?_of_last h hspaces
    dsimp only
    cases has : afterAs? (less ++ last :: writtenAlias label) with
    | none => rfl
    | some afterAs =>
      obtain ⟨a, s, hword, hs⟩ := afterAs?_eq_some has
      match less, hword with
      | [], hword =>
        obtain ⟨-, hnext⟩ := List.cons.inj hword
        obtain ⟨rfl, -⟩ := List.cons.inj hnext
        exact absurd hs (by decide)
      | [_], hword =>
        obtain ⟨-, hnext⟩ := List.cons.inj hword
        obtain ⟨-, rfl⟩ := List.cons.inj hnext
        rfl
      | _ :: _ :: less, hword =>
        obtain ⟨-, hnext⟩ := List.cons.inj hword
        obtain ⟨-, rfl⟩ := List.cons.inj hnext
        dsimp only
        split
        · next literal hquote =>
          obtain ⟨more, hmore⟩ := afterSpaces?_of_last h hquote
          cases more with
          | nil =>
            obtain ⟨-, rfl⟩ := List.cons.inj hmore
            exact closedLiteral?_append_writtenAlias [] label
          | cons _ more =>
            obtain ⟨-, rfl⟩ := List.cons.inj hmore
            have hinside := closedLiteral?_append_writtenAlias (more ++ [last]) label
            rwa [List.append_assoc, List.singleton_append] at hinside
        · rfl

theorem splitAlias?_writtenAlias {expr : List Char} (hne : expr ≠ [])
    (hlast : ∀ c ∈ expr.getLast?, isSpace c = false) (label : List Char) :
    splitAlias? (expr ++ writtenAlias label) = some (expr, label) := by
  -- an alias is looked for behind each character, and there is none before the last
  induction expr with
  | nil => exact absurd rfl hne
  | cons c expr ih =>
    rcases expr.eq_nil_or_concat with rfl | ⟨init, last, rfl⟩
    · rw [List.singleton_append, splitAlias?, aliasEnding?_writtenAlias]
    · rw [List.concat_eq_append] at ih hlast ⊢
      have hend : isSpace last = false := hlast last (by simp [List.getLast?_cons])
      have hrest := ih (by simp) (by simpa using hend)
      have hnone := aliasEnding?_append_writtenAlias hend init label
      rw [← List.singleton_append, ← List.append_assoc] at hnone
      rw [List.cons_append, splitAlias?, hnone, hrest]
      rfl

def qualified (expr label base : String) : String :=
  if isBareName expr.toList then tableOfAlias label base ++ "." ++ expr else expr

theorem writtenAlias_last (label : List Char) :
    (writtenAlias label).getLast? = some '\'' := by
  simp [writtenAlias, List.getLast?_cons]

/-- An expression is read back from the entry that it was written into with a label. -/
theorem ofText_selectExpression_of_trimmed {expr : String} (h : Trimmed expr.toList)
    (label base : String) :
    SelectEntry.ofText (Naming.selectExpression expr label) base =
      ⟨qualified expr label base, .ofAlias label⟩ := by
  have hquote : ∀ c ∈ (writtenAlias label.toList).getLast?, isSpace c = false := by
    intro c hc
    rw [writtenAlias_last] at hc
    obtain rfl : '\'' = c := Option.some.inj hc
    decide +kernel
  simp only [SelectEntry.ofText, toList_selectExpression, h.trimSpace_append hquote,
    splitAlias?_writtenAlias h.ne_nil h.last, String.ofList_toList, qualified]

theorem ofText_selectExpression {column : String} (hname : isBareName column.toList = true)
    {label : String} (hlabel : label ≠ "") (base : String) :
    SelectEntry.ofText (Naming.selectExpression column label) base =
      ⟨tableOfAlias label base ++ "." ++ column, .named label⟩ := by
  rw [ofText_selectExpression_of_trimmed (trimmed_of_isBareName hname), qualified, if_pos hname,
    ColumnLabel.ofAlias_of_ne_empty hlabel]

end RelationalModels.Sql
