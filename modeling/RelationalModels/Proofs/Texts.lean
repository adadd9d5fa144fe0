import Mathlib.Data.List.TakeWhile
import RelationalModels.Text.Blank
import RelationalModels.Text.Cut

/-!
# Characters and parts of texts

A class of characters given by a table is a finite set of code points. A text that is trimmed or cut
in two is put together again from its parts, and the parts are known by the characters in them.
-/

namespace RelationalModels.Text

def Ranges.codes (ranges : Ranges) : List Nat :=
  ranges.flatMap fun r => List.range' r.1 (r.2 + 1 - r.1)

theorem Ranges.mem_iff (ranges : Ranges) (n : Nat) : ranges.mem n = true ↔ n ∈ ranges.codes := by
  simp only [Ranges.mem, Ranges.codes, List.any_eq_true, List.mem_flatMap, Bool.and_eq_true,
    decide_eq_true_eq, List.mem_range'_1]
  constructor
  · rintro ⟨r, hr, hlo, hhi⟩
    exact ⟨r, hr, hlo, by omega⟩
  · rintro ⟨r, hr, hlo, hhi⟩
    exact ⟨r, hr, hlo, by omega⟩

/-! ### Trimming -/

section Trimming

variable {p : Char → Bool} {cs body : List Char}

theorem trimBy_eq_self (hhead : ∀ c ∈ cs.head?, p c = false)
    (hlast : ∀ c ∈ cs.getLast?, p c = false) : trimBy p cs = cs := by
  have hfront : cs.dropWhile p = cs := by
    cases cs with
    | nil => rfl
    | cons c cs => simp [hhead c rfl]
  have hback : cs.reverse.dropWhile p = cs.reverse := by
    cases hr : cs.reverse with
    | nil => rfl
    | cons c rest =>
      have hc : p c = false := hlast c (by simp [List.getLast?_eq_head?_reverse, hr])
      simp [hc]
  simp [trimBy, hfront, hback]

theorem trimBy_head : ∀ c ∈ (trimBy p cs).head?, p c = false := by
  intro c hc
  have hprefix : trimBy p cs <+: cs.dropWhile p := by
    rw [trimBy, ← List.reverse_suffix, List.reverse_reverse]
    exact List.dropWhile_suffix p
  obtain ⟨after, hafter⟩ := hprefix
  have hfirst : (cs.dropWhile p).head? = some c := by
    rw [← hafter, List.head?_append, hc, Option.some_or]
  have hnot := List.head?_dropWhile_not p cs
  rw [hfirst] at hnot
  simpa using hnot

def Encloses (p : Char → Bool) (body cs : List Char) : Prop :=
  ∃ before after, cs = before ++ body ++ after ∧ (∀ c ∈ before, p c = true) ∧
    ∀ c ∈ after, p c = true

theorem encloses_trimBy (p : Char → Bool) (cs : List Char) : Encloses p (trimBy p cs) cs := by
  refine ⟨cs.takeWhile p, ((cs.dropWhile p).reverse.takeWhile p).reverse, ?_, ?_, ?_⟩
  · have hback : trimBy p cs ++ ((cs.dropWhile p).reverse.takeWhile p).reverse =
        cs.dropWhile p := by
      rw [trimBy, ← List.reverse_append, List.takeWhile_append_dropWhile, List.reverse_reverse]
    rw [List.append_assoc, hback, List.takeWhile_append_dropWhile]
  · intro c hc
    exact List.mem_takeWhile_imp hc
  · intro c hc
    exact List.mem_takeWhile_imp (List.mem_reverse.mp hc)

theorem dropWhile_of_forall_not (h : ∀ c ∈ cs, p c = false) : cs.dropWhile p = cs := by
  cases cs with
  | nil => rfl
  | cons c cs => simp [h c (List.mem_cons_self ..)]

/-- A body without characters of the class is what trimming leaves of a text that encloses it. -/
theorem trimBy_eq_iff (hbody : ∀ c ∈ body, p c = false) :
    trimBy p cs = body ↔ Encloses p body cs := by
  constructor
  · rintro rfl
    exact encloses_trimBy p cs
  · rintro ⟨before, after, rfl, hbefore, hafter⟩
    have hback : (after.reverse ++ body.reverse).dropWhile p = body.reverse := by
      rw [List.dropWhile_append_of_pos fun c hc => hafter c (List.mem_reverse.mp hc)]
      exact dropWhile_of_forall_not fun c hc => hbody c (List.mem_reverse.mp hc)
    rw [trimBy, List.append_assoc, List.dropWhile_append_of_pos hbefore]
    cases body with
    | nil =>
      rw [List.nil_append, List.dropWhile_eq_nil_iff.mpr hafter]
      rfl
    | cons c body =>
      have hc : p c = false := hbody c (List.mem_cons_self ..)
      have hfront : (c :: body ++ after).dropWhile p = c :: body ++ after := by
        simp [hc]
      rw [hfront, List.reverse_append, hback, List.reverse_reverse]

end Trimming

/-! ### Cutting -/

section Cutting

variable {p : Char → Bool} {c : Char} {cs before : List Char}

theorem cutAt_of_forall_not (h : ∀ c ∈ cs, p c = false) : cutAt p cs = (cs, none) := by
  have hnot : ∀ c ∈ cs, (!p c) = true := fun c hc => by rw [h c hc]; rfl
  have hdrop : (cs.dropWhile fun c => !p c) = [] := List.dropWhile_eq_nil_iff.mpr hnot
  have htake : (cs.takeWhile fun c => !p c) = cs := List.takeWhile_eq_self_iff.mpr hnot
  simp only [cutAt, hdrop, htake]

theorem cutAt_append (h : ∀ c ∈ before, p c = false) (hc : p c = true) (after : List Char) :
    cutAt p (before ++ c :: after) = (before, some after) := by
  have hnot : ∀ c ∈ before, (!p c) = true := fun c hc => by rw [h c hc]; rfl
  have hdrop : ((before ++ c :: after).dropWhile fun c => !p c) = c :: after := by
    rw [List.dropWhile_append_of_pos hnot]
    simp [hc]
  have htake : ((before ++ c :: after).takeWhile fun c => !p c) = before := by
    rw [List.takeWhile_append_of_pos hnot]
    simp [hc]
  simp only [cutAt, hdrop, htake]

theorem forall_not_or_exists_first (p : Char → Bool) (cs : List Char) :
    (∀ c ∈ cs, p c = false) ∨
      ∃ before c after, cs = before ++ c :: after ∧ p c = true ∧ ∀ d ∈ before, p d = false := by
  induction cs with
  | nil => exact Or.inl nofun
  | cons d cs ih =>
    by_cases hd : p d = true
    · exact Or.inr ⟨[], d, cs, rfl, hd, nofun⟩
    · have hd : p d = false := Bool.eq_false_iff.mpr hd
      rcases ih with hnone | ⟨before, c, after, rfl, hc, hbefore⟩
      · exact Or.inl (List.forall_mem_cons.mpr ⟨hd, hnone⟩)
      · exact Or.inr ⟨d :: before, c, after, rfl, hc, List.forall_mem_cons.mpr ⟨hd, hbefore⟩⟩

end Cutting

end RelationalModels.Text
