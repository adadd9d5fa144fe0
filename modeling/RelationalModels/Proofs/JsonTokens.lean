import Mathlib.Data.List.TakeWhile
import RelationalModels.Proofs.JsonGrammar

/-!
# Tokens of JSON

What is read from the beginning of a text that is a gap, a number, a word or a string. Each lemma
comes in two directions: what follows the grammar is read, as long as nothing follows that could
still belong to it, and what is read follows the grammar.
-/

namespace RelationalModels.Json

open RelationalModels.Decimal RelationalModels.Text

/--
What can come of reading a text: something that its beginning writes, the error of what is refused
behind a beginning that reaches it, or an error of which no more is said.
-/
inductive Outcome {α : Type} (writes : α → List Char → Prop) (reaches : Nat → List Char → Prop)
    (cs : List Char) : Except ReadError (α × List Char) → Prop
  | malformed : Outcome writes reaches cs (.error .malformed)
  | refused {left : Nat} {e : ReadError} {before rest : List Char}
      (hreaches : reaches left before) (hrefused : Refused left e rest)
      (hcs : cs = before ++ rest) : Outcome writes reaches cs (.error e)
  | read {a : α} {text rest : List Char} (hwrites : writes a text) (hcs : cs = text ++ rest) :
      Outcome writes reaches cs (.ok (a, rest))

/-! ### Gaps -/

theorem noneFirst_cons {p : Char → Bool} {c : Char} (hc : p c = false) (cs : List Char) :
    NoneFirst p (c :: cs) := by
  intro d hd
  obtain rfl := Option.some.inj hd
  exact hc

theorem skipBlank_eq (cs : List Char) : skipBlank cs = cs.dropWhile isGap := rfl

theorem dropWhile_append_of_noneFirst {p : Char → Bool} {front rest : List Char}
    (hfront : ∀ c ∈ front, p c = true) (hrest : NoneFirst p rest) :
    (front ++ rest).dropWhile p = rest := by
  rw [List.dropWhile_append_of_pos hfront]
  cases rest with
  | nil => rfl
  | cons c rest => rw [List.dropWhile_cons_of_neg (Bool.eq_false_iff.mp (hrest c rfl))]

theorem takeWhile_append_of_noneFirst {p : Char → Bool} {front rest : List Char}
    (hfront : ∀ c ∈ front, p c = true) (hrest : NoneFirst p rest) :
    (front ++ rest).takeWhile p = front := by
  rw [List.takeWhile_append_of_pos hfront]
  cases rest with
  | nil => rw [List.takeWhile_nil, List.append_nil]
  | cons c rest =>
    rw [List.takeWhile_cons_of_neg (Bool.eq_false_iff.mp (hrest c rfl)), List.append_nil]

theorem skipBlank_append {gap cs : List Char} (hgap : ∀ c ∈ gap, isGap c = true)
    (hcs : NoneFirst isGap cs) : skipBlank (gap ++ cs) = cs :=
  dropWhile_append_of_noneFirst hgap hcs

theorem exists_gap_skipBlank (cs : List Char) :
    ∃ gap, cs = gap ++ skipBlank cs ∧ ∀ c ∈ gap, isGap c = true := by
  refine ⟨cs.takeWhile isGap, ?_, fun c hc => List.mem_takeWhile_imp hc⟩
  rw [skipBlank_eq, List.takeWhile_append_dropWhile]

/-! ### Digits -/

theorem spanDigits_append {ds rest : List Char} (hds : ∀ c ∈ ds, isAsciiDigit c = true)
    (hrest : NoneFirst isAsciiDigit rest) : spanDigits (ds ++ rest) = (ds, rest) := by
  rw [spanDigits, takeWhile_append_of_noneFirst hds hrest, dropWhile_append_of_noneFirst hds hrest]

theorem spanDigits_spec {cs ds rest : List Char} (h : spanDigits cs = (ds, rest)) :
    cs = ds ++ rest ∧ (∀ c ∈ ds, isAsciiDigit c = true) ∧ NoneFirst isAsciiDigit rest := by
  obtain ⟨rfl, rfl⟩ := Prod.mk.inj h
  refine ⟨List.takeWhile_append_dropWhile.symm, fun c hc => List.mem_takeWhile_imp hc, ?_⟩
  intro c hc
  have hnot := List.head?_dropWhile_not isAsciiDigit cs
  rw [hc] at hnot
  simpa using hnot

theorem Digits.exists_cons {ds : List Char} (h : Digits ds) :
    ∃ d ds', ds = d :: ds' ∧ isAsciiDigit d = true := by
  obtain ⟨hne, hdigits⟩ := h
  obtain ⟨d, ds', rfl⟩ := List.exists_cons_of_ne_nil hne
  exact ⟨d, ds', rfl, hdigits d (List.mem_cons_self ..)⟩

theorem spanDigits_ne_nil {ds : List Char} (h : Digits ds) (rest : List Char) :
    (spanDigits (ds ++ rest)).1 ≠ [] := by
  obtain ⟨d, ds, rfl, hd⟩ := h.exists_cons
  simp [spanDigits, hd]

theorem head_ne_of_digits {ds : List Char} (h : Digits ds) (rest : List Char) :
    ∀ c ∈ (ds ++ rest).head?, c ≠ '-' ∧ c ≠ '+' := by
  obtain ⟨d, ds, rfl, hd⟩ := h.exists_cons
  intro c hc
  obtain rfl : d = c := Option.some.inj hc
  constructor
  · rintro rfl
    exact absurd hd (by decide)
  · rintro rfl
    exact absurd hd (by decide)

/-! ### Parts of numbers -/

theorem readWhole?_append {ws rest : List Char} (hws : WholeDigits ws)
    (hrest : NoneFirst isAsciiDigit rest) : readWhole? (ws ++ rest) = some (ws, rest) := by
  rcases hws with rfl | ⟨hds, hzero⟩
  · rfl
  · have hspan := spanDigits_append hds.2 hrest
    obtain ⟨d, ds, rfl, -⟩ := hds.exists_cons
    rw [readWhole?.eq_def]
    split
    · next heq => exact absurd (List.cons.inj heq).1 (hzero d rfl)
    · simp only [hspan]

theorem readWhole?_spec {cs ws rest : List Char} (h : readWhole? cs = some (ws, rest)) :
    cs = ws ++ rest ∧ WholeDigits ws ∧ (ws = ['0'] ∨ NoneFirst isAsciiDigit rest) := by
  rw [readWhole?.eq_def] at h
  split at h
  · obtain ⟨rfl, rfl⟩ := Prod.mk.inj (Option.some.inj h)
    exact ⟨rfl, Or.inl rfl, Or.inl rfl⟩
  · next hzero =>
    split at h
    · cases h
    · next ds after hne hspan =>
      obtain ⟨rfl, rfl⟩ := Prod.mk.inj (Option.some.inj h)
      obtain ⟨rfl, hdigits, hrest⟩ := spanDigits_spec hspan
      refine ⟨rfl, Or.inr ⟨⟨hne, hdigits⟩, ?_⟩, Or.inr hrest⟩
      rintro c hc rfl
      obtain ⟨ds, rfl⟩ := List.head?_eq_some_iff.mp hc
      exact hzero _ rfl

theorem readFraction_append {fraction : Option (List Char)} {ftext rest : List Char}
    (hfraction : Fraction fraction ftext) (hrest : NoneFirst isAsciiDigit rest)
    (hpoint : NoneFirst (· == '.') rest) : readFraction (ftext ++ rest) = (fraction, rest) := by
  cases hfraction with
  | none =>
    rw [List.nil_append, readFraction.eq_def]
    split
    · exact absurd (hpoint '.' rfl) (by decide)
    · rfl
  | some hds =>
    have hspan := spanDigits_append hds.2 hrest
    obtain ⟨d, ds, rfl, -⟩ := hds.exists_cons
    rw [List.cons_append, readFraction]
    simp only [hspan]

theorem readFraction_spec {fraction : Option (List Char)} {cs rest : List Char}
    (h : readFraction cs = (fraction, rest)) :
    ∃ ftext, cs = ftext ++ rest ∧ Fraction fraction ftext ∧
      (fraction = none → ∀ ds text after, Fraction (some ds) text → rest ≠ text ++ after) := by
  rw [readFraction.eq_def] at h
  split at h
  · next cs =>
    split at h
    · next after hspan =>
      obtain ⟨rfl, rfl⟩ := Prod.mk.inj h
      -- a point without a digit behind it is not taken
      refine ⟨[], rfl, .none, ?_⟩
      rintro - ds _ after (- | hds) heq
      obtain rfl := (List.cons.inj heq).2
      exact spanDigits_ne_nil hds after (congrArg Prod.fst hspan)
    · next ds after hne hspan =>
      obtain ⟨rfl, rfl⟩ := Prod.mk.inj h
      obtain ⟨rfl, hdigits, -⟩ := spanDigits_spec hspan
      exact ⟨'.' :: ds, rfl, .some ⟨hne, hdigits⟩, nofun⟩
  · next hpoint =>
    obtain ⟨rfl, rfl⟩ := Prod.mk.inj h
    refine ⟨[], rfl, .none, ?_⟩
    rintro - ds _ after (- | hds) heq
    exact hpoint _ heq

theorem readExponent_append {exponent : Option Int} {etext rest : List Char}
    (hexponent : Exponent exponent etext) (hrest : NoneFirst isAsciiDigit rest)
    (hletter : NoneFirst isPowerSign rest) : readExponent (etext ++ rest) = (exponent, rest) := by
  cases hexponent with
  | none =>
    cases rest with
    | nil => rfl
    | cons c rest =>
      have hc : ¬ (c = 'e' ∨ c = 'E') := by simpa [isPowerSign] using hletter c rfl
      rw [List.nil_append, readExponent, if_neg hc]
  | some he hsign hds =>
    have hsplit := splitSign_append hsign (head_ne_of_digits hds rest)
    have hspan := spanDigits_append hds.2 hrest
    obtain ⟨d, ds, rfl, -⟩ := hds.exists_cons
    rw [List.cons_append, List.append_assoc, readExponent, if_pos he]
    simp only [hsplit, hspan]
    rfl

theorem readExponent_spec {exponent : Option Int} {cs rest : List Char}
    (h : readExponent cs = (exponent, rest)) :
    ∃ etext, cs = etext ++ rest ∧ Exponent exponent etext ∧
      (exponent = none → ∀ e text after, Exponent (some e) text → rest ≠ text ++ after) := by
  rw [readExponent.eq_def] at h
  split at h
  · obtain ⟨rfl, rfl⟩ := Prod.mk.inj h
    refine ⟨[], rfl, .none, ?_⟩
    rintro - e _ after (- | ⟨he, hsign, hds⟩)
    exact nofun
  · next letter cs =>
    split at h
    · next he =>
      split at h
      next negative body hsplit =>
      obtain ⟨sign, hsign, hbody⟩ := sign_splitSign cs
      rw [hsplit] at hsign hbody
      split at h
      · next after hspan =>
        -- a letter is not taken without a digit behind it and its sign
        obtain ⟨rfl, rfl⟩ := Prod.mk.inj h
        refine ⟨[], rfl, .none, ?_⟩
        rintro - e _ after (- | ⟨he, hsign, hds⟩) heq
        rw [List.cons_append, List.append_assoc] at heq
        obtain rfl := (List.cons.inj heq).2
        rw [splitSign_append hsign (head_ne_of_digits hds after)] at hsplit
        obtain ⟨-, rfl⟩ := Prod.mk.inj hsplit
        exact spanDigits_ne_nil hds after (congrArg Prod.fst hspan)
      · next ds after hne hspan =>
        obtain ⟨rfl, rfl⟩ := Prod.mk.inj h
        obtain ⟨rfl, hdigits, -⟩ := spanDigits_spec hspan
        refine ⟨letter :: (sign ++ ds), ?_, .some he hsign ⟨hne, hdigits⟩, nofun⟩
        rw [hbody, List.cons_append, List.append_assoc]
    · next he =>
      obtain ⟨rfl, rfl⟩ := Prod.mk.inj h
      refine ⟨[], rfl, .none, ?_⟩
      rintro - e _ after (- | ⟨he', hsign, hds⟩) heq
      obtain ⟨rfl, -⟩ := List.cons.inj heq
      exact he he'

/-! ### Numbers -/

def endChars : List Char := [' ', '\t', '\n', '\r', ',', ']', '}']

def Ends (cs : List Char) : Prop := ∀ c ∈ cs.head?, c ∈ endChars

theorem Ends.noneFirst {p : Char → Bool} {cs : List Char} (h : Ends cs)
    (hp : endChars.any p = false) : NoneFirst p cs :=
  fun c hc => Bool.eq_false_iff.mpr (List.any_eq_false.mp hp c (h c hc))

theorem Fraction.noneFirst {p : Char → Bool} {fraction : Option (List Char)}
    {ftext rest : List Char} (h : Fraction fraction ftext) (hp : p '.' = false)
    (hrest : NoneFirst p rest) :
    NoneFirst p (ftext ++ rest) := by
  cases h with
  | none => exact hrest
  | some hdigits => exact noneFirst_cons hp _

theorem Exponent.noneFirst {p : Char → Bool} {exponent : Option Int} {etext rest : List Char}
    (h : Exponent exponent etext) (hp : p 'e' = false ∧ p 'E' = false) (hrest : NoneFirst p rest) :
    NoneFirst p (etext ++ rest) := by
  cases h with
  | none => exact hrest
  | some he hsign hdigits =>
    rcases he with rfl | rfl
    · exact noneFirst_cons hp.1 _
    · exact noneFirst_cons hp.2 _

theorem readFraction_of_integerEnds {rest : List Char} (h : IntegerEnds rest) :
    readFraction rest = (none, rest) := by
  cases hread : readFraction rest with
  | mk fraction after =>
    obtain ⟨ftext, rfl, hfraction, -⟩ := readFraction_spec hread
    cases hfraction with
    | none => rfl
    | some hdigits => exact absurd rfl (h.2.1 _ _ _ (.some hdigits))

theorem readExponent_of_integerEnds {rest : List Char} (h : IntegerEnds rest) :
    readExponent rest = (none, rest) := by
  cases hread : readExponent rest with
  | mk exponent after =>
    obtain ⟨etext, rfl, hexponent, -⟩ := readExponent_spec hread
    cases hexponent with
    | none => rfl
    | some he hsign hdigits => exact absurd rfl (h.2.2 _ _ _ (.some he hsign hdigits))

theorem Ends.integerEnds {rest : List Char} (h : Ends rest) : IntegerEnds rest := by
  refine ⟨h.noneFirst rfl, ?_, ?_⟩
  · rintro ds _ after (- | hdigits) rfl
    exact absurd (h '.' rfl) (by decide)
  · rintro e _ after (- | ⟨he, hsign, hdigits⟩) rfl
    rcases he with rfl | rfl
    · exact absurd (h 'e' rfl) (by decide)
    · exact absurd (h 'E' rfl) (by decide)

theorem readNumber_integer {negative : Bool} {ws rest : List Char} (hws : WholeDigits ws)
    (hrest : IntegerEnds rest) :
    readNumber negative (ws ++ rest) =
      if maxIntegerDigits < ws.length then .error (.oversizedInteger ws.length)
      else .ok (.int (signed negative (digitsValue ws)), rest) := by
  simp only [readNumber, readWhole?_append hws hrest.1, readFraction_of_integerEnds hrest,
    readExponent_of_integerEnds hrest, Option.isNone_none, Bool.and_self, if_true,
    Option.getD_none, List.append_nil]
  rfl

theorem isNone_and_isNone {fraction : Option (List Char)} {exponent : Option Int}
    (h : fraction.isSome = true ∨ exponent.isSome = true) :
    (fraction.isNone && exponent.isNone) = false := by
  rcases h with h | h <;> simp [← Option.not_isSome, h]

theorem readNumber_float {negative : Bool} {ws ftext etext rest : List Char}
    {fraction : Option (List Char)} {exponent : Option Int} (hws : WholeDigits ws)
    (hfraction : Fraction fraction ftext) (hexponent : Exponent exponent etext)
    (hsome : fraction.isSome = true ∨ exponent.isSome = true) (hrest : Ends rest) :
    readNumber negative (ws ++ (ftext ++ (etext ++ rest))) =
      .ok (.float (Binary64.ofDecimal negative (digitsValue (ws ++ fraction.getD []))
        (exponent.getD 0 - (fraction.getD []).length)), rest) := by
  have hdigit : NoneFirst isAsciiDigit (etext ++ rest) :=
    hexponent.noneFirst ⟨rfl, rfl⟩ (hrest.noneFirst rfl)
  have hpoint : NoneFirst (· == '.') (etext ++ rest) :=
    hexponent.noneFirst ⟨rfl, rfl⟩ (hrest.noneFirst rfl)
  have hwhole := readWhole?_append hws (hfraction.noneFirst rfl hdigit)
  have hread := readFraction_append hfraction hdigit hpoint
  have hpower := readExponent_append hexponent (hrest.noneFirst rfl) (hrest.noneFirst rfl)
  simp only [readNumber, hwhole, hread, hpower, isNone_and_isNone hsome]
  rfl

theorem readNumber_outcome {negative : Bool} {sign : List Char} (hsign : Minus negative sign)
    (levels : Nat) (cs : List Char) :
    Outcome (Writes levels) (Reaches levels) (sign ++ cs) (readNumber negative cs) := by
  cases hwhole : readWhole? cs with
  | none =>
    simp only [readNumber, hwhole]
    exact .malformed
  | some whole =>
    obtain ⟨ws, afterWhole⟩ := whole
    rcases hfraction : readFraction afterWhole with ⟨fraction, afterFraction⟩
    rcases hexponent : readExponent afterFraction with ⟨exponent, rest⟩
    obtain ⟨rfl, hws, hends⟩ := readWhole?_spec hwhole
    obtain ⟨ftext, rfl, hftext, hnofraction⟩ := readFraction_spec hfraction
    obtain ⟨etext, rfl, hetext, hnoexponent⟩ := readExponent_spec hexponent
    simp only [readNumber, hwhole, hfraction, hexponent]
    by_cases hsome : fraction.isSome = true ∨ exponent.isSome = true
    · rw [isNone_and_isNone hsome]
      exact .read (.number (.float hsign hws hftext hetext hsome))
        (by simp only [List.append_assoc])
    · -- what is left is an integer, which is refused when it has too many digits
      obtain ⟨rfl, rfl⟩ : fraction = none ∧ exponent = none := by simpa using hsome
      cases hftext
      cases hetext
      simp only [List.nil_append, Option.isNone_none, Bool.and_self, if_true, Option.getD_none,
        List.append_nil]
      by_cases hlimit : maxIntegerDigits < ws.length
      · have hdigit : NoneFirst isAsciiDigit rest := by
          rcases hends with rfl | hdigit
          · exact absurd hlimit (by decide)
          · exact hdigit
        rw [if_pos hlimit]
        exact .refused .here (.integer ⟨negative, sign, ws, rest, hsign, hws,
          ⟨hdigit, hnofraction rfl, hnoexponent rfl⟩, rfl, rfl, hlimit⟩) rfl
      · rw [if_neg hlimit]
        exact .read (.number (.integer hsign hws (Nat.le_of_not_lt hlimit)))
          (List.append_assoc ..).symm

/-! ### Words -/

theorem afterWord?_eq_some_iff {word cs rest : List Char} :
    afterWord? word cs = some rest ↔ cs = word ++ rest := by
  induction word generalizing cs with
  | nil => simp [afterWord?]
  | cons w word ih =>
    cases cs with
    | nil => simp [afterWord?]
    | cons c cs => by_cases h : w = c <;> simp [afterWord?, h, ih, eq_comm]

def beginsNumber : List Char → Bool
  | [] => false
  | c :: cs => isAsciiDigit c || (c == '-' && cs.head?.any isAsciiDigit)

theorem beginsNumber_append {negative : Bool} {sign : List Char} {d : Char}
    (hsign : Minus negative sign) (hd : isAsciiDigit d = true) (cs : List Char) :
    beginsNumber (sign ++ d :: cs) = true := by
  cases hsign <;> simp [beginsNumber, hd]

theorem beginsNumber_word {word : List Char} {v : Value} (hword : (word, v) ∈ words)
    (rest : List Char) : beginsNumber (word ++ rest) = false := by
  have hall : ∀ w ∈ words, beginsNumber (w.1 ++ rest) = false := by
    simp only [words, List.forall_mem_cons]
    exact ⟨rfl, rfl, rfl, rfl, rfl, rfl, nofun⟩
  exact hall _ hword

theorem readAtom_of_digit {negative : Bool} {sign cs : List Char} {d : Char}
    (hsign : Minus negative sign) (hd : isAsciiDigit d = true) :
    readAtom (sign ++ d :: cs) = readNumber negative (d :: cs) := by
  -- no word begins like a number, so that the words can be passed over
  have hwords : (words.findSome? fun w =>
      (afterWord? w.1 (sign ++ d :: cs)).map fun rest => (w.2, rest)) = none := by
    rw [List.findSome?_eq_none_iff]
    intro w hw
    rw [Option.map_eq_none_iff, Option.eq_none_iff_forall_ne_some]
    intro rest hrest
    have hnumber := beginsNumber_append hsign hd cs
    rw [afterWord?_eq_some_iff.mp hrest, beginsNumber_word hw] at hnumber
    cases hnumber
  rw [readAtom.eq_def, hwords]
  cases hsign with
  | none =>
    have hminus : d ≠ '-' := by
      rintro rfl
      exact absurd hd (by decide)
    simp only [List.nil_append]
    split
    · next heq => exact absurd (List.cons.inj heq).1 hminus
    · rfl
  | minus => rfl

theorem WholeDigits.exists_cons {ws : List Char} (h : WholeDigits ws) :
    ∃ d ds, ws = d :: ds ∧ isAsciiDigit d = true := by
  rcases h with rfl | ⟨hdigits, -⟩
  · exact ⟨'0', [], rfl, by decide⟩
  · exact hdigits.exists_cons

theorem readAtom_whole {negative : Bool} {sign ws : List Char} (hsign : Minus negative sign)
    (hws : WholeDigits ws) (rest : List Char) :
    readAtom (sign ++ (ws ++ rest)) = readNumber negative (ws ++ rest) := by
  obtain ⟨d, ds, rfl, hd⟩ := hws.exists_cons
  exact readAtom_of_digit hsign hd

theorem readAtom_number {v : Value} {cs rest : List Char} (h : WritesNumber v cs)
    (hrest : Ends rest) : readAtom (cs ++ rest) = .ok (v, rest) := by
  cases h with
  | integer hsign hwhole hlimit =>
    rw [List.append_assoc, readAtom_whole hsign hwhole,
      readNumber_integer hwhole hrest.integerEnds, if_neg (Nat.not_lt.mpr hlimit)]
  | float hsign hwhole hfraction hexponent hsome =>
    simp only [List.append_assoc]
    rw [readAtom_whole hsign hwhole, readNumber_float hwhole hfraction hexponent hsome hrest]

theorem readAtom_oversized {n : Nat} {cs : List Char} (h : OversizedInteger n cs) :
    readAtom cs = .error (.oversizedInteger n) := by
  obtain ⟨negative, sign, ws, rest, hsign, hwhole, hrest, rfl, rfl, hlimit⟩ := h
  rw [readAtom_whole hsign hwhole, readNumber_integer hwhole hrest, if_pos hlimit]

theorem readAtom_outcome (levels : Nat) (cs : List Char) :
    Outcome (Writes levels) (Reaches levels) cs (readAtom cs) := by
  rw [readAtom.eq_def]
  cases hword : words.findSome? fun w => (afterWord? w.1 cs).map fun rest => (w.2, rest) with
  | some r =>
    obtain ⟨⟨word, v⟩, hmem, hafter⟩ := List.exists_of_findSome?_eq_some hword
    obtain ⟨rest, hrest, rfl⟩ := Option.map_eq_some_iff.mp hafter
    exact .read (.word hmem) (afterWord?_eq_some_iff.mp hrest)
  | none =>
    simp only
    split
    · next body => exact readNumber_outcome .minus levels body
    · exact readNumber_outcome .none levels cs

/-! ### Strings -/

/-- A string as it is written, as far as quotes and backslashes go. -/
inductive Unquoted : List Char → Prop
  | nil : Unquoted []
  | escape {c : Char} {cs : List Char} (hrest : Unquoted cs) : Unquoted ('\\' :: c :: cs)
  | plain {c : Char} {cs : List Char} (hquote : c ≠ '"') (hbackslash : c ≠ '\\')
      (hrest : Unquoted cs) : Unquoted (c :: cs)

theorem splitBody?_append {body : List Char} (h : Unquoted body) (rest : List Char) :
    splitBody? (body ++ '"' :: rest) = some (body, rest) := by
  induction h with
  | nil => rfl
  | escape _ ih => simp [splitBody?, ih]
  | plain _ hbackslash _ ih => simp [splitBody?, hbackslash, ih]

theorem splitBody?_spec {cs : List Char} : ∀ {body rest}, splitBody? cs = some (body, rest) →
    cs = body ++ '"' :: rest ∧ Unquoted body := by
  fun_induction splitBody? cs with
  | case1 => exact nofun
  | case2 => exact nofun
  | case3 c cs ih =>
    intro body rest h
    obtain ⟨⟨inner, after⟩, hinner, heq⟩ := Option.map_eq_some_iff.mp h
    obtain ⟨rfl, rfl⟩ := Prod.mk.inj heq
    obtain ⟨rfl, hunquoted⟩ := ih hinner
    exact ⟨rfl, .escape hunquoted⟩
  | case4 cs =>
    intro body rest h
    obtain ⟨rfl, rfl⟩ := Prod.mk.inj (Option.some.inj h)
    exact ⟨rfl, .nil⟩
  | case5 c cs hlone hescape hquote ih =>
    intro body rest h
    have hbackslash : c ≠ '\\' := by
      rintro rfl
      cases cs with
      | nil => exact hlone rfl rfl
      | cons d cs => exact hescape d cs rfl rfl
    obtain ⟨⟨inner, after⟩, hinner, heq⟩ := Option.map_eq_some_iff.mp h
    obtain ⟨rfl, rfl⟩ := Prod.mk.inj heq
    obtain ⟨rfl, hunquoted⟩ := ih hinner
    exact ⟨rfl, .plain hquote hbackslash hunquoted⟩

theorem Unquoted.after_escape {c : Char} {cs : List Char} (h : Unquoted ('\\' :: c :: cs)) :
    Unquoted cs := by
  cases h with
  | escape hrest => exact hrest
  | plain _ hbackslash _ => exact absurd rfl hbackslash

theorem Unquoted.after_plain {c : Char} {cs : List Char} (h : Unquoted (c :: cs)) (hc : c ≠ '\\') :
    c ≠ '"' ∧ Unquoted cs := by
  cases h with
  | escape _ => exact absurd rfl hc
  | plain hquote _ hrest => exact ⟨hquote, hrest⟩

theorem plain_of_hexDigit? {c : Char} {n : Nat} (h : hexDigit? c = some n) :
    c ≠ '"' ∧ c ≠ '\\' := by
  constructor
  · rintro rfl
    cases h
  · rintro rfl
    cases h

theorem plain_of_hexUnit? {a b c d : Char} {n : Nat} (h : hexUnit? a b c d = some n) :
    (a ≠ '"' ∧ a ≠ '\\') ∧ (b ≠ '"' ∧ b ≠ '\\') ∧ (c ≠ '"' ∧ c ≠ '\\') ∧ d ≠ '"' ∧ d ≠ '\\' := by
  rw [hexUnit?] at h
  split at h
  · next ha hb hc hd =>
    exact ⟨plain_of_hexDigit? ha, plain_of_hexDigit? hb, plain_of_hexDigit? hc,
      plain_of_hexDigit? hd⟩
  · cases h

theorem units?_append {n : Nat} {unit : List Char} (h : WritesUnit n unit) (cs : List Char) :
    units? (unit ++ cs) = (units? cs).map (n :: ·) := by
  cases h with
  | plain hquote hbackslash hcontrol => simp [units?, hbackslash, Nat.not_lt.mpr hcontrol]
  | @letter c n hletter =>
    have hu : c ≠ 'u' := by
      rintro rfl
      cases hletter
    rw [List.cons_append, List.cons_append, List.nil_append, units?]
    · rw [hletter]
      cases units? cs <;> rfl
    · intro _ _ _ _ _ hc
      exact absurd hc hu
  | number hnumber =>
    simp only [List.cons_append, List.nil_append, units?, hnumber]
    cases units? cs <;> rfl

theorem units?_eq_some_of_writes {ns : List Nat} {cs : List Char} (h : WritesUnits ns cs) :
    units? cs = some ns := by
  induction h with
  | nil => rfl
  | cons hunit _ ih => rw [units?_append hunit, ih, Option.map_some]

theorem writes_of_units?_eq_some {cs : List Char} (h : Unquoted cs) : ∀ {ns}, units? cs = some ns →
    WritesUnits ns cs := by
  fun_induction units? cs with
  | case1 =>
    rintro ns ⟨⟩
    exact .nil
  | case2 a b c d cs n ns hns hnumber ih =>
    rintro _ ⟨⟩
    obtain ⟨ha, hb, hc, hd⟩ := plain_of_hexUnit? hnumber
    have hrest := h.after_escape.after_plain ha.2
    have hrest := hrest.2.after_plain hb.2
    have hrest := hrest.2.after_plain hc.2
    have hrest := hrest.2.after_plain hd.2
    exact .cons (.number hnumber) (ih hrest.2 hns)
  | case3 => exact nofun
  | case4 c cs hu n ns hns hletter ih =>
    rintro _ ⟨⟩
    exact .cons (.letter hletter) (ih h.after_escape hns)
  | case5 => exact nofun
  | case6 => exact nofun
  | case7 c cs _ _ hc ih =>
    intro ns hns
    obtain ⟨hbackslash, hcontrol⟩ := not_or.mp hc
    obtain ⟨hquote, hrest⟩ := h.after_plain hbackslash
    obtain ⟨ns, hrest', rfl⟩ := Option.map_eq_some_iff.mp hns
    exact .cons (.plain hquote hbackslash (Nat.le_of_not_lt hcontrol)) (ih hrest hrest')

theorem WritesUnit.unquoted {n : Nat} {unit cs : List Char} (h : WritesUnit n unit)
    (hcs : Unquoted cs) : Unquoted (unit ++ cs) := by
  cases h with
  | plain hquote hbackslash _ => exact .plain hquote hbackslash hcs
  | letter _ => exact .escape hcs
  | number hnumber =>
    obtain ⟨ha, hb, hc, hd⟩ := plain_of_hexUnit? hnumber
    exact .escape (.plain ha.1 ha.2 (.plain hb.1 hb.2 (.plain hc.1 hc.2 (.plain hd.1 hd.2 hcs))))

theorem WritesUnits.unquoted {ns : List Nat} {cs : List Char} (h : WritesUnits ns cs) :
    Unquoted cs := by
  induction h with
  | nil => exact .nil
  | cons hunit _ ih => exact hunit.unquoted ih

theorem readString?_eq_some_iff {s : String} {cs rest : List Char} :
    readString? cs = some (s, rest) ↔
      ∃ quoted, WritesString s quoted ∧ '"' :: cs = quoted ++ rest := by
  rw [readString?]
  constructor
  · intro h
    cases hsplit : splitBody? cs with
    | none => simp [hsplit] at h
    | some parts =>
      obtain ⟨body, after⟩ := parts
      simp only [hsplit] at h
      obtain ⟨ns, hns, heq⟩ := Option.map_eq_some_iff.mp h
      obtain ⟨rfl, rfl⟩ := Prod.mk.inj heq
      obtain ⟨rfl, hbody⟩ := splitBody?_spec hsplit
      refine ⟨_, .quoted (writes_of_units?_eq_some hbody hns), ?_⟩
      rw [List.cons_append, List.append_assoc]
      rfl
  · rintro ⟨_, ⟨hbody⟩, hcs⟩
    rw [List.cons_append, List.append_assoc] at hcs
    obtain rfl := (List.cons.inj hcs).2
    rw [List.singleton_append, splitBody?_append hbody.unquoted]
    simp only [units?_eq_some_of_writes hbody, Option.map_some]

end RelationalModels.Json
