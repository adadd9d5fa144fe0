import Mathlib.Algebra.Group.Nat.Defs
import Mathlib.Data.List.Basic
import RelationalModels.Decimal.Numeral
import RelationalModels.Proofs.Texts

/-!
# What numerals write

The grammar of numbers in a text: digits of any script that single underscores may group, a sign, a
fraction and a power of ten, words for the infinities and for no number, and white space around all
of it. `ofText_eq_value_iff` and `floatOfText?_eq_some_iff` state that an integer and a floating
point number are read from exactly the texts that write them.
-/

namespace RelationalModels.Decimal

open RelationalModels.Text

/-! ### Digits -/

/-- Digits of any script and their values; an underscore may stand between two of them. -/
inductive Grouped : List Nat → List Char → Prop
  | last {c : Char} {n : Nat} (hc : decimalDigit? c = some n) : Grouped [n] [c]
  | next {c : Char} {n : Nat} {ns : List Nat} {cs : List Char} (hc : decimalDigit? c = some n)
      (hrest : Grouped ns cs) : Grouped (n :: ns) (c :: cs)
  | spaced {c : Char} {n : Nat} {ns : List Nat} {cs : List Char} (hc : decimalDigit? c = some n)
      (hrest : Grouped ns cs) : Grouped (n :: ns) (c :: '_' :: cs)

def MoreGrouped (ns : List Nat) (cs : List Char) : Prop :=
  (ns = [] ∧ cs = []) ∨ Grouped ns cs ∨ ∃ rest, cs = '_' :: rest ∧ Grouped ns rest

theorem decimalDigit?_underscore : decimalDigit? '_' = none := by
  decide

theorem grouped_cons_iff {ns : List Nat} {c : Char} {cs : List Char} :
    Grouped ns (c :: cs) ↔
      ∃ n rest, decimalDigit? c = some n ∧ MoreGrouped rest cs ∧ ns = n :: rest := by
  constructor
  · intro h
    cases h with
    | last hc => exact ⟨_, [], hc, Or.inl ⟨rfl, rfl⟩, rfl⟩
    | next hc hrest => exact ⟨_, _, hc, Or.inr (Or.inl hrest), rfl⟩
    | spaced hc hrest => exact ⟨_, _, hc, Or.inr (Or.inr ⟨_, rfl, hrest⟩), rfl⟩
  · rintro ⟨n, rest, hc, ⟨rfl, rfl⟩ | hrest | ⟨after, rfl, hrest⟩, rfl⟩
    · exact .last hc
    · exact .next hc hrest
    · exact .spaced hc hrest

theorem not_grouped_nil {ns : List Nat} : ¬ Grouped ns [] := nofun

theorem not_grouped_underscore {ns : List Nat} {cs : List Char} : ¬ Grouped ns ('_' :: cs) := by
  rw [grouped_cons_iff]
  rintro ⟨n, rest, hc, -⟩
  rw [decimalDigit?_underscore] at hc
  cases hc

theorem groupedDigits?_cons_eq_some_iff {ns : List Nat} {c : Char} {cs : List Char} :
    groupedDigits? decimalDigit? (c :: cs) = some ns ↔
      ∃ n rest, decimalDigit? c = some n ∧ moreDigits? decimalDigit? cs = some rest ∧
        ns = n :: rest := by
  rw [groupedDigits?]
  cases decimalDigit? c <;> cases moreDigits? decimalDigit? cs <;> simp [eq_comm]

theorem moreDigits?_underscore (cs : List Char) :
    moreDigits? decimalDigit? ('_' :: cs) = groupedDigits? decimalDigit? cs := by
  cases cs with
  | nil => decide
  | cons d cs => rfl

theorem moreDigits?_of_ne {c : Char} (hc : c ≠ '_') (cs : List Char) :
    moreDigits? decimalDigit? (c :: cs) = groupedDigits? decimalDigit? (c :: cs) := by
  cases cs with
  | nil =>
    rw [moreDigits?, groupedDigits?, moreDigits?]
    cases decimalDigit? c <;> rfl
  | cons d cs => rw [moreDigits?, if_neg hc, groupedDigits?]

theorem digits?_eq_some_iff (cs : List Char) :
    (∀ ns, groupedDigits? decimalDigit? cs = some ns ↔ Grouped ns cs) ∧
      ∀ ns, moreDigits? decimalDigit? cs = some ns ↔ MoreGrouped ns cs := by
  induction cs with
  | nil =>
    refine ⟨fun ns => iff_of_false nofun not_grouped_nil, fun ns => ?_⟩
    simp [moreDigits?, MoreGrouped, not_grouped_nil, eq_comm]
  | cons c cs ih =>
    obtain ⟨hgrouped, hmore⟩ := ih
    have hcons : ∀ ns, groupedDigits? decimalDigit? (c :: cs) = some ns ↔ Grouped ns (c :: cs) := by
      intro ns
      simp only [groupedDigits?_cons_eq_some_iff, grouped_cons_iff, hmore]
    refine ⟨hcons, fun ns => ?_⟩
    by_cases hc : c = '_'
    · subst hc
      rw [moreDigits?_underscore, hgrouped]
      simp [MoreGrouped, not_grouped_underscore]
    · rw [moreDigits?_of_ne hc, hcons]
      simp [MoreGrouped, hc]

theorem groupedDigits?_eq_some_iff {ns : List Nat} {cs : List Char} :
    groupedDigits? decimalDigit? cs = some ns ↔ Grouped ns cs :=
  (digits?_eq_some_iff cs).1 ns

/-! ### Signs -/

inductive Sign : Bool → List Char → Prop
  | none : Sign false []
  | plus : Sign false ['+']
  | minus : Sign true ['-']

theorem sign_splitSign (cs : List Char) :
    ∃ sign, Sign (splitSign cs).1 sign ∧ cs = sign ++ (splitSign cs).2 := by
  rw [splitSign.eq_def]
  split
  · exact ⟨['-'], .minus, rfl⟩
  · exact ⟨['+'], .plus, rfl⟩
  · exact ⟨[], .none, rfl⟩

theorem splitSign_append {negative : Bool} {sign body : List Char} (hsign : Sign negative sign)
    (hbody : ∀ c ∈ body.head?, c ≠ '-' ∧ c ≠ '+') :
    splitSign (sign ++ body) = (negative, body) := by
  cases hsign with
  | none =>
    rw [List.nil_append, splitSign.eq_def]
    split
    · exact absurd rfl (hbody _ rfl).1
    · exact absurd rfl (hbody _ rfl).2
    · rfl
  | plus => rfl
  | minus => rfl

/-! ### Characters of numerals -/

theorem decimalDigit?_blank_codes :
    ∀ n ∈ blankTable.codes, decimalDigit? (Char.ofNat n) = none := by
  decide +kernel

theorem isBlank_of_decimalDigit? {c : Char} {n : Nat} (h : decimalDigit? c = some n) :
    isBlank c = false := by
  -- white space is a finite table, none of whose code points is a digit
  by_contra hblank
  rw [Bool.not_eq_false, isBlank, Ranges.mem_iff] at hblank
  have hnone := decimalDigit?_blank_codes c.toNat hblank
  rw [Char.ofNat_toNat, h] at hnone
  cases hnone

theorem Grouped.mem {ns : List Nat} {cs : List Char} (h : Grouped ns cs) :
    ∀ c ∈ cs, (∃ n, decimalDigit? c = some n) ∨ c = '_' := by
  induction h with
  | last hc => exact List.forall_mem_singleton.mpr (Or.inl ⟨_, hc⟩)
  | next hc _ ih => exact List.forall_mem_cons.mpr ⟨Or.inl ⟨_, hc⟩, ih⟩
  | spaced hc _ ih =>
    exact List.forall_mem_cons.mpr ⟨Or.inl ⟨_, hc⟩, List.forall_mem_cons.mpr ⟨Or.inr rfl, ih⟩⟩

theorem Grouped.not_mem {ns : List Nat} {cs : List Char} (h : Grouped ns cs) {c : Char}
    (hdigit : decimalDigit? c = none) (hc : c ≠ '_') : c ∉ cs := by
  intro hmem
  rcases h.mem c hmem with ⟨n, hn⟩ | rfl
  · rw [hdigit] at hn
    cases hn
  · exact hc rfl

theorem Grouped.isBlank {ns : List Nat} {cs : List Char} (h : Grouped ns cs) :
    ∀ c ∈ cs, isBlank c = false := by
  intro c hc
  rcases h.mem c hc with ⟨n, hn⟩ | rfl
  · exact isBlank_of_decimalDigit? hn
  · decide

theorem Sign.isBlank {negative : Bool} {cs : List Char} (h : Sign negative cs) :
    ∀ c ∈ cs, isBlank c = false := by
  cases h with
  | none => exact List.forall_mem_nil _
  | plus => exact List.forall_mem_singleton.mpr rfl
  | minus => exact List.forall_mem_singleton.mpr rfl

theorem Grouped.head_ne {ns : List Nat} {cs : List Char} (h : Grouped ns cs) :
    ∀ c ∈ cs.head?, c ≠ '-' ∧ c ≠ '+' := by
  intro c hc
  have hmem := List.mem_of_mem_head? hc
  constructor
  · rintro rfl
    exact h.not_mem (by decide) (by decide) hmem
  · rintro rfl
    exact h.not_mem (by decide) (by decide) hmem

/-! ### Integers -/

def SignedDigits (negative : Bool) (digits : List Nat) (cs : List Char) : Prop :=
  ∃ sign body, Sign negative sign ∧ Grouped digits body ∧ cs = sign ++ body

theorem signedDigits_iff {negative : Bool} {digits : List Nat} {cs : List Char} :
    SignedDigits negative digits cs ↔
      (splitSign cs).1 = negative ∧
        groupedDigits? decimalDigit? (splitSign cs).2 = some digits := by
  rw [groupedDigits?_eq_some_iff]
  constructor
  · rintro ⟨sign, body, hsign, hdigits, rfl⟩
    rw [splitSign_append hsign hdigits.head_ne]
    exact ⟨rfl, hdigits⟩
  · rintro ⟨rfl, hdigits⟩
    obtain ⟨sign, hsign, hbody⟩ := sign_splitSign cs
    exact ⟨sign, _, hsign, hdigits, hbody⟩

theorem SignedDigits.isBlank {negative : Bool} {digits : List Nat} {cs : List Char}
    (h : SignedDigits negative digits cs) : ∀ c ∈ cs, isBlank c = false := by
  obtain ⟨sign, body, hsign, hdigits, rfl⟩ := h
  exact List.forall_mem_append.mpr ⟨hsign.isBlank, hdigits.isBlank⟩

def WritesInteger (negative : Bool) (digits : List Nat) (s : String) : Prop :=
  ∃ cs, SignedDigits negative digits cs ∧ Encloses isBlank cs s.toList

theorem writesInteger_iff {negative : Bool} {digits : List Nat} {s : String} :
    WritesInteger negative digits s ↔ SignedDigits negative digits (trimBlank s.toList) := by
  constructor
  · rintro ⟨cs, hcs, henclosed⟩
    rwa [trimBlank, (trimBy_eq_iff hcs.isBlank).mpr henclosed]
  · intro h
    exact ⟨_, h, encloses_trimBy isBlank s.toList⟩

/-- An integer is read from the texts that write it in digits of which there are not too many. -/
theorem ofText_eq_value_iff {s : String} {n : Int} :
    IntegerText.ofText s = .value n ↔
      ∃ negative digits, WritesInteger negative digits s ∧ digits.length ≤ maxIntegerDigits ∧
        n = signed negative (natOfDigits digits) := by
  simp only [writesInteger_iff, signedDigits_iff, IntegerText.ofText]
  cases groupedDigits? decimalDigit? (splitSign (trimBlank s.toList)).2 with
  | none => simp
  | some digits =>
    by_cases hlimit : digits.length ≤ maxIntegerDigits
    · simp [hlimit, eq_comm]
    · simp [hlimit]

theorem decimalDigit?_of_isDigit {c : Char} (h : c.isDigit = true) :
    decimalDigit? c = some (c.toNat - 48) := by
  have hlo : 48 ≤ c.toNat := (Char.isDigit_iff_toNat.mp h).1
  have hhi : c.toNat ≤ 57 := (Char.isDigit_iff_toNat.mp h).2
  have hmod : (c.toNat - 0x30) % 10 = c.toNat - 48 := by omega
  rw [decimalDigit?, digitTable, List.findSome?_cons, if_pos ⟨hlo, hhi⟩, hmod]

theorem grouped_of_isDigit {cs : List Char} (hne : cs ≠ []) (h : ∀ c ∈ cs, c.isDigit = true) :
    Grouped (cs.map fun c => c.toNat - 48) cs := by
  induction cs with
  | nil => exact absurd rfl hne
  | cons c cs ih =>
    obtain ⟨hc, hcs⟩ := List.forall_mem_cons.mp h
    cases cs with
    | nil => exact .last (decimalDigit?_of_isDigit hc)
    | cons d cs => exact .next (decimalDigit?_of_isDigit hc) (ih (List.cons_ne_nil _ _) hcs)

/-- The decimal digits of a number, which has as many as its size allows, write it. -/
theorem exists_digits_toString (n : Nat) :
    ∃ digits, Grouped digits (toString n).toList ∧ natOfDigits digits = n ∧
      ∀ k, 0 < k → n < 10 ^ k → digits.length ≤ k := by
  have hchars : (toString n).toList = Nat.toDigits 10 n := String.toList_ofList
  have hdigit : ∀ c ∈ Nat.toDigits 10 n, c.isDigit = true :=
    fun c hc => Nat.isDigit_of_mem_toDigits (by decide) (by decide) hc
  refine ⟨(Nat.toDigits 10 n).map fun c => c.toNat - 48, ?_, ?_, ?_⟩
  · rw [hchars]
    exact grouped_of_isDigit Nat.toDigits_ne_nil hdigit
  · rw [natOfDigits, List.foldl_map]
    exact Nat.ofDigitChars_toDigits (by decide) (by decide)
  · intro k hk hn
    rw [List.length_map]
    exact (Nat.length_toDigits_le_iff (by decide) hk).mpr hn

/-! ### Decimals -/

def SomeDigits (ns : List Nat) (cs : List Char) : Prop := (ns = [] ∧ cs = []) ∨ Grouped ns cs

theorem someDigits?_eq_some_iff {ns : List Nat} {cs : List Char} :
    someDigits? cs = some ns ↔ SomeDigits ns cs := by
  cases cs with
  | nil => simp [someDigits?, SomeDigits, not_grouped_nil, eq_comm]
  | cons c cs => simp [someDigits?, SomeDigits, groupedDigits?_eq_some_iff]

inductive Mantissa : (whole fraction : List Nat) → List Char → Prop
  | plain {ws : List Nat} {cs : List Char} (hwhole : Grouped ws cs) : Mantissa ws [] cs
  | pointed {ws fs : List Nat} {whole fraction : List Char} (hwhole : SomeDigits ws whole)
      (hfraction : SomeDigits fs fraction) (hdigit : ws ≠ [] ∨ fs ≠ []) :
      Mantissa ws fs (whole ++ '.' :: fraction)

inductive Power : Int → List Char → Prop
  | none : Power 0 []
  | some {e : Char} {negative : Bool} {digits : List Nat} {cs : List Char} (he : e = 'e' ∨ e = 'E')
      (hdigits : SignedDigits negative digits cs) :
      Power (signed negative (natOfDigits digits)) (e :: cs)

/-- A number behind its sign: an infinity, no number, or a decimal rounded to the nearest number. -/
inductive WritesMagnitude (negative : Bool) : Binary64 → List Char → Prop
  | infinity {cs : List Char} (hword : cs.map asciiLower = "inf".toList ∨
      cs.map asciiLower = "infinity".toList) :
      WritesMagnitude negative (Binary64.infinity negative) cs
  | nan {cs : List Char} (hword : cs.map asciiLower = "nan".toList) :
      WritesMagnitude negative Binary64.nan cs
  | decimal {ws fs : List Nat} {e : Int} {mantissa power : List Char}
      (hmantissa : Mantissa ws fs mantissa) (hpower : Power e power) :
      WritesMagnitude negative
        (Binary64.ofDecimal negative (natOfDigits (ws ++ fs)) (e - fs.length)) (mantissa ++ power)

def WritesFloat (x : Binary64) (s : String) : Prop :=
  ∃ negative sign body, Sign negative sign ∧ WritesMagnitude negative x body ∧
    Encloses isBlank (sign ++ body) s.toList

theorem SomeDigits.not_mem {ns : List Nat} {cs : List Char} (h : SomeDigits ns cs) {c : Char}
    (hdigit : decimalDigit? c = none) (hc : c ≠ '_') : c ∉ cs := by
  rcases h with ⟨-, rfl⟩ | h
  · exact List.not_mem_nil
  · exact h.not_mem hdigit hc

theorem SomeDigits.isBlank {ns : List Nat} {cs : List Char} (h : SomeDigits ns cs) :
    ∀ c ∈ cs, isBlank c = false := by
  rcases h with ⟨-, rfl⟩ | h
  · exact nofun
  · exact h.isBlank

theorem SomeDigits.point {ns : List Nat} {cs : List Char} (h : SomeDigits ns cs) :
    ∀ c ∈ cs, (c == '.') = false := by
  intro c hc
  rw [beq_eq_false_iff_ne]
  rintro rfl
  exact h.not_mem (by decide) (by decide) hc

theorem mantissa_iff {ws fs : List Nat} {cs : List Char} :
    Mantissa ws fs cs ↔
      someDigits? (cutAt (fun c => c == '.') cs).1 = some ws ∧
        someDigits? ((cutAt (fun c => c == '.') cs).2.getD []) = some fs ∧
          (ws ≠ [] ∨ fs ≠ []) := by
  simp only [someDigits?_eq_some_iff]
  constructor
  · intro h
    cases h with
    | plain hwhole =>
      have hcut := cutAt_of_forall_not (SomeDigits.point (Or.inr hwhole))
      rw [hcut]
      refine ⟨Or.inr hwhole, Or.inl ⟨rfl, rfl⟩, Or.inl ?_⟩
      rintro rfl
      cases hwhole
    | pointed hwhole hfraction hdigit =>
      rw [cutAt_append hwhole.point rfl]
      exact ⟨hwhole, hfraction, hdigit⟩
  -- the text is cut at its first point, and digits have no further one
  · rintro ⟨hwhole, hfraction, hdigit⟩
    rcases forall_not_or_exists_first (fun c => c == '.') cs with
      hnone | ⟨whole, point, fraction, rfl, hpoint, hbefore⟩
    · rw [cutAt_of_forall_not hnone] at hwhole hfraction
      rcases hfraction with ⟨rfl, -⟩ | hfraction
      · rcases hwhole with ⟨rfl, -⟩ | hwhole
        · simp at hdigit
        · exact .plain hwhole
      · exact absurd hfraction not_grouped_nil
    · rw [cutAt_append hbefore hpoint] at hwhole hfraction
      obtain rfl := eq_of_beq hpoint
      exact .pointed hwhole hfraction hdigit

theorem Mantissa.not_mem {ws fs : List Nat} {cs : List Char} (h : Mantissa ws fs cs) {c : Char}
    (hdigit : decimalDigit? c = none) (hc : c ≠ '_') (hpoint : c ≠ '.') : c ∉ cs := by
  cases h with
  | plain hwhole => exact hwhole.not_mem hdigit hc
  | pointed hwhole hfraction _ =>
    rw [List.mem_append, List.mem_cons]
    rintro (hmem | heq | hmem)
    · exact hwhole.not_mem hdigit hc hmem
    · exact hpoint heq
    · exact hfraction.not_mem hdigit hc hmem

def isPowerSign (c : Char) : Bool := c == 'e' || c == 'E'

theorem Mantissa.isPowerSign {ws fs : List Nat} {cs : List Char} (h : Mantissa ws fs cs) :
    ∀ c ∈ cs, isPowerSign c = false := by
  intro c hc
  rw [Decimal.isPowerSign, Bool.or_eq_false_iff, beq_eq_false_iff_ne, beq_eq_false_iff_ne]
  constructor
  · rintro rfl
    exact h.not_mem (by decide) (by decide) (by decide) hc
  · rintro rfl
    exact h.not_mem (by decide) (by decide) (by decide) hc

theorem exponent?_eq_some_iff {e : Int} {cs : List Char} :
    exponent? (some cs) = some e ↔
      ∃ negative digits, SignedDigits negative digits cs ∧
        e = signed negative (natOfDigits digits) := by
  simp only [signedDigits_iff, exponent?]
  cases groupedDigits? decimalDigit? (splitSign cs).2 <;> simp [eq_comm]

theorem decimal?_eq_some {negative : Bool} {x : Binary64} {cs : List Char} :
    decimal? negative cs = some x ↔
      ∃ ws fs e, Mantissa ws fs (cutAt isPowerSign cs).1 ∧
        exponent? (cutAt isPowerSign cs).2 = some e ∧
          x = Binary64.ofDecimal negative (natOfDigits (ws ++ fs)) (e - fs.length) := by
  have hsign : (fun c => c == 'e' || c == 'E') = isPowerSign := rfl
  simp only [mantissa_iff, decimal?, hsign]
  rcases someDigits? (cutAt (fun c => c == '.') (cutAt isPowerSign cs).1).1 with _ | ws
  · simp
  rcases someDigits? ((cutAt (fun c => c == '.') (cutAt isPowerSign cs).1).2.getD []) with _ | fs
  · simp
  rcases exponent? (cutAt isPowerSign cs).2 with _ | e
  · simp
  cases ws <;> cases fs <;> simp [eq_comm]

theorem decimal?_eq_some_iff {negative : Bool} {x : Binary64} {cs : List Char} :
    decimal? negative cs = some x ↔
      ∃ ws fs e mantissa power, Mantissa ws fs mantissa ∧ Power e power ∧ cs = mantissa ++ power ∧
        x = Binary64.ofDecimal negative (natOfDigits (ws ++ fs)) (e - fs.length) := by
  rw [decimal?_eq_some]
  constructor
  · rintro ⟨ws, fs, e, hmantissa, hpower, hx⟩
    rcases forall_not_or_exists_first isPowerSign cs with
      hnone | ⟨mantissa, c, after, rfl, hc, hbefore⟩
    · rw [cutAt_of_forall_not hnone] at hmantissa hpower
      obtain rfl : 0 = e := Option.some.inj hpower
      exact ⟨ws, fs, 0, cs, [], hmantissa, .none, (List.append_nil cs).symm, hx⟩
    · rw [cutAt_append hbefore hc] at hmantissa hpower
      obtain ⟨sign, digits, hdigits, rfl⟩ := exponent?_eq_some_iff.mp hpower
      have hletter : c = 'e' ∨ c = 'E' := by simpa [isPowerSign] using hc
      exact ⟨ws, fs, _, mantissa, c :: after, hmantissa, .some hletter hdigits, rfl, hx⟩
  · rintro ⟨ws, fs, e, mantissa, power, hmantissa, hpower, rfl, hx⟩
    refine ⟨ws, fs, e, ?_⟩
    cases hpower with
    | none =>
      rw [List.append_nil, cutAt_of_forall_not hmantissa.isPowerSign]
      exact ⟨hmantissa, rfl, hx⟩
    | @some letter _ _ _ he hdigits =>
      have hsign : isPowerSign letter = true := by rcases he with rfl | rfl <;> rfl
      rw [cutAt_append hmantissa.isPowerSign hsign]
      exact ⟨hmantissa, exponent?_eq_some_iff.mpr ⟨_, _, hdigits, rfl⟩, hx⟩

/-! ### Floating point numbers -/

theorem asciiLower_blank_codes :
    ∀ n ∈ blankTable.codes, asciiLower (Char.ofNat n) = Char.ofNat n := by
  decide +kernel

theorem asciiLower_of_isBlank {c : Char} (h : isBlank c = true) : asciiLower c = c := by
  rw [isBlank, Ranges.mem_iff] at h
  simpa using asciiLower_blank_codes c.toNat h

theorem decimalDigit?_capital_codes :
    ∀ n ∈ List.range' 'A'.toNat 26, decimalDigit? (Char.ofNat n) = none := by
  decide +kernel

theorem asciiLower_of_decimalDigit? {c : Char} {n : Nat} (h : decimalDigit? c = some n) :
    asciiLower c = c := by
  rw [asciiLower, if_neg]
  rintro ⟨hlo, hhi⟩
  have hmem : c.toNat ∈ List.range' 'A'.toNat 26 :=
    List.mem_range'_1.mpr ⟨hlo, Nat.lt_succ_of_le hhi⟩
  have hnone := decimalDigit?_capital_codes c.toNat hmem
  rw [Char.ofNat_toNat, h] at hnone
  cases hnone

def isPlain (c : Char) : Bool := !isBlank c && c != '-' && c != '+'

theorem isPlain_eq_true_iff {c : Char} :
    isPlain c = true ↔ isBlank c = false ∧ c ≠ '-' ∧ c ≠ '+' := by
  simp [isPlain, and_assoc]

theorem plain_of_lettered {cs : List Char} {word : String} (hword : cs.map asciiLower = word.toList)
    (hplain : word.toList.all isPlain = true) :
    ∀ c ∈ cs, isBlank c = false ∧ c ≠ '-' ∧ c ≠ '+' := by
  intro c hc
  have hmem : asciiLower c ∈ word.toList := hword ▸ List.mem_map_of_mem hc
  have hletter := isPlain_eq_true_iff.mp (List.all_eq_true.mp hplain _ hmem)
  refine ⟨?_, ?_, ?_⟩
  · by_contra hblank
    rw [Bool.not_eq_false] at hblank
    rw [asciiLower_of_isBlank hblank, hblank] at hletter
    exact absurd hletter.1 (by decide)
  · rintro rfl
    exact hletter.2.1 rfl
  · rintro rfl
    exact hletter.2.2 rfl

theorem Power.isBlank {e : Int} {cs : List Char} (h : Power e cs) :
    ∀ c ∈ cs, isBlank c = false := by
  cases h with
  | none => exact nofun
  | some he hdigits =>
    refine List.forall_mem_cons.mpr ⟨?_, hdigits.isBlank⟩
    rcases he with rfl | rfl <;> decide

theorem Mantissa.isBlank {ws fs : List Nat} {cs : List Char} (h : Mantissa ws fs cs) :
    ∀ c ∈ cs, Text.isBlank c = false := by
  cases h with
  | plain hwhole => exact hwhole.isBlank
  | pointed hwhole hfraction _ =>
    exact List.forall_mem_append.mpr
      ⟨hwhole.isBlank, List.forall_mem_cons.mpr ⟨by decide, hfraction.isBlank⟩⟩

theorem Mantissa.head {ws fs : List Nat} {cs : List Char} (h : Mantissa ws fs cs) :
    ∃ c rest, cs = c :: rest ∧ ((decimalDigit? c).isSome = true ∨ c = '.') := by
  have hgrouped : ∀ {ns : List Nat} {ds : List Char}, Grouped ns ds →
      ∃ c rest, ds = c :: rest ∧ (decimalDigit? c).isSome = true := by
    intro ns ds hds
    cases hds with
    | last hc => exact ⟨_, _, rfl, Option.isSome_of_eq_some hc⟩
    | next hc _ => exact ⟨_, _, rfl, Option.isSome_of_eq_some hc⟩
    | spaced hc _ => exact ⟨_, _, rfl, Option.isSome_of_eq_some hc⟩
  cases h with
  | plain hwhole =>
    obtain ⟨c, rest, rfl, hc⟩ := hgrouped hwhole
    exact ⟨c, rest, rfl, Or.inl hc⟩
  | pointed hwhole _ _ =>
    rcases hwhole with ⟨-, rfl⟩ | hwhole
    · exact ⟨'.', _, rfl, Or.inr rfl⟩
    · obtain ⟨c, rest, rfl, hc⟩ := hgrouped hwhole
      exact ⟨c, _, rfl, Or.inl hc⟩

theorem Mantissa.not_lettered {ws fs : List Nat} {cs power : List Char} (h : Mantissa ws fs cs)
    {word : String} (hword : word.toList.head?.all fun c => (decimalDigit? c).isNone && c != '.') :
    (cs ++ power).map asciiLower ≠ word.toList := by
  intro heq
  obtain ⟨c, rest, rfl, hc⟩ := h.head
  have hfirst : asciiLower c ∈ word.toList.head? := by rw [← heq]; rfl
  rw [Option.mem_def.mp hfirst, Option.all_some, Bool.and_eq_true, Option.isNone_iff_eq_none,
    bne_iff_ne] at hword
  rcases hc with hc | rfl
  · obtain ⟨n, hn⟩ := Option.isSome_iff_exists.mp hc
    rw [asciiLower_of_decimalDigit? hn, hn] at hword
    cases hword.1
  · exact hword.2 rfl

theorem WritesMagnitude.plain {negative : Bool} {x : Binary64} {cs : List Char}
    (h : WritesMagnitude negative x cs) :
    (∀ c ∈ cs, isBlank c = false) ∧ ∀ c ∈ cs.head?, c ≠ '-' ∧ c ≠ '+' := by
  have hlettered : ∀ {word : String}, cs.map asciiLower = word.toList →
      word.toList.all isPlain = true →
      (∀ c ∈ cs, isBlank c = false) ∧ ∀ c ∈ cs.head?, c ≠ '-' ∧ c ≠ '+' := by
    intro word hword hplain
    have hchars := plain_of_lettered hword hplain
    exact ⟨fun c hc => (hchars c hc).1, fun c hc => (hchars c (List.mem_of_mem_head? hc)).2⟩
  cases h with
  | infinity hword =>
    rcases hword with hword | hword
    · exact hlettered hword (by decide)
    · exact hlettered hword (by decide)
  | nan hword => exact hlettered hword (by decide)
  | decimal hmantissa hpower =>
    refine ⟨List.forall_mem_append.mpr ⟨hmantissa.isBlank, hpower.isBlank⟩, ?_⟩
    obtain ⟨c, rest, rfl, hc⟩ := hmantissa.head
    intro d hd
    obtain rfl : c = d := Option.some.inj hd
    constructor
    · rintro rfl
      exact absurd hc (by decide)
    · rintro rfl
      exact absurd hc (by decide)

theorem writesMagnitude_iff {negative : Bool} {x : Binary64} {body : List Char} :
    WritesMagnitude negative x body ↔
      (if String.ofList (body.map asciiLower) = "inf" ∨
          String.ofList (body.map asciiLower) = "infinity" then some (Binary64.infinity negative)
        else if String.ofList (body.map asciiLower) = "nan" then some Binary64.nan
        else decimal? negative body) = some x := by
  have hword : ∀ word : String,
      String.ofList (body.map asciiLower) = word ↔ body.map asciiLower = word.toList := by
    intro word
    rw [← String.toList_inj, String.toList_ofList]
  simp only [hword]
  constructor
  · intro h
    cases h with
    | infinity hword => rw [if_pos hword]
    | nan hword => rw [if_neg (by rw [hword]; decide), if_pos hword]
    | decimal hmantissa hpower =>
      -- a decimal is no word, as it begins with a digit or a point
      rw [if_neg, if_neg (hmantissa.not_lettered (by decide))]
      · exact decimal?_eq_some_iff.mpr ⟨_, _, _, _, _, hmantissa, hpower, rfl, rfl⟩
      · rintro (hword | hword)
        · exact hmantissa.not_lettered (by decide) hword
        · exact hmantissa.not_lettered (by decide) hword
  · intro h
    split at h
    · next hinfinity =>
      obtain rfl := Option.some.inj h
      exact .infinity hinfinity
    · split at h
      · next hnan =>
        obtain rfl := Option.some.inj h
        exact .nan hnan
      · obtain ⟨ws, fs, e, mantissa, power, hmantissa, hpower, rfl, rfl⟩ :=
          decimal?_eq_some_iff.mp h
        exact .decimal hmantissa hpower

theorem floatOfText?_eq_some_iff {s : String} {x : Binary64} :
    floatOfText? s = some x ↔ WritesFloat x s := by
  have hread : floatOfText? s = some x ↔ WritesMagnitude (splitSign (trimBlank s.toList)).1 x
      (splitSign (trimBlank s.toList)).2 := writesMagnitude_iff.symm
  rw [hread]
  constructor
  · intro h
    obtain ⟨sign, hsign, hbody⟩ := sign_splitSign (trimBlank s.toList)
    refine ⟨_, sign, _, hsign, h, ?_⟩
    rw [← hbody]
    exact encloses_trimBy isBlank s.toList
  · rintro ⟨negative, sign, body, hsign, hbody, henclosed⟩
    have hplain : ∀ c ∈ sign ++ body, isBlank c = false :=
      List.forall_mem_append.mpr ⟨hsign.isBlank, hbody.plain.1⟩
    rw [trimBlank, (trimBy_eq_iff hplain).mpr henclosed, splitSign_append hsign hbody.plain.2]
    exact hbody

theorem WritesInteger.writesFloat {negative : Bool} {digits : List Nat} {s : String}
    (h : WritesInteger negative digits s) :
    WritesFloat (Binary64.ofDecimal negative (natOfDigits digits) 0) s := by
  obtain ⟨cs, ⟨sign, body, hsign, hdigits, rfl⟩, henclosed⟩ := h
  have hdecimal : WritesMagnitude negative
      (Binary64.ofDecimal negative (natOfDigits (digits ++ [])) (0 - ([] : List Nat).length))
      (body ++ []) := .decimal (.plain hdigits) .none
  rw [List.append_nil, List.append_nil] at hdecimal
  exact ⟨negative, sign, body, hsign, hdecimal, henclosed⟩

end RelationalModels.Decimal
