import RelationalModels.Text.Digit

/-!
# JSON strings

A string is read in three steps: `splitBody?` finds the closing quote, `units?` undoes the escapes,
and `joinUnits` turns pairs of surrogates into characters. `quote` writes a string.

An escape may write half a pair on its own, which no character is. In the text two characters stand
in for it: `halfMark`, and a private character that is another one for each half. As the mark itself
is written twice, no two strings have one text. `quote` writes the halves as escapes again.
-/

namespace RelationalModels.Json

open RelationalModels.Text

/-- The text up to the closing quote, escapes left alone, and what follows the quote. -/
def splitBody? : List Char → Option (List Char × List Char)
  | [] => none
  | ['\\'] => none
  | '\\' :: c :: rest => (splitBody? rest).map fun (body, after) => ('\\' :: c :: body, after)
  | '"' :: rest => some ([], rest)
  | c :: rest => (splitBody? rest).map fun (body, after) => (c :: body, after)

def escaped? : Char → Option Nat
  | '"' => some 0x22
  | '\\' => some 0x5C
  | '/' => some 0x2F
  | 'b' => some 0x8
  | 'f' => some 0xC
  | 'n' => some 0xA
  | 'r' => some 0xD
  | 't' => some 0x9
  | _ => none

def hexUnit? (a b c d : Char) : Option Nat :=
  match hexDigit? a, hexDigit? b, hexDigit? c, hexDigit? d with
  | some w, some x, some y, some z => some (4096 * w + 256 * x + 16 * y + z)
  | _, _, _, _ => none

def units? : List Char → Option (List Nat)
  | [] => some []
  | '\\' :: 'u' :: a :: b :: c :: d :: rest =>
    match hexUnit? a b c d, units? rest with
    | some n, some ns => some (n :: ns)
    | _, _ => none
  | '\\' :: c :: rest =>
    match escaped? c, units? rest with
    | some n, some ns => some (n :: ns)
    | _, _ => none
  | c :: rest =>
    if c = '\\' ∨ c.toNat < 0x20 then none else (units? rest).map fun ns => c.toNat :: ns

def isHighSurrogate (n : Nat) : Bool := decide (0xD800 ≤ n) && decide (n < 0xDC00)

def isLowSurrogate (n : Nat) : Bool := decide (0xDC00 ≤ n) && decide (n < 0xE000)

def isSurrogate (n : Nat) : Bool := isHighSurrogate n || isLowSurrogate n

/-- The noncharacter that stands before the stand-in of half a pair, and before itself. -/
def halfMark : Char := Char.ofNat 0x10FFFF

def firstStandIn : Nat := 0x10F000

def isStandIn (c : Char) : Bool :=
  decide (firstStandIn ≤ c.toNat) && decide (c.toNat < firstStandIn + 0x800)

def unitText (n : Nat) : List Char :=
  if isSurrogate n then [halfMark, Char.ofNat (firstStandIn + (n - 0xD800))]
  else if n = halfMark.toNat then [halfMark, halfMark]
  else [Char.ofNat n]

theorem isSurrogate_iff {n : Nat} : isSurrogate n = true ↔ 0xD800 ≤ n ∧ n < 0xE000 := by
  simp only [isSurrogate, isHighSurrogate, isLowSurrogate, Bool.or_eq_true, Bool.and_eq_true,
    decide_eq_true_eq]
  omega

theorem toNat_ofNat {n : Nat} (h : n.isValidChar) : (Char.ofNat n).toNat = n := by
  rw [Char.ofNat, dif_pos h]
  rfl

theorem unitText_cases {n : Nat} (h : n < 0x110000) :
    (∃ half : Char, unitText n = [halfMark, half] ∧ isSurrogate n = true ∧
      half.toNat = firstStandIn + (n - 0xD800)) ∨
    (unitText n = [halfMark, halfMark] ∧ n = halfMark.toNat) ∨
    ∃ c : Char, unitText n = [c] ∧ c ≠ halfMark ∧ c.toNat = n := by
  unfold unitText
  split
  · next hhalf =>
    have hbounds := isSurrogate_iff.mp hhalf
    refine Or.inl ⟨_, rfl, hhalf, toNat_ofNat (Or.inr ?_)⟩
    unfold firstStandIn
    omega
  · next hwhole =>
    split
    · next hsame => exact Or.inr (Or.inl ⟨rfl, hsame⟩)
    · next hother =>
      rw [isSurrogate_iff] at hwhole
      have hcode : (Char.ofNat n).toNat = n := by
        refine toNat_ofNat ?_
        unfold Nat.isValidChar
        omega
      refine Or.inr (Or.inr ⟨_, rfl, ?_, hcode⟩)
      intro heq
      exact hother (hcode.symm.trans (congrArg Char.toNat heq))

def codePoints : List Char → List Nat
  | [] => []
  | [c] => [c.toNat]
  | c :: d :: rest =>
    if c = halfMark && isStandIn d then (0xD800 + (d.toNat - firstStandIn)) :: codePoints rest
    else if c = halfMark && d = halfMark then d.toNat :: codePoints rest
    else c.toNat :: codePoints (d :: rest)

theorem codePoints_unitText_append {n : Nat} (h : n < 0x110000) (s : List Char) :
    codePoints (unitText n ++ s) = n :: codePoints s := by
  obtain ⟨half, htext, hsurrogate, hcode⟩ | ⟨htext, hmark⟩ | ⟨c, htext, hne, hcode⟩ :=
    unitText_cases h
  · rw [isSurrogate_iff] at hsurrogate
    have hstand : isStandIn half = true := by
      rw [isStandIn, hcode, Bool.and_eq_true, decide_eq_true_eq, decide_eq_true_eq]
      omega
    have hback : 0xD800 + (half.toNat - firstStandIn) = n := by omega
    simp [htext, codePoints, hstand, hback]
  · have hstand : isStandIn halfMark = false := by decide
    simp [htext, codePoints, hstand, ← hmark]
  · rw [htext, List.singleton_append]
    cases s with
    | nil => simp [codePoints, hcode]
    | cons d s => simp [codePoints, hne, hcode]

/-- The code points that a text was made from are found again, halves of pairs too. -/
theorem codePoints_flatMap_unitText {ns : List Nat} (h : ∀ n ∈ ns, n < 0x110000) :
    codePoints (ns.flatMap unitText) = ns := by
  induction ns with
  | nil => rfl
  | cons n ns ih =>
    obtain ⟨hn, hns⟩ := List.forall_mem_cons.mp h
    rw [List.flatMap_cons, codePoints_unitText_append hn, ih hns]

/-- The text of code units, a pair of surrogates making one character. -/
def joinUnits : List Nat → List Char
  | [] => []
  | [n] => unitText n
  | n :: m :: rest =>
    if isHighSurrogate n && isLowSurrogate m then
      unitText (0x10000 + (n - 0xD800) * 0x400 + (m - 0xDC00)) ++ joinUnits rest
    else unitText n ++ joinUnits (m :: rest)

def readString? (cs : List Char) : Option (String × List Char) :=
  match splitBody? cs with
  | none => none
  | some (body, rest) => (units? body).map fun ns => (String.ofList (joinUnits ns), rest)

def unitEscape (n : Nat) : List Char :=
  ['\\', 'u', hexDigit (n / 4096), hexDigit (n / 256 % 16), hexDigit (n / 16 % 16),
   hexDigit (n % 16)]

def escapeCodePoint (n : Nat) : List Char :=
  if n = 0x22 then ['\\', '"']
  else if n = 0x5C then ['\\', '\\']
  else if n < 0x20 ∨ isSurrogate n then unitEscape n
  else [Char.ofNat n]

def quote (s : String) : String :=
  String.ofList ('"' :: ((codePoints s.toList).flatMap escapeCodePoint ++ ['"']))

end RelationalModels.Json
