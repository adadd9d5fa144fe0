import Mathlib.Data.List.Basic
import Mathlib.Data.List.TakeWhile
import RelationalModels.Text.Utf8

/-!
# What a decoder of UTF-8 accepts

The bytes of a text are those of its characters, one after the other. `decode_eq_ok_iff` states that
decoding undoes this and refuses every other sequence of bytes.
-/

namespace RelationalModels.Text.Utf8

def encode (s : String) : List UInt8 := s.toList.flatMap String.utf8EncodeChar

/-! ### First bytes -/

theorem lead?_one {b : UInt8} (h : b.toNat < 0x80) : lead? b = some ⟨0, b.toNat, 0, 0⟩ := by
  simp [lead?, h]

theorem lead?_two {b : UInt8} (hlo : 0xC2 ≤ b.toNat) (hhi : b.toNat < 0xE0) :
    lead? b = some ⟨1, b.toNat - 0xC0, 0x80, 0xBF⟩ := by
  simp only [lead?]
  rw [if_neg (by omega), if_neg (by omega), if_pos hhi]

/-- After `E0` a second byte is not below `A0`, and after `ED` not above `9F`. -/
theorem lead?_three {b : UInt8} (hlo : 0xE0 ≤ b.toNat) (hhi : b.toNat < 0xF0) :
    ∃ least greatest, lead? b = some ⟨2, b.toNat - 0xE0, least, greatest⟩ ∧
      ∀ n, (least ≤ n ∧ n ≤ greatest) ↔ (0x80 ≤ n ∧ n ≤ 0xBF ∧ (b.toNat = 0xE0 → 0xA0 ≤ n) ∧
        (b.toNat = 0xED → n ≤ 0x9F)) := by
  simp only [lead?]
  rw [if_neg (by omega), if_neg (by omega), if_neg (by omega)]
  by_cases hfirst : b.toNat = 0xE0
  · exact ⟨0xA0, 0xBF, by simp [hfirst], by omega⟩
  · by_cases hlast : b.toNat = 0xED
    · exact ⟨0x80, 0x9F, by simp [hlast], by omega⟩
    · exact ⟨0x80, 0xBF, by simp [hfirst, hlast, hhi], by omega⟩

/-- After `F0` a second byte is not below `90`, and after `F4` not above `8F`. -/
theorem lead?_four {b : UInt8} (hlo : 0xF0 ≤ b.toNat) (hhi : b.toNat < 0xF5) :
    ∃ least greatest, lead? b = some ⟨3, b.toNat - 0xF0, least, greatest⟩ ∧
      ∀ n, (least ≤ n ∧ n ≤ greatest) ↔ (0x80 ≤ n ∧ n ≤ 0xBF ∧ (b.toNat = 0xF0 → 0x90 ≤ n) ∧
        (b.toNat = 0xF4 → n ≤ 0x8F)) := by
  simp only [lead?]
  rw [if_neg (by omega), if_neg (by omega), if_neg (by omega), if_neg (by omega), if_neg (by omega),
    if_neg (by omega)]
  by_cases hfirst : b.toNat = 0xF0
  · exact ⟨0x90, 0xBF, by simp [hfirst], by omega⟩
  · by_cases hlast : b.toNat = 0xF4
    · exact ⟨0x80, 0x8F, by simp [hlast], by omega⟩
    · refine ⟨0x80, 0xBF, ?_, by omega⟩
      rw [if_neg hfirst, if_pos (by omega)]

theorem lead?_cases {b : UInt8} {l : Lead} (h : lead? b = some l) :
    b.toNat < 0x80 ∨ (0xC2 ≤ b.toNat ∧ b.toNat < 0xE0) ∨ (0xE0 ≤ b.toNat ∧ b.toNat < 0xF0) ∨
      (0xF0 ≤ b.toNat ∧ b.toNat < 0xF5) := by
  by_contra hnone
  simp only [lead?] at h
  rw [if_neg (by omega)] at h
  split at h
  · cases h
  · rw [if_neg (by omega), if_neg (by omega), if_neg (by omega), if_neg (by omega),
      if_neg (by omega), if_neg (by omega), if_neg (by omega)] at h
    cases h

/-! ### Continuations -/

def Lead.Continues (l : Lead) (tail : List UInt8) : Prop :=
  tail.length = l.count ∧ (∀ b ∈ tail.head?, l.least ≤ b.toNat ∧ b.toNat ≤ l.greatest) ∧
    ∀ b ∈ tail.tail, isContinuation b = true

theorem continuation_append {l : Lead} {tail : List UInt8} (h : l.Continues tail)
    (rest : List UInt8) : continuation l (tail ++ rest) = tail := by
  obtain ⟨hlength, hsecond, hmore⟩ := h
  cases tail with
  | nil =>
    cases rest with
    | nil => rfl
    | cons b rest =>
      have hnone : l.count = 0 := hlength.symm
      rw [List.nil_append, continuation, if_pos hnone]
  | cons b tail =>
    have hcount : l.count - 1 = tail.length := by
      rw [← hlength, List.length_cons, Nat.add_sub_cancel]
    have hne : l.count ≠ 0 := by
      rw [← hlength]
      exact Nat.succ_ne_zero _
    rw [List.cons_append, continuation, if_neg hne, if_pos (hsecond b rfl), hcount,
      List.take_left]
    exact congrArg (b :: ·) (List.takeWhile_eq_self_iff.mpr hmore)

theorem continuation_spec (l : Lead) (rest : List UInt8) :
    continuation l rest <+: rest ∧
      ((continuation l rest).length = l.count → l.Continues (continuation l rest)) := by
  cases rest with
  | nil => exact ⟨List.prefix_rfl, fun h => ⟨h, nofun, nofun⟩⟩
  | cons b rest =>
    rw [continuation]
    split
    · exact ⟨List.nil_prefix, fun h => ⟨h, nofun, nofun⟩⟩
    · split
      · next hsecond =>
        have hprefix : (rest.take (l.count - 1)).takeWhile isContinuation <+: rest :=
          (List.takeWhile_prefix _).trans (List.take_prefix _ _)
        refine ⟨List.cons_prefix_cons.mpr ⟨rfl, hprefix⟩, fun h => ⟨h, ?_, ?_⟩⟩
        · intro c hc
          obtain rfl : b = c := Option.some.inj hc
          exact hsecond
        · intro c hc
          exact List.mem_takeWhile_imp hc
      · exact ⟨List.nil_prefix, fun h => ⟨h, nofun, nofun⟩⟩

def codePoint (l : Lead) (tail : List UInt8) : Nat :=
  tail.foldl (fun n c => 64 * n + c.toNat % 64) l.bits

theorem decodeChar_eq_ok_iff {first size : Nat} {b : UInt8} {rest : List UInt8} {c : Char} :
    decodeChar first b rest = .ok (c, size) ↔
      ∃ l tail after, lead? b = some l ∧ l.Continues tail ∧ rest = tail ++ after ∧
        c = Char.ofNat (codePoint l tail) ∧ size = tail.length + 1 := by
  constructor
  · intro h
    rw [decodeChar] at h
    cases hlead : lead? b with
    | none => simp [hlead] at h
    | some l =>
      simp only [hlead] at h
      split at h
      · next hlength =>
        obtain ⟨⟨after, hafter⟩, hcontinues⟩ := continuation_spec l rest
        obtain ⟨rfl, rfl⟩ := Prod.mk.inj (Except.ok.inj h)
        exact ⟨l, _, after, rfl, hcontinues hlength, hafter.symm, rfl, by rw [hlength]⟩
      · split at h <;> cases h
  · rintro ⟨l, tail, after, hlead, hcontinues, rfl, rfl, rfl⟩
    simp only [decodeChar, hlead, continuation_append hcontinues, if_pos hcontinues.1]
    rw [hcontinues.1]
    rfl

/-! ### Characters -/

theorem isContinuation_iff {b : UInt8} :
    isContinuation b = true ↔ 0x80 ≤ b.toNat ∧ b.toNat ≤ 0xBF := by
  rw [isContinuation, beq_iff_eq]
  omega

theorem ofNat_eq_iff {n : Nat} {b : UInt8} : UInt8.ofNat n = b ↔ n % 256 = b.toNat := by
  rw [← UInt8.toNat_inj, UInt8.toNat_ofNat']

theorem utf8EncodeChar_ofNat {n : Nat} (h : n.isValidChar) :
    String.utf8EncodeChar (Char.ofNat n) =
      if n ≤ 127 then [UInt8.ofNat n]
      else if n ≤ 2047 then [UInt8.ofNat (n / 64 % 32 + 192), UInt8.ofNat (n % 64 + 128)]
      else if n ≤ 65535 then
        [UInt8.ofNat (n / 4096 % 16 + 224), UInt8.ofNat (n / 64 % 64 + 128),
          UInt8.ofNat (n % 64 + 128)]
      else
        [UInt8.ofNat (n / 262144 % 8 + 240), UInt8.ofNat (n / 4096 % 64 + 128),
          UInt8.ofNat (n / 64 % 64 + 128), UInt8.ofNat (n % 64 + 128)] := by
  have hval : (Char.ofNat n).val.toNat = n := by
    rw [Char.ofNat, dif_pos h]
    rfl
  simp only [String.utf8EncodeChar, hval]

theorem utf8EncodeChar_codePoint {b : UInt8} {l : Lead} {tail : List UInt8}
    (hlead : lead? b = some l) (h : l.Continues tail) :
    String.utf8EncodeChar (Char.ofNat (codePoint l tail)) = b :: tail := by
  obtain ⟨hlength, hsecond, hmore⟩ := h
  rcases lead?_cases hlead with hb | ⟨hlo, hhi⟩ | ⟨hlo, hhi⟩ | ⟨hlo, hhi⟩
  · obtain rfl := Option.some.inj ((lead?_one hb).symm.trans hlead)
    obtain rfl := List.length_eq_zero_iff.mp hlength
    generalize hn : codePoint ⟨0, b.toNat, 0, 0⟩ [] = n
    have hcode : n = b.toNat := hn.symm
    have hvalid : n.isValidChar := Or.inl (by omega)
    rw [utf8EncodeChar_ofNat hvalid, if_pos (by omega)]
    simp only [List.cons.injEq, ofNat_eq_iff, and_true]
    omega
  · obtain rfl := Option.some.inj ((lead?_two hlo hhi).symm.trans hlead)
    obtain ⟨x, rfl⟩ := List.length_eq_one_iff.mp hlength
    have hx : 0x80 ≤ x.toNat ∧ x.toNat ≤ 0xBF := hsecond x rfl
    generalize hn : codePoint ⟨1, b.toNat - 0xC0, 0x80, 0xBF⟩ [x] = n
    have hcode : n = 64 * (b.toNat - 0xC0) + x.toNat % 64 := hn.symm
    have hvalid : n.isValidChar := Or.inl (by omega)
    rw [utf8EncodeChar_ofNat hvalid, if_neg (by omega), if_pos (by omega)]
    simp only [List.cons.injEq, ofNat_eq_iff, and_true]
    omega
  · obtain ⟨least, greatest, hthree, hrange⟩ := lead?_three hlo hhi
    obtain rfl := Option.some.inj (hthree.symm.trans hlead)
    obtain ⟨x, y, rfl⟩ := List.length_eq_two.mp hlength
    have hx := (hrange x.toNat).mp (hsecond x rfl)
    have hy := isContinuation_iff.mp (hmore y (List.mem_singleton.mpr rfl))
    generalize hn : codePoint ⟨2, b.toNat - 0xE0, least, greatest⟩ [x, y] = n
    have hcode : n = 64 * (64 * (b.toNat - 0xE0) + x.toNat % 64) + y.toNat % 64 := hn.symm
    have hvalid : n.isValidChar := by
      -- a second byte after `ED` that is not above `9F` leaves out the surrogates
      unfold Nat.isValidChar
      omega
    rw [utf8EncodeChar_ofNat hvalid, if_neg (by omega), if_neg (by omega), if_pos (by omega)]
    simp only [List.cons.injEq, ofNat_eq_iff, and_true]
    omega
  · obtain ⟨least, greatest, hfour, hrange⟩ := lead?_four hlo hhi
    obtain rfl := Option.some.inj (hfour.symm.trans hlead)
    obtain ⟨x, y, z, rfl⟩ := List.length_eq_three.mp hlength
    have hx := (hrange x.toNat).mp (hsecond x rfl)
    have hy := isContinuation_iff.mp (hmore y (by simp))
    have hz := isContinuation_iff.mp (hmore z (by simp))
    generalize hn : codePoint ⟨3, b.toNat - 0xF0, least, greatest⟩ [x, y, z] = n
    have hcode : n =
        64 * (64 * (64 * (b.toNat - 0xF0) + x.toNat % 64) + y.toNat % 64) + z.toNat % 64 := hn.symm
    have hvalid : n.isValidChar := by
      unfold Nat.isValidChar
      omega
    rw [utf8EncodeChar_ofNat hvalid, if_neg (by omega), if_neg (by omega), if_neg (by omega)]
    simp only [List.cons.injEq, ofNat_eq_iff, and_true]
    omega

theorem exists_continues (c : Char) :
    ∃ b l tail, String.utf8EncodeChar c = b :: tail ∧ lead? b = some l ∧ l.Continues tail := by
  have hvalid : c.toNat.isValidChar := c.valid
  rw [← Char.ofNat_toNat c, utf8EncodeChar_ofNat hvalid]
  generalize c.toNat = n at hvalid ⊢
  unfold Nat.isValidChar at hvalid
  -- by the number of bytes; what the second may be depends on the first from three bytes on
  by_cases hone : n ≤ 127
  · rw [if_pos hone]
    have hb : (UInt8.ofNat n).toNat = n := by rw [UInt8.toNat_ofNat']; omega
    exact ⟨_, _, [], rfl, lead?_one (by omega), rfl, nofun, nofun⟩
  rw [if_neg hone]
  have hcontinuation : ∀ m, isContinuation (UInt8.ofNat (m % 64 + 128)) = true := by
    intro m
    rw [isContinuation_iff, UInt8.toNat_ofNat']
    omega
  by_cases htwo : n ≤ 2047
  · rw [if_pos htwo]
    have hb : (UInt8.ofNat (n / 64 % 32 + 192)).toNat = n / 64 + 192 := by
      rw [UInt8.toNat_ofNat']; omega
    refine ⟨_, _, _, rfl, lead?_two (by omega) (by omega), rfl, ?_, nofun⟩
    intro x hx
    obtain rfl := Option.some.inj hx
    exact isContinuation_iff.mp (hcontinuation n)
  rw [if_neg htwo]
  by_cases hthree : n ≤ 65535
  · rw [if_pos hthree]
    have hb : (UInt8.ofNat (n / 4096 % 16 + 224)).toNat = n / 4096 + 224 := by
      rw [UInt8.toNat_ofNat']; omega
    obtain ⟨least, greatest, hlead, hrange⟩ :=
      lead?_three (b := UInt8.ofNat (n / 4096 % 16 + 224)) (by omega) (by omega)
    refine ⟨_, _, _, rfl, hlead, rfl, ?_, ?_⟩
    · intro x hx
      obtain rfl := Option.some.inj hx
      have hx : (UInt8.ofNat (n / 64 % 64 + 128)).toNat = n / 64 % 64 + 128 := by
        rw [UInt8.toNat_ofNat']; omega
      rw [hrange]
      omega
    · intro x hx
      obtain rfl := List.mem_singleton.mp hx
      exact hcontinuation n
  · rw [if_neg hthree]
    have hb : (UInt8.ofNat (n / 262144 % 8 + 240)).toNat = n / 262144 + 240 := by
      rw [UInt8.toNat_ofNat']; omega
    obtain ⟨least, greatest, hlead, hrange⟩ :=
      lead?_four (b := UInt8.ofNat (n / 262144 % 8 + 240)) (by omega) (by omega)
    refine ⟨_, _, _, rfl, hlead, rfl, ?_, ?_⟩
    · intro x hx
      obtain rfl := Option.some.inj hx
      have hx : (UInt8.ofNat (n / 4096 % 64 + 128)).toNat = n / 4096 % 64 + 128 := by
        rw [UInt8.toNat_ofNat']; omega
      rw [hrange]
      omega
    · intro x hx
      rcases List.mem_pair.mp hx with rfl | rfl
      · exact hcontinuation (n / 64)
      · exact hcontinuation n

theorem utf8EncodeChar_injective {c d : Char}
    (h : String.utf8EncodeChar c = String.utf8EncodeChar d) : c = d := by
  have hbytes : (String.ofList [c]).toByteArray = (String.ofList [d]).toByteArray := by
    simp only [String.toByteArray_ofList, List.utf8Encode, List.flatMap_cons, List.flatMap_nil, h]
  have hchars : [c] = [d] := String.ofList_injective (String.toByteArray_inj.mp hbytes)
  exact List.head_eq_of_cons_eq hchars

theorem decodeChar_iff {first size : Nat} {b : UInt8} {rest : List UInt8} {c : Char} :
    decodeChar first b rest = .ok (c, size) ↔
      ∃ tail after, String.utf8EncodeChar c = b :: tail ∧ rest = tail ++ after ∧
        size = tail.length + 1 := by
  rw [decodeChar_eq_ok_iff]
  constructor
  · rintro ⟨l, tail, after, hlead, hcontinues, rfl, rfl, rfl⟩
    exact ⟨tail, after, utf8EncodeChar_codePoint hlead hcontinues, rfl, rfl⟩
  · rintro ⟨tail, after, hc, rfl, rfl⟩
    obtain ⟨b', l, tail', hc', hlead, hcontinues⟩ := exists_continues c
    obtain ⟨rfl, rfl⟩ := List.cons.inj (hc'.symm.trans hc)
    have heq := hc.trans (utf8EncodeChar_codePoint hlead hcontinues).symm
    exact ⟨l, tail', after, hlead, hcontinues, rfl, utf8EncodeChar_injective heq, rfl⟩

theorem decodeFrom_cons_eq_ok_iff {first : Nat} {b : UInt8} {rest : List UInt8} {cs : List Char} :
    decodeFrom first 0 (b :: rest) = .ok cs ↔
      ∃ c size ds, decodeChar first b rest = .ok (c, size) ∧
        decodeFrom (first + 1) (size - 1) rest = .ok ds ∧ cs = c :: ds := by
  rw [decodeFrom]
  cases decodeChar first b rest with
  | error e => simp
  | ok read =>
    obtain ⟨c, size⟩ := read
    cases hrest : decodeFrom (first + 1) (size - 1) rest <;> simp [hrest, eq_comm]

theorem decodeFrom_eq_ok_iff (bytes : List UInt8) :
    ∀ {first skip : Nat} {cs : List Char}, decodeFrom first skip bytes = .ok cs ↔
      bytes.drop skip = cs.flatMap String.utf8EncodeChar := by
  -- bytes to be skipped belong to the last character read, so that any number of them may be left
  induction bytes with
  | nil =>
    intro first skip cs
    cases cs with
    | nil => simp [decodeFrom]
    | cons c cs =>
      obtain ⟨b, l, tail, hc, -⟩ := exists_continues c
      simp [decodeFrom, hc]
  | cons b rest ih =>
    intro first skip cs
    cases skip with
    | succ skip => rw [decodeFrom, ih, List.drop_succ_cons]
    | zero =>
      rw [decodeFrom_cons_eq_ok_iff, List.drop_zero]
      constructor
      · rintro ⟨c, size, ds, hchar, hrest, rfl⟩
        obtain ⟨tail, after, hc, rfl, rfl⟩ := decodeChar_iff.mp hchar
        rw [ih, Nat.add_sub_cancel, List.drop_left] at hrest
        rw [List.flatMap_cons, hc, ← hrest, List.cons_append]
      · intro h
        cases cs with
        | nil => cases h
        | cons c ds =>
          obtain ⟨b', l, tail, hc, -⟩ := exists_continues c
          rw [List.flatMap_cons, hc, List.cons_append] at h
          obtain ⟨rfl, rfl⟩ := List.cons.inj h
          refine ⟨c, tail.length + 1, ds, decodeChar_iff.mpr ⟨tail, _, hc, rfl, rfl⟩, ?_, rfl⟩
          rw [ih, Nat.add_sub_cancel, List.drop_left]

/-- A text is read from its own bytes and from no others. -/
theorem decode_eq_ok_iff {bytes : List UInt8} {s : String} :
    decode bytes = .ok s ↔ bytes = encode s := by
  have hread : decode bytes = .ok s ↔ decodeFrom 0 0 bytes = .ok s.toList := by
    rw [decode]
    cases decodeFrom 0 0 bytes with
    | error e => simp
    | ok cs => simp [← String.toList_inj]
  rw [hread, decodeFrom_eq_ok_iff, List.drop_zero, encode]

end RelationalModels.Text.Utf8
