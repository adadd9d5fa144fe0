import RelationalModels.Proofs.JsonOutcomes

/-!
# Reading follows the grammar

A value is read from exactly the texts that write it, and an integer or a nesting is refused exactly
where the grammar reaches it. What can come of reading is known; here what the grammar has is read,
by induction on the fuel, which has to last for the length of the text. `read_eq_ok_iff` and
`read_eq_error_iff` put both directions together for a whole text.
-/

namespace RelationalModels.Json

open RelationalModels.Decimal RelationalModels.Text

/-! ### Where values start and end -/

def Starts (cs : List Char) : Prop := ∃ c rest, cs = c :: rest ∧ c ∉ endChars

theorem mem_endChars_of_isGap {c : Char} (h : isGap c = true) : c ∈ endChars := by
  simp only [isGap, Bool.or_eq_true, beq_iff_eq] at h
  rcases h with ((rfl | rfl) | rfl) | rfl <;> decide

theorem Starts.noneFirst {cs : List Char} (h : Starts cs) : NoneFirst isGap cs := by
  obtain ⟨c, rest, rfl, hc⟩ := h
  intro d hd
  obtain rfl := Option.some.inj hd
  exact Bool.eq_false_iff.mpr fun hgap => hc (mem_endChars_of_isGap hgap)

theorem Starts.ne {cs : List Char} (h : Starts cs) {c : Char} (hc : c ∈ endChars)
    (rest : List Char) : cs ≠ c :: rest := by
  obtain ⟨d, cs, rfl, hd⟩ := h
  rintro heq
  obtain ⟨rfl, -⟩ := List.cons.inj heq
  exact hd hc

theorem not_mem_endChars_of_isAsciiDigit {d : Char} (hd : isAsciiDigit d = true) :
    d ∉ endChars := by
  intro hmem
  have hnone : endChars.any isAsciiDigit = false := rfl
  exact List.any_eq_false.mp hnone d hmem hd

theorem starts_number {negative : Bool} {sign ws : List Char} (hsign : Minus negative sign)
    (hws : WholeDigits ws) (rest : List Char) : Starts (sign ++ (ws ++ rest)) := by
  obtain ⟨d, ds, rfl, hd⟩ := hws.exists_cons
  cases hsign with
  | none => exact ⟨d, _, rfl, not_mem_endChars_of_isAsciiDigit hd⟩
  | minus => exact ⟨'-', _, rfl, by decide⟩

theorem WritesString.starts {s : String} {cs : List Char} (h : WritesString s cs)
    (rest : List Char) : Starts (cs ++ rest) := by
  cases h with
  | quoted hbody => exact ⟨'"', _, rfl, by decide⟩

theorem Writes.starts {levels : Nat} {v : Value} {cs : List Char} (h : Writes levels v cs)
    (rest : List Char) : Starts (cs ++ rest) := by
  cases h with
  | word hword =>
    have hall : ∀ w ∈ words, ∃ c word, w.1 = c :: word ∧ c ∉ endChars := by
      simp only [words, List.forall_mem_cons]
      exact ⟨⟨_, _, rfl, by decide⟩, ⟨_, _, rfl, by decide⟩, ⟨_, _, rfl, by decide⟩,
        ⟨_, _, rfl, by decide⟩, ⟨_, _, rfl, by decide⟩, ⟨_, _, rfl, by decide⟩,
        List.forall_mem_nil _⟩
    obtain ⟨c, word, rfl, hc⟩ := hall _ hword
    exact ⟨c, word ++ rest, rfl, hc⟩
  | number hnumber =>
    cases hnumber with
    | integer hsign hwhole hlimit =>
      rw [List.append_assoc]
      exact starts_number hsign hwhole rest
    | float hsign hwhole hfraction hexponent hsome =>
      simp only [List.append_assoc]
      exact starts_number hsign hwhole _
  | text hstring => exact hstring.starts rest
  | emptyArray hgap => exact ⟨'[', _, rfl, by decide⟩
  | array hitems => exact ⟨'[', _, rfl, by decide⟩
  | emptyObject hgap => exact ⟨'{', _, rfl, by decide⟩
  | object hmembers => exact ⟨'{', _, rfl, by decide⟩

theorem ends_cons {c : Char} (hc : c ∈ endChars) (cs : List Char) : Ends (c :: cs) := by
  intro d hd
  obtain rfl := Option.some.inj hd
  exact hc

theorem ends_gap {gap rest : List Char} (hgap : ∀ c ∈ gap, isGap c = true) (hrest : Ends rest) :
    Ends (gap ++ rest) := by
  cases gap with
  | nil => exact hrest
  | cons c gap => exact ends_cons (mem_endChars_of_isGap (hgap c (List.mem_cons_self ..))) _

theorem skipBlank_encloses {item cs : List Char} (h : Encloses isGap item cs)
    (hitem : ∀ rest, Starts (item ++ rest)) (rest : List Char) :
    ∃ gap, (∀ c ∈ gap, isGap c = true) ∧ skipBlank (cs ++ rest) = item ++ (gap ++ rest) ∧
      item.length + gap.length ≤ cs.length := by
  obtain ⟨before, gap, rfl, hbefore, hgap⟩ := h
  refine ⟨gap, hgap, ?_, ?_⟩
  · rw [List.append_assoc, List.append_assoc, skipBlank_append hbefore (hitem _).noneFirst]
  · simp only [List.length_append]
    omega

theorem starts_encloses {item cs : List Char} (h : Encloses isGap item cs)
    (hitem : ∀ rest, Starts (item ++ rest)) (rest : List Char) :
    Starts (skipBlank (cs ++ rest)) := by
  obtain ⟨gap, -, hskip, -⟩ := skipBlank_encloses h hitem rest
  rw [hskip]
  exact hitem _

theorem WritesItems.starts {levels : Nat} {vs : List Value} {cs : List Char}
    (h : WritesItems levels vs cs) (rest : List Char) : Starts (skipBlank (cs ++ rest)) := by
  cases h with
  | last hitem hcs => exact starts_encloses hcs hitem.starts rest
  | next hitem hcs _ =>
    rw [List.append_assoc]
    exact starts_encloses hcs hitem.starts _

theorem WritesMembers.starts {levels : Nat} {members : List (String × Value)} {cs : List Char}
    (h : WritesMembers levels members cs) (rest : List Char) :
    Starts (skipBlank (cs ++ rest)) := by
  cases h with
  | last hname hlabel _ _ =>
    rw [List.append_assoc]
    exact starts_encloses hlabel hname.starts _
  | next hname hlabel _ _ _ =>
    rw [List.append_assoc]
    exact starts_encloses hlabel hname.starts _

/-! ### What the grammar has is read -/

theorem readValue_word {fuel levels : Nat} {word : List Char} {v : Value}
    (hword : (word, v) ∈ words) (rest : List Char) :
    readValue (fuel + 1) levels (word ++ rest) = .ok (v, rest) := by
  have hall : ∀ w ∈ words, readValue (fuel + 1) levels (w.1 ++ rest) = .ok (w.2, rest) := by
    simp only [words, List.forall_mem_cons]
    exact ⟨rfl, rfl, rfl, rfl, rfl, rfl, List.forall_mem_nil _⟩
  exact hall _ hword

theorem readValue_whole {fuel levels : Nat} {negative : Bool} {sign ws : List Char}
    (hsign : Minus negative sign) (hws : WholeDigits ws) (rest : List Char) :
    readValue (fuel + 1) levels (sign ++ (ws ++ rest)) = readAtom (sign ++ (ws ++ rest)) := by
  obtain ⟨d, ds, rfl, hd⟩ := hws.exists_cons
  refine readValue_atom fun c hc => ?_
  cases hsign with
  | none =>
    obtain rfl := Option.some.inj hc
    refine ⟨?_, ?_, ?_⟩ <;>
    · rintro rfl
      exact absurd hd (by decide)
  | minus =>
    obtain rfl := Option.some.inj hc
    decide

theorem readValue_number {fuel levels : Nat} {v : Value} {cs rest : List Char}
    (h : WritesNumber v cs) (hrest : Ends rest) :
    readValue (fuel + 1) levels (cs ++ rest) = .ok (v, rest) := by
  rw [← readAtom_number h hrest]
  cases h with
  | integer hsign hwhole hlimit =>
    rw [List.append_assoc]
    exact readValue_whole hsign hwhole rest
  | float hsign hwhole hfraction hexponent hsome =>
    simp only [List.append_assoc]
    exact readValue_whole hsign hwhole _

theorem readValue_text {fuel levels : Nat} {s : String} {cs : List Char} (h : WritesString s cs)
    (rest : List Char) : readValue (fuel + 1) levels (cs ++ rest) = .ok (.text s, rest) := by
  cases h with
  | @quoted ns body hbody =>
    have hread : readString? (body ++ '"' :: rest) = some (String.ofList (joinUnits ns), rest) := by
      refine readString?_eq_some_iff.mpr ⟨_, .quoted hbody, ?_⟩
      rw [List.cons_append, List.append_assoc, List.singleton_append]
    rw [List.cons_append, List.append_assoc, List.singleton_append, readValue_string, hread]

/-- With so much fuel every value is read that is not longer, whatever may follow it. -/
def ReadsValues (fuel : Nat) : Prop :=
  ∀ ⦃levels : Nat⦄ ⦃v : Value⦄ ⦃cs rest : List Char⦄, Writes levels v cs → cs.length ≤ fuel →
    Ends rest → readValue fuel levels (cs ++ rest) = .ok (v, rest)

def ReadsItems (fuel : Nat) : Prop :=
  ∀ ⦃levels : Nat⦄ ⦃vs : List Value⦄ ⦃cs rest : List Char⦄, WritesItems levels vs cs →
    cs.length + 1 ≤ fuel → readItems fuel levels (skipBlank (cs ++ ']' :: rest)) = .ok (vs, rest)

def ReadsMembers (fuel : Nat) : Prop :=
  ∀ ⦃levels : Nat⦄ ⦃members : List (String × Value)⦄ ⦃cs rest : List Char⦄,
    WritesMembers levels members cs → cs.length + 1 ≤ fuel →
      readMembers fuel levels (skipBlank (cs ++ '}' :: rest)) = .ok (members, rest)

theorem readValue_of_writes {fuel : Nat} (hitems : ReadsItems fuel) (hmembers : ReadsMembers fuel) :
    ReadsValues (fuel + 1) := by
  intro levels v cs rest h hfuel hrest
  cases h with
  | word hword => exact readValue_word hword rest
  | number hnumber => exact readValue_number hnumber hrest
  | text hstring => exact readValue_text hstring rest
  | emptyArray hgap =>
    rw [List.cons_append, List.append_assoc]
    exact readValue_emptyArray (skipBlank_append hgap (noneFirst_cons rfl _))
  | array hwrites =>
    simp only [List.length_cons, List.length_append, List.length_nil] at hfuel
    rw [List.cons_append, List.append_assoc, List.singleton_append,
      readValue_array ((hwrites.starts _).ne (by decide)), hitems hwrites (by omega)]
    rfl
  | emptyObject hgap =>
    rw [List.cons_append, List.append_assoc]
    exact readValue_emptyObject (skipBlank_append hgap (noneFirst_cons rfl _))
  | object hwrites =>
    simp only [List.length_cons, List.length_append, List.length_nil] at hfuel
    rw [List.cons_append, List.append_assoc, List.singleton_append,
      readValue_object ((hwrites.starts _).ne (by decide)), hmembers hwrites (by omega)]
    rfl

theorem ReadsValues.enclosed {fuel levels : Nat} {v : Value} {item cs : List Char} {c : Char}
    (hvalue : ReadsValues fuel) (hitem : Writes levels v item) (hcs : Encloses isGap item cs)
    (hfuel : cs.length ≤ fuel) (hc : c ∈ endChars ∧ isGap c = false) (rest : List Char) :
    ∃ behind, readValue fuel levels (skipBlank (cs ++ c :: rest)) = .ok (v, behind) ∧
      skipBlank behind = c :: rest := by
  obtain ⟨gap, hgap, hskip, hlength⟩ := skipBlank_encloses hcs hitem.starts (c :: rest)
  rw [hskip]
  exact ⟨gap ++ c :: rest, hvalue hitem (by omega) (ends_gap hgap (ends_cons hc.1 rest)),
    skipBlank_append hgap (noneFirst_cons hc.2 rest)⟩

theorem readItems_of_writes {fuel : Nat} (hvalue : ReadsValues fuel) (hitems : ReadsItems fuel) :
    ReadsItems (fuel + 1) := by
  intro levels vs cs rest h hfuel
  cases h with
  | last hitem hcs =>
    obtain ⟨behind, hread, hend⟩ := hvalue.enclosed (c := ']') hitem hcs (by omega) (by decide) rest
    exact readItems_last hread hend
  | next hitem hcs hrest =>
    simp only [List.length_cons, List.length_append] at hfuel
    rw [List.append_assoc, List.cons_append]
    obtain ⟨behind, hread, hcomma⟩ := hvalue.enclosed (c := ',') hitem hcs (by omega) (by decide) _
    rw [readItems_next hread hcomma, hitems hrest (by omega)]
    rfl

theorem labelled_of_writes {name : String} {quoted label : List Char}
    (hname : WritesString name quoted) (hlabel : Encloses isGap quoted label) (cs : List Char) :
    Labelled name (skipBlank (label ++ ':' :: cs)) (skipBlank cs) := by
  obtain ⟨gap, hgap, hskip, -⟩ := skipBlank_encloses hlabel hname.starts (':' :: cs)
  have hcolon : skipBlank (gap ++ ':' :: cs) = ':' :: cs :=
    skipBlank_append hgap (noneFirst_cons rfl _)
  cases hname with
  | @quoted ns body hbody =>
    rw [List.cons_append, List.append_assoc] at hskip
    refine ⟨_, _, cs, hskip, ?_, hcolon, rfl⟩
    refine readString?_eq_some_iff.mpr ⟨_, .quoted hbody, ?_⟩
    simp only [List.cons_append, List.append_assoc]

theorem readMembers_of_writes {fuel : Nat} (hvalue : ReadsValues fuel)
    (hmembers : ReadsMembers fuel) : ReadsMembers (fuel + 1) := by
  intro levels members cs rest h hfuel
  cases h with
  | last hname hlabel hitem hcs =>
    simp only [List.length_cons, List.length_append] at hfuel
    rw [List.append_assoc, List.cons_append]
    obtain ⟨behind, hread, hend⟩ := hvalue.enclosed (c := '}') hitem hcs (by omega) (by decide) rest
    exact readMembers_last (labelled_of_writes hname hlabel _) hread hend
  | next hname hlabel hitem hcs hrest =>
    simp only [List.length_cons, List.length_append] at hfuel
    simp only [List.append_assoc, List.cons_append]
    obtain ⟨behind, hread, hcomma⟩ := hvalue.enclosed (c := ',') hitem hcs (by omega) (by decide) _
    rw [readMembers_next (labelled_of_writes hname hlabel _) hread hcomma,
      hmembers hrest (by omega)]
    rfl

theorem read_of_writes (fuel : Nat) :
    ReadsValues fuel ∧ ReadsItems fuel ∧ ReadsMembers fuel := by
  induction fuel with
  | zero =>
    refine ⟨?_, fun _ _ _ _ _ hfuel => absurd hfuel (Nat.not_succ_le_zero _),
      fun _ _ _ _ _ hfuel => absurd hfuel (Nat.not_succ_le_zero _)⟩
    -- no value is written by nothing
    intro levels v cs rest h hfuel _
    obtain rfl := List.length_eq_zero_iff.mp (Nat.le_zero.mp hfuel)
    obtain ⟨c, cs, hcs, -⟩ := h.starts []
    cases hcs
  | succ fuel ih =>
    obtain ⟨hvalue, hitems, hmembers⟩ := ih
    exact ⟨readValue_of_writes hitems hmembers, readItems_of_writes hvalue hitems,
      readMembers_of_writes hvalue hmembers⟩

/-! ### What stands in the way is refused -/

theorem Refused.starts {left : Nat} {e : ReadError} {cs : List Char} (h : Refused left e cs) :
    Starts cs := by
  cases h with
  | integer hinteger =>
    obtain ⟨negative, sign, ws, rest, hsign, hwhole, -, rfl, -, -⟩ := hinteger
    exact starts_number hsign hwhole rest
  | array => exact ⟨'[', _, rfl, by decide⟩
  | object => exact ⟨'{', _, rfl, by decide⟩

theorem Refused.not_read {left : Nat} {e : ReadError} {cs : List Char} (h : Refused left e cs)
    (fuel : Nat) : readValue (fuel + 1) left cs = .error e := by
  cases h with
  | integer hinteger =>
    rw [← readAtom_oversized hinteger]
    obtain ⟨negative, sign, ws, rest, hsign, hwhole, -, rfl, -, -⟩ := hinteger
    exact readValue_whole hsign hwhole rest
  | array => rfl
  | object => rfl

theorem Reaches.starts {levels left : Nat} {e : ReadError} {before rest : List Char}
    (h : Reaches levels left before) (hrefused : Refused left e rest) :
    Starts (before ++ rest) := by
  cases h with
  | here => exact hrefused.starts
  | array hitem => exact ⟨'[', _, rfl, by decide⟩
  | object hmember => exact ⟨'{', _, rfl, by decide⟩

theorem ReachesItem.starts {levels left : Nat} {e : ReadError} {before rest : List Char}
    (h : ReachesItem levels left before) (hrefused : Refused left e rest) :
    Starts (skipBlank (before ++ rest)) := by
  cases h with
  | within hgap hcs =>
    rw [List.append_assoc, skipBlank_append hgap (hcs.starts hrefused).noneFirst]
    exact hcs.starts hrefused
  | behind hitem hcs _ =>
    rw [List.append_assoc]
    exact starts_encloses hcs hitem.starts _

theorem ReachesMember.starts {levels left : Nat} {before : List Char}
    (h : ReachesMember levels left before) (rest : List Char) :
    Starts (skipBlank (before ++ rest)) := by
  cases h with
  | within hname hlabel _ _ =>
    rw [List.append_assoc]
    exact starts_encloses hlabel hname.starts _
  | behind hname hlabel _ _ _ =>
    rw [List.append_assoc]
    exact starts_encloses hlabel hname.starts _

section Refusing

variable {fuel : Nat} {e : ReadError} {rest : List Char}

-- An opening bracket costs two steps, one for the value and one for what it holds, so the fuel has
-- to last for twice the length of what is reached.

/-- With so much fuel a value is refused for what is refused within it. -/
def RefusesValues (e : ReadError) (rest : List Char) (fuel : Nat) : Prop :=
  ∀ ⦃levels left : Nat⦄ ⦃before : List Char⦄, Reaches levels left before → Refused left e rest →
    2 * before.length + 1 ≤ fuel → readValue fuel levels (before ++ rest) = .error e

def RefusesItems (e : ReadError) (rest : List Char) (fuel : Nat) : Prop :=
  ∀ ⦃levels left : Nat⦄ ⦃before : List Char⦄, ReachesItem levels left before →
    Refused left e rest → 2 * before.length + 2 ≤ fuel →
      readItems fuel levels (skipBlank (before ++ rest)) = .error e

def RefusesMembers (e : ReadError) (rest : List Char) (fuel : Nat) : Prop :=
  ∀ ⦃levels left : Nat⦄ ⦃before : List Char⦄, ReachesMember levels left before →
    Refused left e rest → 2 * before.length + 2 ≤ fuel →
      readMembers fuel levels (skipBlank (before ++ rest)) = .error e

theorem readValue_of_reaches (hitems : RefusesItems e rest fuel)
    (hmembers : RefusesMembers e rest fuel) : RefusesValues e rest (fuel + 1) := by
  intro levels left before h hrefused hfuel
  cases h with
  | here => exact hrefused.not_read fuel
  | array hbefore =>
    rw [List.length_cons] at hfuel
    rw [List.cons_append, readValue_array ((hbefore.starts hrefused).ne (by decide)),
      hitems hbefore hrefused (by omega)]
    rfl
  | object hbefore =>
    rw [List.length_cons] at hfuel
    rw [List.cons_append, readValue_object ((hbefore.starts rest).ne (by decide)),
      hmembers hbefore hrefused (by omega)]
    rfl

theorem readItems_of_reaches (hvalue : RefusesValues e rest fuel)
    (hitems : RefusesItems e rest fuel) : RefusesItems e rest (fuel + 1) := by
  intro levels left before h hrefused hfuel
  cases h with
  | within hgap hcs =>
    rw [List.length_append] at hfuel
    rw [List.append_assoc, skipBlank_append hgap (hcs.starts hrefused).noneFirst]
    exact readItems_error (hvalue hcs hrefused (by omega))
  | behind hitem hcs hbefore =>
    simp only [List.length_cons, List.length_append] at hfuel
    rw [List.append_assoc, List.cons_append]
    -- the item in front of the comma is complete, so it is read
    obtain ⟨behind, hread, hcomma⟩ :=
      (read_of_writes fuel).1.enclosed (c := ',') hitem hcs (by omega) (by decide) _
    rw [readItems_next hread hcomma, hitems hbefore hrefused (by omega)]
    rfl

theorem readMembers_of_reaches (hvalue : RefusesValues e rest fuel)
    (hmembers : RefusesMembers e rest fuel) : RefusesMembers e rest (fuel + 1) := by
  intro levels left before h hrefused hfuel
  cases h with
  | @within _ _ _ _ label gap cs hname hlabel hgap hcs =>
    simp only [List.length_cons, List.length_append] at hfuel
    simp only [List.append_assoc, List.cons_append]
    have hlabelled := labelled_of_writes hname hlabel (gap ++ (cs ++ rest))
    rw [skipBlank_append hgap (hcs.starts hrefused).noneFirst] at hlabelled
    exact readMembers_error hlabelled (hvalue hcs hrefused (by omega))
  | behind hname hlabel hitem hcs hbefore =>
    simp only [List.length_cons, List.length_append] at hfuel
    simp only [List.append_assoc, List.cons_append]
    obtain ⟨behind, hread, hcomma⟩ :=
      (read_of_writes fuel).1.enclosed (c := ',') hitem hcs (by omega) (by decide) _
    rw [readMembers_next (labelled_of_writes hname hlabel _) hread hcomma,
      hmembers hbefore hrefused (by omega)]
    rfl

theorem read_of_reaches (e : ReadError) (rest : List Char) (fuel : Nat) :
    RefusesValues e rest fuel ∧ RefusesItems e rest fuel ∧ RefusesMembers e rest fuel := by
  induction fuel with
  | zero =>
    exact ⟨fun _ _ _ _ _ hfuel => absurd hfuel (Nat.not_succ_le_zero _),
      fun _ _ _ _ _ hfuel => absurd hfuel (Nat.not_succ_le_zero _),
      fun _ _ _ _ _ hfuel => absurd hfuel (Nat.not_succ_le_zero _)⟩
  | succ fuel ih =>
    obtain ⟨hvalue, hitems, hmembers⟩ := ih
    exact ⟨readValue_of_reaches hitems hmembers, readItems_of_reaches hvalue hitems,
      readMembers_of_reaches hvalue hmembers⟩

end Refusing

/-! ### Whole texts -/

theorem read_eq_ok_iff {v : Value} {s : String} : read s = .ok v ↔ Document v s := by
  rw [read]
  constructor
  · intro h
    have hread := (read_outcome (2 * (skipBlank s.toList).length + 2)).1 maxNesting
      (skipBlank s.toList)
    rcases hresult : readValue (2 * (skipBlank s.toList).length + 2) maxNesting
      (skipBlank s.toList) with e | ⟨u, rest⟩
    · simp [hresult] at h
    · simp only [hresult] at h hread
      obtain ⟨cs, hcs, hbehind⟩ := hread.ok
      split at h
      · next hempty =>
        obtain rfl := Except.ok.inj h
        obtain ⟨before, hs, hbefore⟩ := exists_gap_skipBlank s.toList
        obtain ⟨after, hrest, hafter⟩ := exists_gap_skipBlank rest
        rw [List.isEmpty_iff.mp hempty, List.append_nil] at hrest
        refine ⟨cs, hcs, before, after, ?_, hbefore, hafter⟩
        rw [hs, hbehind, hrest, List.append_assoc]
      · cases h
  · rintro ⟨cs, hcs, hs⟩
    obtain ⟨gap, hgap, hskip, -⟩ := skipBlank_encloses hs hcs.starts []
    rw [List.append_nil] at hskip
    have hread : readValue (2 * (skipBlank s.toList).length + 2) maxNesting (skipBlank s.toList) =
        .ok (v, gap ++ []) := by
      rw [hskip]
      refine (read_of_writes _).1 hcs ?_ (ends_gap hgap nofun)
      rw [List.length_append]
      omega
    have hrest : skipBlank (gap ++ []) = [] := skipBlank_append hgap nofun
    simp only [hread, hrest, List.isEmpty_nil, if_true]

/-- A number or a nesting is refused when the grammar reaches it and in no other case. -/
theorem read_eq_error_iff {e : ReadError} (he : e ≠ .malformed) {s : String} :
    read s = .error e ↔ RefusedText e s := by
  rw [read]
  constructor
  · intro h
    have hread := (read_outcome (2 * (skipBlank s.toList).length + 2)).1 maxNesting
      (skipBlank s.toList)
    rcases hresult : readValue (2 * (skipBlank s.toList).length + 2) maxNesting
      (skipBlank s.toList) with e' | ⟨v, rest⟩
    · simp only [hresult, Except.error.injEq] at h hread
      subst h
      cases hread with
      | malformed => exact absurd rfl he
      | refused hreaches hrefused hcs =>
        obtain ⟨gap, hs, hgap⟩ := exists_gap_skipBlank s.toList
        exact ⟨_, _, _, _, hreaches, hrefused, hcs, gap, hgap, hs⟩
    · simp only [hresult] at h
      split at h
      · cases h
      · exact absurd (Except.error.inj h).symm he
  · rintro ⟨left, before, rest, _, hreaches, hrefused, rfl, gap, hgap, hs⟩
    have hskip : skipBlank s.toList = before ++ rest := by
      rw [hs]
      exact skipBlank_append hgap (hreaches.starts hrefused).noneFirst
    have hread : readValue (2 * (before ++ rest).length + 2) maxNesting (before ++ rest) =
        .error e := by
      refine (read_of_reaches e rest _).1 hreaches hrefused ?_
      rw [List.length_append]
      omega
    simp only [hskip, hread]

theorem refusedText_iff {e : ReadError} {s : String} :
    RefusedText e s ↔ read s = .error e ∧ e ≠ .malformed := by
  constructor
  · intro h
    have he : e ≠ .malformed := by
      rintro rfl
      obtain ⟨left, before, rest, cs, -, hrefused, -⟩ := h
      cases hrefused
    exact ⟨(read_eq_error_iff he).mpr h, he⟩
  · rintro ⟨h, he⟩
    exact (read_eq_error_iff he).mp h

end RelationalModels.Json
