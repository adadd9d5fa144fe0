import RelationalModels.Proofs.JsonTokens

/-!
# What can come of reading JSON

Reading a text has three outcomes: a value that the beginning of the text writes, something that is
refused where the grammar reaches it, or an error of which no more is said. `read_outcome` states it
for values, for the items of arrays and for the members of objects at once, by induction on the fuel
of the reader; one step of the reader is stated apart, for each way in which it can go on.
-/

namespace RelationalModels.Json

open RelationalModels.Decimal RelationalModels.Text

/-! ### Gaps in front -/

theorem encloses_gap {gap item cs : List Char} (hgap : ∀ c ∈ gap, isGap c = true)
    (h : Encloses isGap item cs) : Encloses isGap item (gap ++ cs) := by
  obtain ⟨before, after, rfl, hbefore, hafter⟩ := h
  refine ⟨gap ++ before, after, by simp only [List.append_assoc], ?_, hafter⟩
  exact List.forall_mem_append.mpr ⟨hgap, hbefore⟩

theorem WritesItems.gap {levels : Nat} {vs : List Value} {gap cs : List Char}
    (hgap : ∀ c ∈ gap, isGap c = true) (h : WritesItems levels vs cs) :
    WritesItems levels vs (gap ++ cs) := by
  cases h with
  | last hitem hcs => exact .last hitem (encloses_gap hgap hcs)
  | next hitem hcs hrest =>
    rw [← List.append_assoc]
    exact .next hitem (encloses_gap hgap hcs) hrest

theorem WritesMembers.gap {levels : Nat} {members : List (String × Value)} {gap cs : List Char}
    (hgap : ∀ c ∈ gap, isGap c = true) (h : WritesMembers levels members cs) :
    WritesMembers levels members (gap ++ cs) := by
  cases h with
  | last hname hlabel hitem hcs =>
    rw [← List.append_assoc]
    exact .last hname (encloses_gap hgap hlabel) hitem hcs
  | next hname hlabel hitem hcs hrest =>
    rw [← List.append_assoc]
    exact .next hname (encloses_gap hgap hlabel) hitem hcs hrest

theorem ReachesItem.gap {levels left : Nat} {gap cs : List Char}
    (hgap : ∀ c ∈ gap, isGap c = true) (h : ReachesItem levels left cs) :
    ReachesItem levels left (gap ++ cs) := by
  cases h with
  | within hgap' hcs =>
    rw [← List.append_assoc]
    exact .within (List.forall_mem_append.mpr ⟨hgap, hgap'⟩) hcs
  | behind hitem hcs hrest =>
    rw [← List.append_assoc]
    exact .behind hitem (encloses_gap hgap hcs) hrest

theorem ReachesMember.gap {levels left : Nat} {gap cs : List Char}
    (hgap : ∀ c ∈ gap, isGap c = true) (h : ReachesMember levels left cs) :
    ReachesMember levels left (gap ++ cs) := by
  cases h with
  | within hname hlabel hgap' hcs =>
    rw [← List.append_assoc]
    exact .within hname (encloses_gap hgap hlabel) hgap' hcs
  | behind hname hlabel hitem hcs hrest =>
    rw [← List.append_assoc]
    exact .behind hname (encloses_gap hgap hlabel) hitem hcs hrest

/-! ### One step of the reader -/

section Steps

variable {fuel levels : Nat} {cs rest after more : List Char} {e : ReadError} {v : Value}
  {name : String}

theorem readValue_string :
    readValue (fuel + 1) levels ('"' :: cs) =
      match readString? cs with
      | some (s, after) => .ok (.text s, after)
      | none => .error .malformed := rfl

theorem readValue_emptyArray (hend : skipBlank cs = ']' :: after) :
    readValue (fuel + 1) (levels + 1) ('[' :: cs) = .ok (.list [], after) := by
  simp only [readValue, hend]

theorem readValue_emptyObject (hend : skipBlank cs = '}' :: after) :
    readValue (fuel + 1) (levels + 1) ('{' :: cs) = .ok (.map [], after) := by
  simp only [readValue, hend]

theorem readValue_array (hitem : ∀ after, skipBlank cs ≠ ']' :: after) :
    readValue (fuel + 1) (levels + 1) ('[' :: cs) =
      (readItems fuel levels (skipBlank cs)).map fun r => (.list r.1, r.2) := by
  simp only [readValue]
  split
  · next hread => rw [hread]; rfl
  · next hread => rw [hread]; rfl

theorem readValue_object (hmember : ∀ after, skipBlank cs ≠ '}' :: after) :
    readValue (fuel + 1) (levels + 1) ('{' :: cs) =
      (readMembers fuel levels (skipBlank cs)).map fun r =>
        (.map (OrderedMap.ofList r.1).entries, r.2) := by
  simp only [readValue]
  split
  · next hread => rw [hread]; rfl
  · next hread => rw [hread]; rfl

theorem readValue_atom (hcs : ∀ c ∈ cs.head?, c ≠ '"' ∧ c ≠ '[' ∧ c ≠ '{') :
    readValue (fuel + 1) levels cs = readAtom cs := by
  rw [readValue.eq_def]
  simp only
  split
  · exact absurd rfl (hcs '"' rfl).1
  · exact absurd rfl (hcs '[' rfl).2.1
  · exact absurd rfl (hcs '{' rfl).2.2
  · rfl

theorem readItems_error (hvalue : readValue fuel levels cs = .error e) :
    readItems (fuel + 1) levels cs = .error e := by
  simp only [readItems, hvalue]

theorem readItems_last (hvalue : readValue fuel levels cs = .ok (v, rest))
    (hend : skipBlank rest = ']' :: after) :
    readItems (fuel + 1) levels cs = .ok ([v], after) := by
  simp only [readItems, hvalue, hend]

theorem readItems_next (hvalue : readValue fuel levels cs = .ok (v, rest))
    (hcomma : skipBlank rest = ',' :: more) :
    readItems (fuel + 1) levels cs =
      (readItems fuel levels (skipBlank more)).map fun r => (v :: r.1, r.2) := by
  simp only [readItems, hvalue, hcomma]
  cases readItems fuel levels (skipBlank more) <;> rfl

theorem readItems_malformed (hvalue : readValue fuel levels cs = .ok (v, rest))
    (hend : ∀ after, skipBlank rest ≠ ']' :: after)
    (hcomma : ∀ more, skipBlank rest ≠ ',' :: more) :
    readItems (fuel + 1) levels cs = .error .malformed := by
  simp only [readItems, hvalue]

def Labelled (name : String) (cs rest : List Char) : Prop :=
  ∃ body afterName afterColon, cs = '"' :: body ∧ readString? body = some (name, afterName) ∧
    skipBlank afterName = ':' :: afterColon ∧ rest = skipBlank afterColon

theorem readMembers_error (hname : Labelled name cs rest)
    (hvalue : readValue fuel levels rest = .error e) :
    readMembers (fuel + 1) levels cs = .error e := by
  obtain ⟨body, afterName, afterColon, rfl, hstring, hcolon, rfl⟩ := hname
  simp only [readMembers, hstring, hcolon, hvalue]

theorem readMembers_last (hname : Labelled name cs more)
    (hvalue : readValue fuel levels more = .ok (v, rest)) (hend : skipBlank rest = '}' :: after) :
    readMembers (fuel + 1) levels cs = .ok ([(name, v)], after) := by
  obtain ⟨body, afterName, afterColon, rfl, hstring, hcolon, rfl⟩ := hname
  simp only [readMembers, hstring, hcolon, hvalue, hend]

theorem readMembers_next {inner : List Char} (hname : Labelled name cs inner)
    (hvalue : readValue fuel levels inner = .ok (v, rest))
    (hcomma : skipBlank rest = ',' :: more) :
    readMembers (fuel + 1) levels cs =
      (readMembers fuel levels (skipBlank more)).map fun r => ((name, v) :: r.1, r.2) := by
  obtain ⟨body, afterName, afterColon, rfl, hstring, hcolon, rfl⟩ := hname
  simp only [readMembers, hstring, hcolon, hvalue, hcomma]
  cases readMembers fuel levels (skipBlank more) <;> rfl

theorem readMembers_malformed (hname : Labelled name cs more)
    (hvalue : readValue fuel levels more = .ok (v, rest))
    (hend : ∀ after, skipBlank rest ≠ '}' :: after)
    (hcomma : ∀ more, skipBlank rest ≠ ',' :: more) :
    readMembers (fuel + 1) levels cs = .error .malformed := by
  obtain ⟨body, afterName, afterColon, rfl, hstring, hcolon, rfl⟩ := hname
  simp only [readMembers, hstring, hcolon, hvalue]

theorem readMembers_unlabelled (hname : ∀ name rest, ¬ Labelled name cs rest) :
    readMembers (fuel + 1) levels cs = .error .malformed := by
  rw [readMembers.eq_def]
  simp only
  split
  · next body =>
    cases hstring : readString? body with
    | none => rfl
    | some found =>
      obtain ⟨name, afterName⟩ := found
      simp only
      split
      · next afterColon hcolon => exact absurd ⟨body, _, _, rfl, hstring, hcolon, rfl⟩ (hname _ _)
      · rfl
  · rfl

end Steps

theorem Labelled.sound {name : String} {cs rest : List Char} (h : Labelled name cs rest) :
    ∃ quoted label gap, WritesString name quoted ∧ Encloses isGap quoted label ∧
      (∀ c ∈ gap, isGap c = true) ∧ cs = label ++ ':' :: (gap ++ rest) := by
  obtain ⟨body, afterName, afterColon, rfl, hstring, hcolon, rfl⟩ := h
  obtain ⟨quoted, hquoted, hbody⟩ := readString?_eq_some_iff.mp hstring
  obtain ⟨behind, hafterName, hbehind⟩ := exists_gap_skipBlank afterName
  obtain ⟨gap, hafterColon, hgap⟩ := exists_gap_skipBlank afterColon
  refine ⟨quoted, quoted ++ behind, gap, hquoted, ⟨[], behind, rfl, nofun, hbehind⟩, hgap, ?_⟩
  rw [hbody, hafterName, hcolon, ← hafterColon, List.append_assoc]

/-! ### What can come of reading -/

def ClosedBy {α : Type} (close : Char) (writes : α → List Char → Prop) (a : α) (text : List Char) :
    Prop :=
  ∃ body, writes a body ∧ text = body ++ [close]

abbrev ValueOutcome (levels : Nat) := Outcome (Writes levels) (Reaches levels)

abbrev ItemsOutcome (levels : Nat) :=
  Outcome (ClosedBy ']' (WritesItems levels)) (ReachesItem levels)

abbrev MembersOutcome (levels : Nat) :=
  Outcome (ClosedBy '}' (WritesMembers levels)) (ReachesMember levels)

section Outcomes

variable {α β : Type} {writes : α → List Char → Prop} {writes' : β → List Char → Prop}
  {reaches reaches' : Nat → List Char → Prop} {cs : List Char}

theorem Outcome.error {e : ReadError} (h : Outcome writes reaches cs (.error e))
    (front : List Char) (hreaches : ∀ left before, reaches left before →
      reaches' left (front ++ before)) : Outcome writes' reaches' (front ++ cs) (.error e) := by
  cases h with
  | malformed => exact .malformed
  | refused hbefore hrefused hcs =>
    refine .refused (hreaches _ _ hbefore) hrefused ?_
    rw [hcs, List.append_assoc]

theorem Outcome.ok {a : α} {rest : List Char} (h : Outcome writes reaches cs (.ok (a, rest))) :
    ∃ text, writes a text ∧ cs = text ++ rest := by
  cases h with
  | read hwrites hcs => exact ⟨_, hwrites, hcs⟩

theorem Outcome.map {r : Except ReadError (α × List Char)} (h : Outcome writes reaches cs r)
    (front : List Char) (f : α → β)
    (hwrites : ∀ a text, writes a text → writes' (f a) (front ++ text))
    (hreaches : ∀ left before, reaches left before → reaches' left (front ++ before)) :
    Outcome writes' reaches' (front ++ cs) (r.map fun r => (f r.1, r.2)) := by
  cases r with
  | error e => exact h.error front hreaches
  | ok r =>
    obtain ⟨text, htext, rfl⟩ := h.ok
    exact .read (hwrites _ _ htext) (List.append_assoc ..).symm

theorem Outcome.bracketed {levels : Nat} {opening close : Char}
    {r : Except ReadError (α × List Char)} {f : α → Value}
    (h : Outcome (ClosedBy close writes) reaches (skipBlank cs) r)
    (hwrites : ∀ gap a body, (∀ c ∈ gap, isGap c = true) → writes a body →
      Writes levels (f a) (opening :: (gap ++ body ++ [close])))
    (hreaches : ∀ gap left before, (∀ c ∈ gap, isGap c = true) → reaches left before →
      Reaches levels left (opening :: (gap ++ before))) :
    ValueOutcome levels (opening :: cs) (r.map fun r => (f r.1, r.2)) := by
  obtain ⟨gap, hcs, hgap⟩ := exists_gap_skipBlank cs
  have hwhole : ValueOutcome levels (opening :: gap ++ skipBlank cs)
      (r.map fun r => (f r.1, r.2)) := by
    refine h.map (opening :: gap) f ?_ fun left before hbefore => hreaches _ _ _ hgap hbefore
    rintro a _ ⟨body, hbody, rfl⟩
    rw [List.cons_append, ← List.append_assoc]
    exact hwrites _ _ _ hgap hbody
  rwa [List.cons_append, ← hcs] at hwhole

variable {close : Char} {front rest after more : List Char}

theorem Outcome.last {a : α} (hend : skipBlank rest = close :: after)
    (hlast : ∀ gap, (∀ c ∈ gap, isGap c = true) → writes a (front ++ gap)) :
    Outcome (ClosedBy close writes) reaches (front ++ rest) (.ok (a, after)) := by
  obtain ⟨gap, hrest, hgap⟩ := exists_gap_skipBlank rest
  refine .read ⟨_, hlast gap hgap, rfl⟩ ?_
  rw [hrest, hend, List.append_assoc, List.append_assoc, List.singleton_append]

theorem Outcome.next {r : Except ReadError (α × List Char)} {f : α → α}
    (hcomma : skipBlank rest = ',' :: more)
    (h : Outcome (ClosedBy close writes) reaches (skipBlank more) r)
    (hwrites : ∀ gap gap' a body, (∀ c ∈ gap, isGap c = true) → (∀ c ∈ gap', isGap c = true) →
      writes a body → writes (f a) (front ++ gap ++ ',' :: (gap' ++ body)))
    (hreaches : ∀ gap gap' left before, (∀ c ∈ gap, isGap c = true) →
      (∀ c ∈ gap', isGap c = true) → reaches left before →
        reaches left (front ++ gap ++ ',' :: (gap' ++ before))) :
    Outcome (ClosedBy close writes) reaches (front ++ rest) (r.map fun r => (f r.1, r.2)) := by
  obtain ⟨gap, hrest, hgap⟩ := exists_gap_skipBlank rest
  obtain ⟨gap', hmore, hgap'⟩ := exists_gap_skipBlank more
  have hwhole : Outcome (ClosedBy close writes) reaches
      (front ++ gap ++ ',' :: gap' ++ skipBlank more) (r.map fun r => (f r.1, r.2)) := by
    refine h.map (front ++ gap ++ ',' :: gap') f ?_ fun left before hbefore => ?_
    · rintro a _ ⟨body, hbody, rfl⟩
      refine ⟨_, hwrites gap gap' a body hgap hgap' hbody, ?_⟩
      simp only [List.append_assoc, List.cons_append]
    · rw [List.append_assoc, List.cons_append]
      exact hreaches gap gap' left before hgap hgap' hbefore
  rwa [List.append_assoc, List.cons_append, ← hmore, List.append_assoc, ← hcomma, ← hrest] at hwhole

end Outcomes

theorem readValue_array_outcome {fuel : Nat}
    (hitems : ∀ levels cs, ItemsOutcome levels cs (readItems fuel levels cs))
    (levels : Nat) (cs : List Char) :
    ValueOutcome levels ('[' :: cs) (readValue (fuel + 1) levels ('[' :: cs)) := by
  cases levels with
  | zero => exact .refused .here .array rfl
  | succ levels =>
    by_cases hend : ∃ after, skipBlank cs = ']' :: after
    · obtain ⟨after, hend⟩ := hend
      obtain ⟨gap, hcs, hgap⟩ := exists_gap_skipBlank cs
      rw [readValue_emptyArray hend]
      refine .read (.emptyArray hgap) ?_
      rw [hcs, hend, List.cons_append, List.append_assoc, List.singleton_append]
    · rw [readValue_array (not_exists.mp hend)]
      exact (hitems levels (skipBlank cs)).bracketed
        (fun _ _ _ hgap hbody => .array (hbody.gap hgap))
        fun _ _ _ hgap hbefore => .array (hbefore.gap hgap)

theorem readValue_object_outcome {fuel : Nat}
    (hmembers : ∀ levels cs, MembersOutcome levels cs (readMembers fuel levels cs))
    (levels : Nat) (cs : List Char) :
    ValueOutcome levels ('{' :: cs) (readValue (fuel + 1) levels ('{' :: cs)) := by
  cases levels with
  | zero => exact .refused .here .object rfl
  | succ levels =>
    by_cases hend : ∃ after, skipBlank cs = '}' :: after
    · obtain ⟨after, hend⟩ := hend
      obtain ⟨gap, hcs, hgap⟩ := exists_gap_skipBlank cs
      rw [readValue_emptyObject hend]
      refine .read (.emptyObject hgap) ?_
      rw [hcs, hend, List.cons_append, List.append_assoc, List.singleton_append]
    · rw [readValue_object (not_exists.mp hend)]
      exact (hmembers levels (skipBlank cs)).bracketed
        (fun _ _ _ hgap hbody => .object (hbody.gap hgap))
        fun _ _ _ hgap hbefore => .object (hbefore.gap hgap)

theorem readValue_outcome {fuel : Nat}
    (hitems : ∀ levels cs, ItemsOutcome levels cs (readItems fuel levels cs))
    (hmembers : ∀ levels cs, MembersOutcome levels cs (readMembers fuel levels cs))
    (levels : Nat) (cs : List Char) : ValueOutcome levels cs (readValue (fuel + 1) levels cs) := by
  by_cases hatom : ∀ c ∈ cs.head?, c ≠ '"' ∧ c ≠ '[' ∧ c ≠ '{'
  · rw [readValue_atom hatom]
    exact readAtom_outcome levels cs
  · -- the first character alone says how the reader goes on
    obtain ⟨c, cs, rfl, hc⟩ : ∃ c rest, cs = c :: rest ∧ (c = '"' ∨ c = '[' ∨ c = '{') := by
      cases cs with
      | nil => exact absurd nofun hatom
      | cons c cs =>
        refine ⟨c, cs, rfl, ?_⟩
        by_contra hc
        obtain ⟨hquote, hc⟩ := not_or.mp hc
        refine hatom fun d hd => ?_
        obtain rfl := Option.some.inj hd
        exact ⟨hquote, not_or.mp hc⟩
    rcases hc with rfl | rfl | rfl
    · rw [readValue_string]
      split
      · next s after hread =>
        obtain ⟨quoted, hquoted, hcs⟩ := readString?_eq_some_iff.mp hread
        exact .read (.text hquoted) hcs
      · exact .malformed
    · exact readValue_array_outcome hitems levels cs
    · exact readValue_object_outcome hmembers levels cs

theorem readItems_outcome {fuel : Nat}
    (hvalue : ∀ levels cs, ValueOutcome levels cs (readValue fuel levels cs))
    (hitems : ∀ levels cs, ItemsOutcome levels cs (readItems fuel levels cs))
    (levels : Nat) (cs : List Char) : ItemsOutcome levels cs (readItems (fuel + 1) levels cs) := by
  have hread := hvalue levels cs
  rcases hresult : readValue fuel levels cs with e | ⟨v, rest⟩
  · rw [hresult] at hread
    rw [readItems_error hresult]
    exact hread.error [] fun left before hbefore => .within nofun hbefore
  rw [hresult] at hread
  obtain ⟨item, hitem, rfl⟩ := hread.ok
  have hcs : ∀ {gap}, (∀ c ∈ gap, isGap c = true) → Encloses isGap item (item ++ gap) :=
    fun hgap => ⟨[], _, rfl, nofun, hgap⟩
  by_cases hend : ∃ after, skipBlank rest = ']' :: after
  · obtain ⟨after, hend⟩ := hend
    rw [readItems_last hresult hend]
    exact .last hend fun gap hgap => .last hitem (hcs hgap)
  by_cases hcomma : ∃ more, skipBlank rest = ',' :: more
  · obtain ⟨more, hcomma⟩ := hcomma
    rw [readItems_next hresult hcomma]
    exact .next hcomma (hitems levels (skipBlank more))
      (fun _ _ _ _ hgap hgap' hbody => .next hitem (hcs hgap) (hbody.gap hgap'))
      fun _ _ _ _ hgap hgap' hbefore => .behind hitem (hcs hgap) (hbefore.gap hgap')
  · rw [readItems_malformed hresult (not_exists.mp hend) (not_exists.mp hcomma)]
    exact .malformed

theorem readMembers_outcome {fuel : Nat}
    (hvalue : ∀ levels cs, ValueOutcome levels cs (readValue fuel levels cs))
    (hmembers : ∀ levels cs, MembersOutcome levels cs (readMembers fuel levels cs))
    (levels : Nat) (cs : List Char) :
    MembersOutcome levels cs (readMembers (fuel + 1) levels cs) := by
  by_cases hname : ∃ name inner, Labelled name cs inner
  case neg =>
    rw [readMembers_unlabelled fun name inner h => hname ⟨name, inner, h⟩]
    exact .malformed
  obtain ⟨name, inner, hname⟩ := hname
  obtain ⟨quoted, label, gap, hquoted, hlabel, hgap, hwhole⟩ := hname.sound
  have hread := hvalue levels inner
  rcases hresult : readValue fuel levels inner with e | ⟨v, rest⟩
  · rw [hresult] at hread
    rw [readMembers_error hname hresult, hwhole, ← List.cons_append, ← List.append_assoc]
    refine hread.error _ fun left before hbefore => ?_
    rw [List.append_assoc, List.cons_append]
    exact .within hquoted hlabel hgap hbefore
  rw [hresult] at hread
  obtain ⟨item, hitem, rfl⟩ := hread.ok
  have hcs : ∀ {gap'}, (∀ c ∈ gap', isGap c = true) →
      Encloses isGap item (gap ++ (item ++ gap')) :=
    fun hgap' => encloses_gap hgap ⟨[], _, rfl, nofun, hgap'⟩
  -- what lies in front of `rest` is the member without the gap behind its value
  have hfront : cs = label ++ ':' :: (gap ++ item) ++ rest := by
    rw [hwhole, List.append_assoc, List.cons_append, List.append_assoc]
  by_cases hend : ∃ after, skipBlank rest = '}' :: after
  · obtain ⟨after, hend⟩ := hend
    rw [readMembers_last hname hresult hend, hfront]
    refine .last hend fun gap' hgap' => ?_
    rw [List.append_assoc, List.cons_append, List.append_assoc]
    exact .last hquoted hlabel hitem (hcs hgap')
  by_cases hcomma : ∃ more, skipBlank rest = ',' :: more
  · obtain ⟨more, hcomma⟩ := hcomma
    rw [readMembers_next hname hresult hcomma, hfront]
    refine .next hcomma (hmembers levels (skipBlank more)) ?_ ?_
    · intro gap' gap'' members body hgap' hgap'' hbody
      have hnext := WritesMembers.next hquoted hlabel hitem (hcs hgap') (hbody.gap hgap'')
      simpa only [List.append_assoc, List.cons_append] using hnext
    · intro gap' gap'' left before hgap' hgap'' hbefore
      have hbehind := ReachesMember.behind hquoted hlabel hitem (hcs hgap') (hbefore.gap hgap'')
      simpa only [List.append_assoc, List.cons_append] using hbehind
  · rw [readMembers_malformed hname hresult (not_exists.mp hend) (not_exists.mp hcomma)]
    exact .malformed

/-- Whatever is read, from whatever text, is what the grammar has there. -/
theorem read_outcome (fuel : Nat) :
    (∀ levels cs, ValueOutcome levels cs (readValue fuel levels cs)) ∧
      (∀ levels cs, ItemsOutcome levels cs (readItems fuel levels cs)) ∧
        ∀ levels cs, MembersOutcome levels cs (readMembers fuel levels cs) := by
  induction fuel with
  | zero => exact ⟨fun _ _ => .malformed, fun _ _ => .malformed, fun _ _ => .malformed⟩
  | succ fuel ih =>
    obtain ⟨hvalue, hitems, hmembers⟩ := ih
    exact ⟨readValue_outcome hitems hmembers, readItems_outcome hvalue hitems,
      readMembers_outcome hvalue hmembers⟩

end RelationalModels.Json
