import RelationalModels.Model.Field
import RelationalModels.Proofs.Numerals

/-!
# Defaults of relations

Whatever is declared as the default of a relation becomes a number. A number stays what it is, a
text becomes the number that it writes, and everything else becomes zero. An integer in a text is
kept exactly, however large, as long as its digits are not too many to be converted.
-/

namespace RelationalModels

open RelationalModels.Decimal RelationalModels.Text

def Decimal.Number.toValue : Number → Value
  | .int n => .int n
  | .float x => .float x

inductive BecomesDefault : Value → Number → Prop
  | int (n : Int) : BecomesDefault (.int n) (.int n)
  | float (x : Binary64) : BecomesDefault (.float x) (.float x)
  | integer {negative : Bool} {digits : List Nat} {s : String}
      (hwrites : WritesInteger negative digits s) (hlimit : digits.length ≤ maxIntegerDigits) :
      BecomesDefault (.text s) (.int (signed negative (natOfDigits digits)))
  | decimal {x : Binary64} {s : String} (hwrites : WritesFloat x s)
      (hlimit : ∀ negative digits, WritesInteger negative digits s →
        maxIntegerDigits < digits.length) :
      BecomesDefault (.text s) (.float x)
  | unwritten {s : String} (hnone : ∀ x, ¬ WritesFloat x s) : BecomesDefault (.text s) (.int 0)
  | other {v : Value} (hint : ∀ n, v ≠ .int n) (hfloat : ∀ x, v ≠ .float x)
      (htext : ∀ s, v ≠ .text s) : BecomesDefault v (.int 0)

theorem exists_ofText_eq_value_iff {s : String} :
    (∃ n, IntegerText.ofText s = .value n) ↔
      ∃ negative digits, WritesInteger negative digits s ∧ digits.length ≤ maxIntegerDigits := by
  simp only [ofText_eq_value_iff]
  constructor
  · rintro ⟨n, negative, digits, hwrites, hlimit, -⟩
    exact ⟨negative, digits, hwrites, hlimit⟩
  · rintro ⟨negative, digits, hwrites, hlimit⟩
    exact ⟨_, negative, digits, hwrites, hlimit, rfl⟩

theorem relationDefault_text_of_value {s : String} {n : Int} (h : IntegerText.ofText s = .value n) :
    relationDefault (.text s) = .int n := by
  simp [relationDefault, Number.ofText?, h]

theorem relationDefault_text_of_not_value {s : String}
    (h : ∀ n, IntegerText.ofText s ≠ .value n) :
    relationDefault (.text s) = ((floatOfText? s).map .float).getD (.int 0) := by
  rw [relationDefault, Number.ofText?]
  split
  · next n hn => exact absurd hn (h n)
  · rfl

theorem becomesDefault_relationDefault (v : Value) : BecomesDefault v (relationDefault v) := by
  cases v with
  | int n => exact .int n
  | float x => exact .float x
  | text s =>
    -- an integer of too many digits goes the way of a decimal
    by_cases hinteger : ∃ n, IntegerText.ofText s = .value n
    · obtain ⟨n, hn⟩ := hinteger
      obtain ⟨negative, digits, hwrites, hlimit, rfl⟩ := ofText_eq_value_iff.mp hn
      rw [relationDefault_text_of_value hn]
      exact .integer hwrites hlimit
    · rw [relationDefault_text_of_not_value (not_exists.mp hinteger)]
      rw [exists_ofText_eq_value_iff] at hinteger
      cases hfloat : floatOfText? s with
      | some x =>
        refine .decimal (floatOfText?_eq_some_iff.mp hfloat) fun negative digits hwrites => ?_
        by_contra hlimit
        exact hinteger ⟨negative, digits, hwrites, Nat.le_of_not_lt hlimit⟩
      | none =>
        refine .unwritten fun x hwrites => ?_
        rw [floatOfText?_eq_some_iff.mpr hwrites] at hfloat
        cases hfloat
  | null => exact .other nofun nofun nofun
  | bool b => exact .other nofun nofun nofun
  | list items => exact .other nofun nofun nofun
  | map entries => exact .other nofun nofun nofun

theorem BecomesDefault.relationDefault_eq {v : Value} {r : Number} (h : BecomesDefault v r) :
    relationDefault v = r := by
  cases h with
  | int n => rfl
  | float x => rfl
  | integer hwrites hlimit =>
    exact relationDefault_text_of_value
      (ofText_eq_value_iff.mpr ⟨_, _, hwrites, hlimit, rfl⟩)
  | @decimal x s hwrites hlimit =>
    have hinteger : ∀ n, IntegerText.ofText s ≠ .value n := by
      intro n hn
      obtain ⟨negative, digits, hdigits, hle, -⟩ := ofText_eq_value_iff.mp hn
      exact absurd (hlimit negative digits hdigits) (Nat.not_lt.mpr hle)
    rw [relationDefault_text_of_not_value hinteger, floatOfText?_eq_some_iff.mpr hwrites]
    rfl
  | @unwritten s hnone =>
    have hinteger : ∀ n, IntegerText.ofText s ≠ .value n := by
      intro n hn
      obtain ⟨negative, digits, hdigits, -⟩ := ofText_eq_value_iff.mp hn
      exact hnone _ hdigits.writesFloat
    have hfloat : floatOfText? s = none :=
      Option.eq_none_iff_forall_ne_some.mpr fun x hx => hnone x (floatOfText?_eq_some_iff.mp hx)
    rw [relationDefault_text_of_not_value hinteger, hfloat]
    rfl
  | other hint hfloat htext =>
    cases v with
    | int n => exact absurd rfl (hint n)
    | float x => exact absurd rfl (hfloat x)
    | text s => exact absurd rfl (htext s)
    | null => rfl
    | bool b => rfl
    | list items => rfl
    | map entries => rfl

theorem relationDefault_toValue (r : Number) : relationDefault r.toValue = r := by
  cases r <;> rfl

theorem writesInteger_toString {n : Nat} {negative : Bool} {sign : List Char} {s : String}
    (hsign : Sign negative sign) (hs : Encloses isBlank (sign ++ (toString n).toList) s.toList) :
    ∃ digits, WritesInteger negative digits s ∧ natOfDigits digits = n ∧
      ∀ k, 0 < k → n < 10 ^ k → digits.length ≤ k := by
  obtain ⟨digits, hdigits, hvalue, hlength⟩ := exists_digits_toString n
  exact ⟨digits, ⟨_, ⟨sign, _, hsign, hdigits, rfl⟩, hs⟩, hvalue, hlength⟩

/--
The default of a relation is the number that its declaration becomes: an integer in a text is never
rounded, and a number that was settled once stays the same.
-/
theorem relation_defaults_settled :
    (∀ v r, relationDefault v = r ↔ BecomesDefault v r) ∧
      (∀ (n : Nat) (negative : Bool) (sign : List Char) (s : String), n < 10 ^ maxIntegerDigits →
        Sign negative sign → Encloses isBlank (sign ++ (toString n).toList) s.toList →
          relationDefault (.text s) = .int (signed negative n)) ∧
      ∀ v, relationDefault (relationDefault v).toValue = relationDefault v := by
  refine ⟨fun v r => ⟨?_, BecomesDefault.relationDefault_eq⟩, ?_, ?_⟩
  · rintro rfl
    exact becomesDefault_relationDefault v
  · intro n negative sign s hn hsign hs
    obtain ⟨digits, hwrites, rfl, hlength⟩ := writesInteger_toString hsign hs
    have hlimit : digits.length ≤ maxIntegerDigits := hlength maxIntegerDigits (by decide) hn
    exact (BecomesDefault.integer hwrites hlimit).relationDefault_eq
  · intro v
    exact relationDefault_toValue (relationDefault v)

/-- An odd integer above the range in which a floating point number is exact. -/
theorem padded_key_kept :
    9007199254740993 < 10 ^ maxIntegerDigits ∧ Sign true ['-'] ∧
      Encloses isBlank (['-'] ++ (toString 9007199254740993).toList)
        "\u2003-9007199254740993\t".toList ∧
      relationDefault (.text "\u2003-9007199254740993\t") = .int (-9007199254740993) := by
  have hlimit : 9007199254740993 < 10 ^ maxIntegerDigits :=
    Nat.lt_of_lt_of_le (by decide : 9007199254740993 < 10 ^ 16)
      (Nat.pow_le_pow_right (by decide) (by decide))
  have hpadded : Encloses isBlank (['-'] ++ (toString 9007199254740993).toList)
      "\u2003-9007199254740993\t".toList :=
    ⟨['\u2003'], ['\t'], by decide +kernel, List.forall_mem_singleton.mpr rfl,
      List.forall_mem_singleton.mpr rfl⟩
  exact ⟨hlimit, .minus, hpadded,
    relation_defaults_settled.2.1 9007199254740993 true ['-'] _ hlimit .minus hpadded⟩

end RelationalModels
