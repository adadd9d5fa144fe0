import RelationalModels.Model.File
import RelationalModels.Proofs.JsonReading
import RelationalModels.Proofs.Locality
import RelationalModels.Proofs.Obstacles
import RelationalModels.Proofs.Utf8

/-!
# Loading model files

A model file passes through three layers: its bytes are decoded, the text is read as JSON, and the
members of the object are admitted as models. `model_files_load` states what comes of any bytes. The
first two layers have failures of their own, which are no errors of models: bytes that are no text,
an integer of too many digits, and a nesting that is too deep.
-/

namespace RelationalModels

open Text

def LoadError.isModelError : LoadError → Bool
  | .model _ => true
  | _ => false

def AdmitsMembers (members : List (String × Value)) (models : Models) : Prop :=
  List.Forall₂ (fun e m => m.1 = e.1 ∧ Model.parse e.1 (.raw e.2) = .ok m.2) members models.entries

inductive TextFault (file s : String) : ModelError → Prop
  | notJson (hdocument : ∀ v, ¬ Json.Document v s) (hrefused : ∀ e, ¬ Json.RefusedText e s) :
      TextFault file s (.fileNotJson file)
  | notObject {v : Value} (hdocument : Json.Document v s) (hv : ∀ members, v ≠ .map members) :
      TextFault file s (.fileNotObject file)
  | member {passed rest : List (String × Value)} {name : String} {v : Value} {e : ModelError}
      (hdocument : Json.Document (.map (passed ++ (name, v) :: rest)) s)
      (hpassed : ∀ p ∈ passed, ∃ m, Model.parse p.1 (.raw p.2) = .ok m)
      (he : Model.parse name (.raw v) = .error e) : TextFault file s e

/-! ### Objects of models -/

def memberSources (members : List (String × Value)) : OrderedMap ModelSource :=
  OrderedMap.ofList (members.map fun e => (e.1, .raw e.2))

theorem memberSources_entries {members : List (String × Value)}
    (h : (members.map Prod.fst).Nodup) :
    (memberSources members).entries = members.map fun e => (e.1, .raw e.2) := by
  have hnames : (members.map fun e => (e.1, ModelSource.raw e.2)).map Prod.fst =
      members.map Prod.fst := by
    rw [List.map_map]
    rfl
  exact OrderedMap.ofList_entries _ (hnames ▸ h)

theorem parseModels_memberSources_eq_ok_iff {members : List (String × Value)} {models : Models}
    (h : (members.map Prod.fst).Nodup) :
    parseModels (memberSources members) = .ok models ↔ AdmitsMembers members models := by
  rw [parseModels_eq_ok_iff, memberSources_entries h, List.forall₂_map_left_iff, AdmitsMembers]

theorem parseModels_memberSources_eq_error_iff {members : List (String × Value)} {e : ModelError}
    (h : (members.map Prod.fst).Nodup) :
    parseModels (memberSources members) = .error e ↔
      ∃ passed name v rest, members = passed ++ (name, v) :: rest ∧
        (∀ p ∈ passed, ∃ m, Model.parse p.1 (.raw p.2) = .ok m) ∧
          Model.parse name (.raw v) = .error e := by
  rw [parseModels_eq_error_iff, memberSources_entries h]
  constructor
  · rintro ⟨passed, key, source, rest, hsplit, hpassed, he⟩
    obtain ⟨before, after, rfl, rfl, hafter⟩ := List.map_eq_append_iff.mp hsplit
    obtain ⟨⟨name, v⟩, behind, rfl, heq, rfl⟩ := List.map_eq_cons_iff.mp hafter
    obtain ⟨rfl, rfl⟩ := Prod.mk.inj heq
    exact ⟨before, name, v, behind, rfl, fun p hp => hpassed _ (List.mem_map_of_mem hp), he⟩
  · rintro ⟨passed, name, v, rest, rfl, hpassed, he⟩
    refine ⟨_, name, .raw v, _, List.map_append, ?_, he⟩
    exact List.forall_mem_map.mpr hpassed

/-! ### Texts -/

theorem decode_encode (s : String) : Utf8.decode (Utf8.encode s) = .ok s :=
  Utf8.decode_eq_ok_iff.mpr rfl

theorem Json.Document.nodup {members : List (String × Value)} {s : String}
    (h : Json.Document (.map members) s) : (members.map Prod.fst).Nodup := by
  obtain ⟨cs, hcs, -⟩ := h
  cases hcs with
  | word hword => simp [Json.words] at hword
  | number hnumber => cases hnumber
  | emptyObject _ => exact List.nodup_nil
  | object _ => exact (OrderedMap.ofList _).nodup

section Texts

variable {file s : String} {models : Models}

theorem loadModels_object {members : List (String × Value)}
    (h : Json.read s = .ok (.map members)) :
    loadModels file (Utf8.encode s) = (parseModels (memberSources members)).mapError .model := by
  simp only [loadModels, decode_encode, h, memberSources]
  cases parseModels (OrderedMap.ofList (members.map fun e => (e.1, ModelSource.raw e.2))) <;> rfl

theorem loadModels_notObject {v : Value} (h : Json.read s = .ok v)
    (hv : ∀ members, v ≠ .map members) :
    loadModels file (Utf8.encode s) = .error (.model (.fileNotObject file)) := by
  simp only [loadModels, decode_encode, h]

theorem loadModels_malformed (h : Json.read s = .error .malformed) :
    loadModels file (Utf8.encode s) = .error (.model (.fileNotJson file)) := by
  simp only [loadModels, decode_encode, h]

theorem loadModels_refused (file : String) {e : Json.ReadError} (h : Json.RefusedText e s) :
    ∃ failure, loadModels file (Utf8.encode s) = .error failure ∧ failure.isModelError = false := by
  obtain ⟨hread, he⟩ := Json.refusedText_iff.mp h
  cases e with
  | malformed => exact absurd rfl he
  | oversizedInteger n =>
    exact ⟨.oversizedInteger n, by simp only [loadModels, decode_encode, hread], rfl⟩
  | tooDeep nesting =>
    exact ⟨.tooDeep nesting, by simp only [loadModels, decode_encode, hread], rfl⟩

end Texts

inductive Loads (file : String) (bytes : List UInt8) : Except LoadError Models → Prop
  | models {s : String} {members : List (String × Value)} {models : Models}
      (hbytes : bytes = Utf8.encode s) (hdocument : Json.Document (.map members) s)
      (hmembers : AdmitsMembers members models) : Loads file bytes (.ok models)
  | fault {s : String} {e : ModelError} (hbytes : bytes = Utf8.encode s)
      (hfault : TextFault file s e) : Loads file bytes (.error (.model e))
  | refused {s : String} {e : Json.ReadError} {failure : LoadError}
      (hbytes : bytes = Utf8.encode s) (hrefused : Json.RefusedText e s)
      (hfailure : failure.isModelError = false) : Loads file bytes (.error failure)
  | undecodable {e : Utf8.DecodeError} (hbytes : ∀ s, bytes ≠ Utf8.encode s) :
      Loads file bytes (.error (.undecodable e))

theorem loads_loadModels (file : String) (bytes : List UInt8) :
    Loads file bytes (loadModels file bytes) := by
  rcases hdecode : Utf8.decode bytes with e | s
  · have hload : loadModels file bytes = .error (.undecodable e) := by
      simp only [loadModels, hdecode]
    rw [hload]
    refine .undecodable fun s hbytes => ?_
    rw [Utf8.decode_eq_ok_iff.mpr hbytes] at hdecode
    cases hdecode
  · have hbytes := Utf8.decode_eq_ok_iff.mp hdecode
    rw [hbytes]
    -- malformed is the one failure to read a text that becomes an error of models
    rcases hread : Json.read s with e | v
    · by_cases he : e = .malformed
      · subst he
        rw [loadModels_malformed hread]
        refine .fault rfl (.notJson (fun v hv => ?_) fun e he => ?_)
        · rw [Json.read_eq_ok_iff.mpr hv] at hread
          cases hread
        · obtain ⟨herror, hne⟩ := Json.refusedText_iff.mp he
          rw [herror] at hread
          exact hne (Except.error.inj hread)
      · have hrefused := Json.refusedText_iff.mpr ⟨hread, he⟩
        obtain ⟨failure, hload, hfailure⟩ := loadModels_refused file hrefused
        rw [hload]
        exact .refused rfl hrefused hfailure
    · have hdocument := Json.read_eq_ok_iff.mp hread
      by_cases hv : ∃ members, v = .map members
      · obtain ⟨members, rfl⟩ := hv
        rw [loadModels_object hread]
        rcases hparse : parseModels (memberSources members) with e | models
        · obtain ⟨passed, name, v, rest, rfl, hpassed, he⟩ :=
            (parseModels_memberSources_eq_error_iff hdocument.nodup).mp hparse
          exact .fault rfl (.member hdocument hpassed he)
        · exact .models rfl hdocument
            ((parseModels_memberSources_eq_ok_iff hdocument.nodup).mp hparse)
      · rw [loadModels_notObject hread (not_exists.mp hv)]
        exact .fault rfl (.notObject hdocument (not_exists.mp hv))

theorem loadModels_of_fault {file s : String} {e : ModelError} (h : TextFault file s e) :
    loadModels file (Utf8.encode s) = .error (.model e) := by
  cases h with
  | notJson hdocument hrefused =>
    rcases hread : Json.read s with e | v
    · by_cases he : e = .malformed
      · subst he
        exact loadModels_malformed hread
      · exact absurd (Json.refusedText_iff.mpr ⟨hread, he⟩) (hrefused e)
    · exact absurd (Json.read_eq_ok_iff.mp hread) (hdocument v)
  | notObject hdocument hv => exact loadModels_notObject (Json.read_eq_ok_iff.mpr hdocument) hv
  | member hdocument hpassed he =>
    have hparse := (parseModels_memberSources_eq_error_iff hdocument.nodup).mpr
      ⟨_, _, _, _, rfl, hpassed, he⟩
    rw [loadModels_object (Json.read_eq_ok_iff.mpr hdocument), hparse]
    rfl

/--
A file gives models when it is the encoding of a JSON object whose members are all admitted. When it
gives none, the error is one of models except for bytes that are no text and for texts in which an
integer or a nesting is refused.
-/
theorem model_files_load (file : String) (bytes : List UInt8) :
    (∀ models, loadModels file bytes = .ok models ↔
      ∃ s members, bytes = Utf8.encode s ∧ Json.Document (.map members) s ∧
        AdmitsMembers members models) ∧
    (∀ e, loadModels file bytes = .error (.model e) ↔
      ∃ s, bytes = Utf8.encode s ∧ TextFault file s e) ∧
    ((∃ e, loadModels file bytes = .error e ∧ e.isModelError = false) ↔
      (∀ s, bytes ≠ Utf8.encode s) ∨ ∃ s e, bytes = Utf8.encode s ∧ Json.RefusedText e s) := by
  have hloads := loads_loadModels file bytes
  refine ⟨fun models => ⟨fun h => ?_, ?_⟩, fun e => ⟨fun h => ?_, ?_⟩, ?_, ?_⟩
  · rw [h] at hloads
    cases hloads with
    | models hbytes hdocument hmembers => exact ⟨_, _, hbytes, hdocument, hmembers⟩
  · rintro ⟨s, members, rfl, hdocument, hmembers⟩
    rw [loadModels_object (Json.read_eq_ok_iff.mpr hdocument),
      (parseModels_memberSources_eq_ok_iff hdocument.nodup).mpr hmembers]
    rfl
  · rw [h] at hloads
    cases hloads with
    | fault hbytes hfault => exact ⟨_, hbytes, hfault⟩
    | refused _ _ hfailure => cases hfailure
  · rintro ⟨s, rfl, hfault⟩
    exact loadModels_of_fault hfault
  · rintro ⟨e, h, he⟩
    rw [h] at hloads
    cases hloads with
    | fault hbytes hfault => cases he
    | refused hbytes hrefused _ => exact Or.inr ⟨_, _, hbytes, hrefused⟩
    | undecodable hbytes => exact Or.inl hbytes
  · rintro (hbytes | ⟨s, e, rfl, hrefused⟩)
    · rcases hdecode : Utf8.decode bytes with e | s
      · exact ⟨.undecodable e, by simp only [loadModels, hdecode], rfl⟩
      · exact absurd (Utf8.decode_eq_ok_iff.mp hdecode) (hbytes s)
    · exact loadModels_refused file hrefused

def bareModel : Model := ⟨some "user", none, .empty, none, none, ⟨none, none⟩⟩

def bareFile : List UInt8 := Utf8.encode "\x7b\"user\": \x7b\"fields\": \x7b\x7d\x7d\x7d\n"

theorem bare_file_loads :
    ∃ s members, bareFile = Utf8.encode s ∧ Json.Document (.map members) s ∧
      AdmitsMembers members (OrderedMap.ofList [("user", bareModel)]) :=
  ((model_files_load "models.json" bareFile).1 _).mp (by decide +kernel)

/-- A byte that starts no character makes a file fail with an error that is none of models. -/
theorem lone_byte_escapes :
    ¬ ((∃ models, loadModels "models.json" [0xFF] = .ok models) ∨
      ∃ e, loadModels "models.json" [0xFF] = .error (.model e)) := by
  have hload : loadModels "models.json" [0xFF] =
      .error (.undecodable ⟨[0xFF], 0, .invalidStart⟩) := by
    decide
  rw [hload]
  rintro (⟨models, h⟩ | ⟨e, h⟩) <;> cases h

end RelationalModels
