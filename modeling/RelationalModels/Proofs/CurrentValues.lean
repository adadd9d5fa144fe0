import RelationalModels.Service.Session

/-!
# Values at the time of a call

A service reads its configuration and the settings at each call and keeps nothing of earlier ones.
`run_answers_from_current_values` states this of whole sessions: at every step of a run the answer,
and what the collaborators remember after it, come from the step, from what they remembered before
it, and from three values that the assignments made so far determine. Calls, successful or not, are
no part of these.
-/

namespace RelationalModels

variable {σ : Type}

/-! ### Answers -/

structure CurrentValues where
  template : OrderedMap Value
  collation : Option String
  joinDepth : Int

def PlanError.heard : PlanError → ServiceError
  | .model e => .model e
  | .negativeDepth d => .negativeDepth d

def CurrentValues.respond (v : CurrentValues) (memory : σ) : SessionStep σ → Answer × σ
  | .change _ => (.nothing, memory)
  | .writeTemplate _ _ => (.nothing, memory)
  | .compile sources =>
    match compileSchema sources v.template v.collation with
    | .error e => (.failed (.model e), memory)
    | .ok schema => (.schema schema, memory)
  | .resolve sources model options =>
    match QueryOptions.ofValue options with
    | .invalid issues => (.invalid issues, memory)
    | .valid o =>
      match resolveQuery sources model o v.template v.joinDepth with
      | .error e => (.failed e.heard, memory)
      | .ok plan => (.plan plan, memory)
  | .createSchema sources c =>
    match compileSchema sources v.template v.collation with
    | .error e => (.failed (.model e), memory)
    | .ok schema =>
      match c.createTables schema.allTables memory with
      | (.error e, after) => (.failed e, after)
      | (.ok (), after) => (.created (schema.allTables.map Table.name), after)
  | .get sources model options c =>
    match QueryOptions.ofValue options with
    | .invalid issues => (.invalid issues, memory)
    | .valid o =>
      match resolveQuery sources model o v.template v.joinDepth with
      | .error e => (.failed e.heard, memory)
      | .ok plan =>
        match c.fetch plan memory with
        | (.error f, after) => (.failed (f.report (DatabaseError.model model)), after)
        | (.ok rows, after) => (.rows rows, after)

/-! ### Assignments -/

inductive Assignment where
  | setting (c : SettingsChange)
  | templateKey (key : String) (value : Value)

namespace Assignment

def onSettings (t : OrderedMap Value) : Assignment → OrderedMap Value
  | .setting (.template other) => other
  | .templateKey key value => t.insert key value
  | _ => t

def onGiven (t : OrderedMap Value) : Assignment → OrderedMap Value
  | .templateKey key value => t.insert key value
  | _ => t

def collation? : Assignment → Option (Option String)
  | .setting (.collation c) => some c
  | _ => none

def joinDepth? : Assignment → Option Int
  | .setting (.joinDepth d) => some d
  | _ => none

end Assignment

def lastAssigned {α : Type} (kind : Assignment → Option α) (start : α) (made : List Assignment) :
    α :=
  (made.filterMap kind).getLast?.getD start

theorem lastAssigned_cons {α : Type} (kind : Assignment → Option α) (start : α)
    (first : Assignment) (made : List Assignment) :
    lastAssigned kind start (first :: made) =
      lastAssigned kind ((kind first).getD start) made := by
  cases hfirst : kind first with
  | none => simp [lastAssigned, hfirst]
  | some value => simp [lastAssigned, hfirst, List.getLast?_cons]

def SessionStep.assignment? : SessionStep σ → Option Assignment
  | .change c => some (.setting c)
  | .writeTemplate key value => some (.templateKey key value)
  | _ => none

def assignments (steps : List (SessionStep σ)) : List Assignment :=
  steps.filterMap SessionStep.assignment?

namespace Session

/--
The values after some assignments. A template that the service was given is in use for good, with
every key that was written; otherwise that of the settings is. A collation that was given counts
unless it is empty, a depth that was given always; otherwise the last one assigned does.
-/
def valuesAfter (s : Session σ) (made : List Assignment) : CurrentValues where
  template :=
    match s.service.template with
    | some given => made.foldl Assignment.onGiven given
    | none => made.foldl Assignment.onSettings s.settings.template
  collation :=
    (nonemptyName s.service.collation).orElse fun _ =>
      lastAssigned Assignment.collation? s.settings.collation made
  joinDepth :=
    s.service.joinDepth.getD (lastAssigned Assignment.joinDepth? s.settings.joinDepth made)

def after (s : Session σ) : List (SessionStep σ) → Session σ
  | [] => s
  | a :: rest => (s.step a).2.after rest

theorem after_concat (s : Session σ) (before : List (SessionStep σ)) (a : SessionStep σ) :
    s.after (before ++ [a]) = ((s.after before).step a).2 := by
  induction before generalizing s with
  | nil => rfl
  | cons b before ih => exact ih (s.step b).2

theorem run_getElem? (s : Session σ) (before : List (SessionStep σ)) (a : SessionStep σ)
    (rest : List (SessionStep σ)) :
    (s.run (before ++ a :: rest))[before.length]? = some ((s.after before).step a) := by
  induction before generalizing s with
  | nil => rfl
  | cons b before ih =>
    have hrun : (s.run (b :: before ++ a :: rest))[(b :: before).length]? =
        ((s.step b).2.run (before ++ a :: rest))[before.length]? := rfl
    rw [hrun, ih, after]

/-! ### Calls -/

variable {a : SessionStep σ}

theorem template_now (s : Session σ) :
    s.service.currentTemplate s.settings = (s.valuesAfter []).template := by
  cases hgiven : s.service.template <;> simp [Service.currentTemplate, valuesAfter, hgiven]

theorem collation_now (s : Session σ) :
    s.service.currentCollation s.settings = (s.valuesAfter []).collation := rfl

theorem joinDepth_now (s : Session σ) :
    s.service.currentDepth s.settings = (s.valuesAfter []).joinDepth := rfl

theorem compile_now (s : Session σ) (sources : OrderedMap ModelSource) :
    s.service.compile s.settings sources =
      (compileSchema sources (s.valuesAfter []).template
        (s.valuesAfter []).collation).mapError .model := by
  rw [Service.compile, template_now, collation_now]
  cases compileSchema sources (s.valuesAfter []).template (s.valuesAfter []).collation <;> rfl

theorem resolve_now (s : Session σ) (sources : OrderedMap ModelSource) (model : String)
    (options : QueryOptions) :
    s.service.resolve s.settings sources model options =
      (resolveQuery sources model options (s.valuesAfter []).template
        (s.valuesAfter []).joinDepth).mapError PlanError.heard := by
  rw [Service.resolve, template_now, joinDepth_now]
  rcases resolveQuery sources model options (s.valuesAfter []).template
    (s.valuesAfter []).joinDepth with (_ | _) | _ <;> rfl

theorem step_of_call (s : Session σ) (h : a.assignment? = none) :
    s.step a = (((s.valuesAfter []).respond s.memory a).1,
      { s with memory := ((s.valuesAfter []).respond s.memory a).2 }) := by
  -- a call reads template, collation and depth, and these are what they are after no assignment
  cases a with
  | change c => cases h
  | writeTemplate key value => cases h
  | compile sources =>
    rw [step, compile_now, CurrentValues.respond]
    cases compileSchema sources (s.valuesAfter []).template (s.valuesAfter []).collation <;> rfl
  | resolve sources model options =>
    rw [step, CurrentValues.respond]
    cases QueryOptions.ofValue options with
    | invalid issues => rfl
    | valid o =>
      dsimp only
      rw [resolve_now]
      cases resolveQuery sources model o (s.valuesAfter []).template
        (s.valuesAfter []).joinDepth <;> rfl
  | createSchema sources c =>
    cases hcompiled : compileSchema sources (s.valuesAfter []).template
        (s.valuesAfter []).collation with
    | error e =>
      have hcompile : s.service.compile s.settings sources = .error (.model e) := by
        rw [compile_now, hcompiled]
        rfl
      rw [step, Service.createSchema, hcompile, CurrentValues.respond, hcompiled]
    | ok schema =>
      have hcompile : s.service.compile s.settings sources = .ok schema := by
        rw [compile_now, hcompiled]
        rfl
      rw [step, Service.createSchema, hcompile, CurrentValues.respond, hcompiled]
      dsimp only
      rcases c.createTables schema.allTables s.memory with ⟨_ | _, _⟩ <;> rfl
  | get sources model options c =>
    rw [step, CurrentValues.respond]
    cases QueryOptions.ofValue options with
    | invalid issues => rfl
    | valid o =>
      dsimp only
      cases hresolved : resolveQuery sources model o (s.valuesAfter []).template
          (s.valuesAfter []).joinDepth with
      | error e =>
        have hresolve : s.service.resolve s.settings sources model o = .error e.heard := by
          rw [resolve_now, hresolved]
          rfl
        rw [Service.get, hresolve]
      | ok plan =>
        have hresolve : s.service.resolve s.settings sources model o = .ok plan := by
          rw [resolve_now, hresolved]
          rfl
        rw [Service.get, hresolve]
        dsimp only
        rcases c.fetch plan s.memory with ⟨_ | _, _⟩ <;> rfl

/-! ### Changes -/

def assign (s : Session σ) : Assignment → Session σ
  | .setting c => { s with settings := s.settings.apply c }
  | .templateKey key value => s.writeTemplate key value

theorem assign_memory (s : Session σ) (made : Assignment) : (s.assign made).memory = s.memory := by
  cases made with
  | setting c => rfl
  | templateKey key value =>
    rw [assign, writeTemplate]
    cases s.service.template <;> rfl

theorem step_of_assignment (s : Session σ) {made : Assignment} (h : a.assignment? = some made) :
    s.step a = (.nothing, s.assign made) := by
  cases a with
  | change c =>
    obtain rfl : Assignment.setting c = made := Option.some.inj h
    rfl
  | writeTemplate key value =>
    obtain rfl : Assignment.templateKey key value = made := Option.some.inj h
    rfl
  | _ => cases h

theorem respond_of_assignment {made : Assignment} (h : a.assignment? = some made)
    (v : CurrentValues) (memory : σ) : v.respond memory a = (.nothing, memory) := by
  cases a with
  | change c => rfl
  | writeTemplate key value => rfl
  | _ => cases h

theorem valuesAfter_assign (s : Session σ) (first : Assignment) (made : List Assignment) :
    (s.assign first).valuesAfter made = s.valuesAfter (first :: made) := by
  cases hgiven : s.service.template with
  | none =>
    cases first with
    | setting c => cases c <;> simp [assign, valuesAfter, hgiven, lastAssigned_cons,
        ServiceSettings.apply, Assignment.onSettings, Assignment.collation?, Assignment.joinDepth?]
    | templateKey key value => simp [assign, writeTemplate, valuesAfter, hgiven, lastAssigned_cons,
        Assignment.onSettings, Assignment.collation?, Assignment.joinDepth?]
  | some given =>
    cases first with
    | setting c => cases c <;> simp [assign, valuesAfter, hgiven, lastAssigned_cons,
        ServiceSettings.apply, Assignment.onGiven, Assignment.collation?, Assignment.joinDepth?]
    | templateKey key value => simp [assign, writeTemplate, valuesAfter, hgiven, lastAssigned_cons,
        Assignment.onGiven, Assignment.collation?, Assignment.joinDepth?]

/-! ### Runs -/

/-- Each step is answered from the values there are before it. -/
theorem step_eq_respond (s : Session σ) (a : SessionStep σ) :
    ((s.step a).1, (s.step a).2.memory) = (s.valuesAfter []).respond s.memory a := by
  cases h : a.assignment? with
  | none => rw [s.step_of_call h]
  | some made => rw [s.step_of_assignment h, respond_of_assignment h, assign_memory]

theorem valuesAfter_step (s : Session σ) (a : SessionStep σ) (made : List Assignment) :
    (s.step a).2.valuesAfter made = s.valuesAfter (a.assignment?.toList ++ made) := by
  cases h : a.assignment? with
  | none =>
    rw [s.step_of_call h]
    rfl
  | some first =>
    rw [s.step_of_assignment h, valuesAfter_assign]
    rfl

theorem valuesAfter_after (s : Session σ) (before : List (SessionStep σ)) :
    (s.after before).valuesAfter [] = s.valuesAfter (assignments before) := by
  suffices hall : ∀ made, (s.after before).valuesAfter made =
      s.valuesAfter (assignments before ++ made) by
    simpa using hall []
  induction before generalizing s with
  | nil => intro made; rfl
  | cons a before ih =>
    intro made
    have hfirst : assignments (a :: before) = a.assignment?.toList ++ assignments before := by
      cases h : a.assignment? <;> simp [assignments, h]
    rw [after, ih, valuesAfter_step, hfirst, List.append_assoc]

-- a depth of zero counts as given, an empty collation does not
example :
    let values := Session.valuesAfter ⟨{ collation := some "", joinDepth := some 0 }, {}, ()⟩
      [.setting (.collation (some "utf8_bin")), .setting (.joinDepth 3)]
    values.collation = some "utf8_bin" ∧ values.joinDepth = 0 := by
  decide

/--
At each step of a run the answer and the memory after it come from that step, the memory before it
and the values that earlier assignments lead to. The run goes on from the session after the step.
-/
theorem run_answers_from_current_values (s : Session σ) (before : List (SessionStep σ))
    (a : SessionStep σ) (rest : List (SessionStep σ)) :
    ∃ answer, (s.run (before ++ a :: rest))[before.length]? =
        some (answer, s.after (before ++ [a])) ∧
      (answer, (s.after (before ++ [a])).memory) =
        (s.valuesAfter (assignments before)).respond (s.after before).memory a := by
  have hnext : s.after (before ++ [a]) = ((s.after before).step a).2 := s.after_concat before a
  have hanswer := (s.after before).step_eq_respond a
  rw [valuesAfter_after] at hanswer
  refine ⟨((s.after before).step a).1, ?_, ?_⟩
  · rw [hnext]
    exact s.run_getElem? before a rest
  · rw [hnext]
    exact hanswer

end Session

end RelationalModels
