import Mathlib.Data.List.Nodup
import RelationalModels.Model.Definition

/-!
# Routes through the models

A route follows relations from one model to the next; models may lead back to themselves, so there
is no bound on its length. A visit is a field that declares something at the end of a route.
`visits` lists the visits within a number of hops, and the two main statements fix it completely:
`mem_visits_iff` says which visits it holds and `visits_sorted` that they stand in depth-first
order of declaration.
-/

namespace RelationalModels

/-! ### Names of settled fields -/

theorem Field.ofAttributes_traits_name {name : String} {a : Attributes} {place : FieldPlace}
    {f : Field} (h : Field.ofAttributes name a place = .ok f) : f.traits.name = name := by
  cases ht : FieldType.ofToken? a.typeToken with
  | none =>
    simp only [Field.ofAttributes, ht] at h
    cases h
  | some type =>
    cases type with
    | scalar type =>
      simp only [Field.ofAttributes, ht, Except.ok.injEq] at h
      subst h
      simp only [Field.traits, Attributes.traits]
    | relation =>
      cases hd : nonemptyName a.data.toOption with
      | none =>
        simp only [Field.ofAttributes, ht, hd] at h
        cases h
      | some target =>
        simp only [Field.ofAttributes, ht, hd, Except.ok.injEq] at h
        subst h
        simp only [Field.traits, Attributes.traits]

theorem Field.resolve_traits_name {name : String} {raw template : OrderedMap Value}
    {model : Option String} {f : Field} (h : Field.resolve name raw template model = .ok f) :
    f.traits.name = name := by
  unfold Field.resolve at h
  dsimp only at h
  cases hm : mergeAttributes raw template { model := model, field := some name } with
  | error e =>
    rw [hm] at h
    cases h
  | ok a =>
    rw [hm] at h
    exact Field.ofAttributes_traits_name h

/-! ### Computations that can fail -/

section Failure

variable {ε α : Type}

theorem ok_of_toOption {x : Except ε α} {a : α} (h : x.toOption = some a) :
    x = .ok a := by
  cases x with
  | error e => simp [Except.toOption] at h
  | ok b => simpa [Except.toOption] using h

theorem exists_ok_of_isSome {x : Except ε α} (h : x.toOption.isSome = true) :
    ∃ a, x = .ok a := by
  obtain ⟨a, ha⟩ := Option.isSome_iff_exists.mp h
  exact ⟨a, ok_of_toOption ha⟩

def failure? : Except ε α → Option ε
  | .ok _ => none
  | .error e => some e

theorem failure?_eq_some_iff {x : Except ε α} {e : ε} : failure? x = some e ↔ x = .error e := by
  cases x <;> simp [failure?]

theorem failure?_eq_none_iff {x : Except ε α} : failure? x = none ↔ ∃ a, x = .ok a := by
  cases x <;> simp [failure?]

end Failure

/-! ### Declared fields -/

theorem pairwise_idxOf_lt {names : List String} (h : names.Nodup) :
    names.Pairwise fun a b => names.idxOf a < names.idxOf b := by
  rw [List.pairwise_iff_getElem]
  intro i j hi hj hij
  rwa [h.idxOf_getElem i hi, h.idxOf_getElem j hj]

namespace Model

def Declares (template : OrderedMap Value) (m : Model) (f : Field) : Prop :=
  ∃ raw, (f.traits.name, raw) ∈ m.fields.entries ∧
    Field.resolve f.traits.name raw template m.id = .ok f

def settled (template : OrderedMap Value) (m : Model) : List Field :=
  m.fields.entries.filterMap fun e => (Field.resolve e.1 e.2 template m.id).toOption

def position (m : Model) (name : String) : Nat := m.fields.names.idxOf name

theorem mem_settled_iff {template : OrderedMap Value} {m : Model} {f : Field} :
    f ∈ m.settled template ↔ m.Declares template f := by
  simp only [settled, List.mem_filterMap, Declares]
  constructor
  · rintro ⟨⟨name, raw⟩, hmem, hf⟩
    have hok := ok_of_toOption hf
    have hname := Field.resolve_traits_name hok
    subst hname
    exact ⟨raw, hmem, hok⟩
  · rintro ⟨raw, hmem, hok⟩
    exact ⟨(f.traits.name, raw), hmem, by simp [hok, Except.toOption]⟩

theorem settled_names_sublist (template : OrderedMap Value) (m : Model) :
    ((m.settled template).map fun f => f.traits.name).Sublist m.fields.names := by
  have key : ∀ entries : List (String × OrderedMap Value),
      ((entries.filterMap fun e => (Field.resolve e.1 e.2 template m.id).toOption).map
        fun f => f.traits.name).Sublist (entries.map Prod.fst) := by
    intro entries
    induction entries with
    | nil => simp
    | cons e rest ih =>
      cases hf : Field.resolve e.1 e.2 template m.id with
      | error _ => simpa [hf, Except.toOption] using ih.cons e.1
      | ok f =>
        have hname : f.traits.name = e.1 := Field.resolve_traits_name hf
        simpa [hf, Except.toOption, hname] using ih.cons_cons e.1
  exact key m.fields.entries

theorem settled_positions (template : OrderedMap Value) (m : Model) :
    (m.settled template).Pairwise fun f g =>
      m.position f.traits.name < m.position g.traits.name := by
  have hall := pairwise_idxOf_lt m.fields.nodup
  have hsome := hall.sublist (settled_names_sublist template m)
  rw [List.pairwise_map] at hsome
  exact hsome

end Model

/-! ### Hops and routes -/

/-- A relation that is followed, from the model that declares it to the model it leads to. -/
structure Hop where
  owner : Model
  traits : FieldTraits
  hasMany : Bool
  target : Model

abbrev Route := List Hop

def Hop.Follows (models : Models) (template : OrderedMap Value) (h : Hop) : Prop :=
  ∃ target default, h.owner.Declares template (.relation h.traits target h.hasMany default) ∧
    models.get? target = some h.target

namespace Route

def From (models : Models) (template : OrderedMap Value) : Model → Route → Prop
  | _, [] => True
  | m, h :: rest => h.owner = m ∧ h.Follows models template ∧ From models template h.target rest

def last : Model → Route → Model
  | m, [] => m
  | _, h :: rest => last h.target rest

def names (route : Route) : List String := route.map fun h => h.traits.name

theorem names_concat (r : Route) (h : Hop) : names (r ++ [h]) = names r ++ [h.traits.name] := by
  simp [names]

theorem from_append {models : Models} {template : OrderedMap Value} {m : Model} (r s : Route) :
    From models template m (r ++ s) ↔
      From models template m r ∧ From models template (last m r) s := by
  induction r generalizing m with
  | nil => simp [From, last]
  | cons h r ih => simp only [List.cons_append, From, last, ih, and_assoc]

end Route

/-! ### Visits -/

inductive Visit where
  | column (route : Route) (owner : Model) (traits : FieldTraits)
  | relation (route : Route) (hop : Hop)

namespace Visit

def route : Visit → Route
  | column r _ _ => r
  | relation r _ => r

def owner : Visit → Model
  | column _ m _ => m
  | relation _ h => h.owner

def name : Visit → String
  | column _ _ t => t.name
  | relation _ h => h.traits.name

def names (v : Visit) : List String := Route.names v.route ++ [v.name]

def place (v : Visit) : List Nat :=
  v.route.map (fun h => h.owner.position h.traits.name) ++ [v.owner.position v.name]

def behind (h : Hop) : Visit → Visit
  | column r m t => column (h :: r) m t
  | relation r k => relation (h :: r) k

/--
The visits within `depth` hops of a model: scalars at the end of routes of at most that length, and
relations that end such routes.
-/
def Within (models : Models) (template : OrderedMap Value) (depth : Nat) (model : Model) :
    Visit → Prop
  | column route owner traits =>
    route.length ≤ depth ∧ Route.From models template model route ∧
      Route.last model route = owner ∧
      ∃ type default, owner.Declares template (.scalar traits type default)
  | relation route hop =>
    route.length + 1 ≤ depth ∧ Route.From models template model (route ++ [hop])

@[simp] theorem place_behind (h : Hop) (v : Visit) :
    (behind h v).place = h.owner.position h.traits.name :: v.place := by
  cases v <;> rfl

theorem place_relation (r : Route) (h : Hop) :
    (relation r h).place = (r ++ [h]).map fun h => h.owner.position h.traits.name := by
  simp [place, route, owner, name]

theorem place_ne_nil (v : Visit) : v.place ≠ [] := by
  simp [place]

end Visit

/-! ### Depth-first enumeration -/

/--
The visits to which a settled field leads. `deeper?` lists those of a target; without it relations
are not visited.
-/
def fieldVisits (models : Models) (deeper? : Option (Model → List Visit)) (m : Model) :
    Field → List Visit
  | .scalar traits _ _ => [.column [] m traits]
  | .relation traits target hasMany _ =>
    match deeper? with
    | none => []
    | some deeper =>
      match models.get? target with
      | none => []
      | some targetModel =>
        let h : Hop := ⟨m, traits, hasMany, targetModel⟩
        .relation [] h :: (deeper targetModel).map (Visit.behind h)

def visits (models : Models) (template : OrderedMap Value) : (depth : Nat) → Model → List Visit
  | 0, m => (m.settled template).flatMap (fieldVisits models none m)
  | depth + 1, m =>
    (m.settled template).flatMap (fieldVisits models (some (visits models template depth)) m)

theorem fieldVisits_cases (models : Models) (deeper? : Option (Model → List Visit)) (m : Model)
    (f : Field) :
    fieldVisits models deeper? m f = [] ∨
      fieldVisits models deeper? m f = [.column [] m f.traits] ∨
      ∃ deeper h, deeper? = some deeper ∧ h.owner = m ∧ h.traits.name = f.traits.name ∧
        fieldVisits models deeper? m f =
          .relation [] h :: (deeper h.target).map (Visit.behind h) := by
  cases f with
  | scalar t type d => exact Or.inr (Or.inl rfl)
  | relation t target hasMany d =>
    cases deeper? with
    | none => exact Or.inl rfl
    | some deeper =>
      cases hm : models.get? target with
      | none => exact Or.inl (by simp [fieldVisits, hm])
      | some tm =>
        refine Or.inr (Or.inr ⟨deeper, ⟨m, t, hasMany, tm⟩, rfl, rfl, rfl, ?_⟩)
        simp [fieldVisits, hm]

theorem mem_fieldVisits_iff {models : Models} {template : OrderedMap Value}
    {deeper? : Option (Model → List Visit)} {m : Model} {v : Visit} :
    v ∈ (m.settled template).flatMap (fieldVisits models deeper? m) ↔
      (∃ traits type default, m.Declares template (.scalar traits type default) ∧
        v = .column [] m traits) ∨
      ∃ deeper h, deeper? = some deeper ∧ h.owner = m ∧ h.Follows models template ∧
        (v = .relation [] h ∨ ∃ w ∈ deeper h.target, v = Visit.behind h w) := by
  simp only [List.mem_flatMap, Model.mem_settled_iff]
  constructor
  · rintro ⟨f, hf, hv⟩
    cases f with
    | scalar t type d =>
      left
      exact ⟨t, type, d, hf, by simpa [fieldVisits] using hv⟩
    | relation t target hasMany d =>
      right
      cases deeper? with
      | none => simp [fieldVisits] at hv
      | some deeper =>
        cases hm : models.get? target with
        | none => simp [fieldVisits, hm] at hv
        | some tm =>
          refine ⟨deeper, ⟨m, t, hasMany, tm⟩, rfl, rfl, ⟨target, d, hf, hm⟩, ?_⟩
          simpa [fieldVisits, hm, eq_comm] using hv
  · rintro (⟨t, type, d, hf, rfl⟩ | ⟨deeper, h, rfl, rfl, ⟨target, d, hf, hm⟩, hv⟩)
    · exact ⟨_, hf, by simp [fieldVisits]⟩
    · exact ⟨_, hf, by simpa [fieldVisits, hm, eq_comm] using hv⟩

theorem Visit.within_behind_iff {models : Models} {template : OrderedMap Value} {depth : Nat}
    {h : Hop} (hf : h.Follows models template) (w : Visit) :
    (Visit.behind h w).Within models template (depth + 1) h.owner ↔
      w.Within models template depth h.target := by
  cases w with
  | column r m t => simp [Visit.behind, Visit.Within, Route.From, Route.last, hf]
  | relation r k => simp [Visit.behind, Visit.Within, Route.From, hf]

theorem Visit.within_zero_iff {models : Models} {template : OrderedMap Value} {m : Model}
    {v : Visit} :
    v.Within models template 0 m ↔
      ∃ traits type default, m.Declares template (.scalar traits type default) ∧
        v = .column [] m traits := by
  cases v with
  | column r owner t =>
    simp only [Visit.Within, Nat.le_zero, List.length_eq_zero_iff, Visit.column.injEq]
    constructor
    · rintro ⟨rfl, -, rfl, type, d, hd⟩
      exact ⟨t, type, d, hd, rfl, rfl, rfl⟩
    · rintro ⟨t', type, d, hd, rfl, rfl, rfl⟩
      exact ⟨rfl, trivial, rfl, type, d, hd⟩
  | relation r k => simp [Visit.Within]

theorem Visit.within_succ_iff {models : Models} {template : OrderedMap Value} {depth : Nat}
    {m : Model} {v : Visit} :
    v.Within models template (depth + 1) m ↔
      (∃ traits type default, m.Declares template (.scalar traits type default) ∧
        v = .column [] m traits) ∨
      ∃ h : Hop, h.owner = m ∧ h.Follows models template ∧
        (v = .relation [] h ∨
          ∃ w, w.Within models template depth h.target ∧ v = Visit.behind h w) := by
  constructor
  · intro hv
    -- the route is empty, or its first hop leaves the model
    cases v with
    | column r owner t =>
      cases r with
      | nil =>
        obtain ⟨-, -, rfl, type, d, hd⟩ := hv
        exact Or.inl ⟨t, type, d, hd, rfl⟩
      | cons h r =>
        obtain ⟨rfl, hf, -⟩ := hv.2.1
        exact Or.inr ⟨h, rfl, hf, Or.inr ⟨.column r owner t,
          (Visit.within_behind_iff hf _).mp hv, rfl⟩⟩
    | relation r k =>
      cases r with
      | nil =>
        obtain ⟨rfl, hf, -⟩ := hv.2
        exact Or.inr ⟨k, rfl, hf, Or.inl rfl⟩
      | cons h r =>
        obtain ⟨rfl, hf, -⟩ := hv.2
        exact Or.inr ⟨h, rfl, hf, Or.inr ⟨.relation r k,
          (Visit.within_behind_iff hf _).mp hv, rfl⟩⟩
  · rintro (⟨t, type, d, hd, rfl⟩ | ⟨h, rfl, hf, rfl | ⟨w, hw, rfl⟩⟩)
    · exact ⟨Nat.zero_le _, trivial, rfl, type, d, hd⟩
    · exact ⟨by simp, rfl, hf, trivial⟩
    · exact (Visit.within_behind_iff hf w).mpr hw

/-- The enumeration misses no visit within the depth and has no other. -/
theorem mem_visits_iff {models : Models} {template : OrderedMap Value} {depth : Nat} {m : Model}
    {v : Visit} : v ∈ visits models template depth m ↔ v.Within models template depth m := by
  -- routes are taken apart at their first hop, as the enumeration goes down by one hop
  induction depth generalizing m v with
  | zero =>
    rw [visits, mem_fieldVisits_iff, Visit.within_zero_iff]
    simp
  | succ depth ih =>
    rw [visits, mem_fieldVisits_iff, Visit.within_succ_iff]
    simp [ih]

theorem lt_append_of_ne_nil (p : List Nat) {q : List Nat} (h : q ≠ []) : p < p ++ q := by
  obtain ⟨n, rest, rfl⟩ := List.exists_cons_of_ne_nil h
  simpa using List.append_left_lt (List.nil_lt_cons n rest)

theorem pairwise_flatMap_place {α β : Type} {position : α → Nat} {place : β → List Nat}
    {g : α → List β} {as : List α} (hpositions : as.Pairwise fun a c => position a < position c)
    (hplace : ∀ a, ∀ b ∈ g a, ∃ rest, place b = position a :: rest)
    (hsorted : ∀ a, (g a).Pairwise fun b c => place b < place c) :
    (as.flatMap g).Pairwise fun b c => place b < place c := by
  rw [List.pairwise_flatMap]
  refine ⟨fun a _ => hsorted a, hpositions.imp fun hlt b hb c hc => ?_⟩
  obtain ⟨_, hp⟩ := hplace _ b hb
  obtain ⟨_, hq⟩ := hplace _ c hc
  rw [hp, hq, List.cons_lt_cons_iff]
  exact Or.inl hlt

theorem place_of_mem_fieldVisits {models : Models} {deeper? : Option (Model → List Visit)}
    {m : Model} {f : Field} {v : Visit} (hv : v ∈ fieldVisits models deeper? m f) :
    ∃ rest, v.place = m.position f.traits.name :: rest := by
  rcases fieldVisits_cases models deeper? m f with hnone | hone | ⟨deeper, h, -, rfl, hname, hmany⟩
  · simp [hnone] at hv
  · obtain rfl : v = .column [] m f.traits := by simpa [hone] using hv
    exact ⟨[], rfl⟩
  · rw [hmany, List.mem_cons, List.mem_map] at hv
    rw [← hname]
    obtain rfl | ⟨w, -, rfl⟩ := hv
    · exact ⟨[], rfl⟩
    · exact ⟨w.place, Visit.place_behind h w⟩

theorem fieldVisits_sorted {models : Models} {deeper? : Option (Model → List Visit)}
    (hdeeper : ∀ deeper, deeper? = some deeper →
      ∀ m, (deeper m).Pairwise fun v w => v.place < w.place) (m : Model) (f : Field) :
    (fieldVisits models deeper? m f).Pairwise fun v w => v.place < w.place := by
  rcases fieldVisits_cases models deeper? m f with hnone | hone | ⟨deeper, h, hd, rfl, -, hmany⟩
  · simp [hnone]
  · simp [hone]
  · rw [hmany, List.pairwise_cons, List.pairwise_map]
    refine ⟨?_, ?_⟩
    · intro v hv
      obtain ⟨w, -, rfl⟩ := List.mem_map.mp hv
      rw [Visit.place_behind]
      exact lt_append_of_ne_nil [h.owner.position h.traits.name] w.place_ne_nil
    · refine (hdeeper deeper hd h.target).imp fun hlt => ?_
      rw [Visit.place_behind, Visit.place_behind, List.cons_lt_cons_iff]
      exact Or.inr ⟨rfl, hlt⟩

theorem settled_visits_sorted {models : Models} (template : OrderedMap Value)
    {deeper? : Option (Model → List Visit)}
    (hdeeper : ∀ deeper, deeper? = some deeper →
      ∀ m, (deeper m).Pairwise fun v w => v.place < w.place) (m : Model) :
    ((m.settled template).flatMap (fieldVisits models deeper? m)).Pairwise
      fun v w => v.place < w.place :=
  pairwise_flatMap_place (Model.settled_positions template m)
    (fun _ _ hv => place_of_mem_fieldVisits hv) fun f => fieldVisits_sorted hdeeper m f

/-- The enumeration is in the depth-first order of declaration. -/
theorem visits_sorted (models : Models) (template : OrderedMap Value) (depth : Nat) (m : Model) :
    (visits models template depth m).Pairwise fun v w => v.place < w.place := by
  induction depth generalizing m with
  | zero => exact settled_visits_sorted template (by simp) m
  | succ depth ih =>
    refine settled_visits_sorted template ?_ m
    intro deeper he m'
    cases he
    exact ih m'

/-! ### Names determine visits -/

theorem Model.Declares.eq_of_name {template : OrderedMap Value} {m : Model} {f g : Field}
    (hf : m.Declares template f) (hg : m.Declares template g)
    (hname : f.traits.name = g.traits.name) : f = g := by
  obtain ⟨raw, hraw, hf⟩ := hf
  obtain ⟨raw', hraw', hg⟩ := hg
  rw [← hname] at hraw' hg
  rw [← OrderedMap.get?_eq_some_iff] at hraw hraw'
  have hsame : raw = raw' := Option.some.inj (hraw.symm.trans hraw')
  rw [← hsame, hf] at hg
  exact Except.ok.inj hg

theorem Hop.eq_of_name {models : Models} {template : OrderedMap Value} {h k : Hop}
    (hh : h.Follows models template) (hk : k.Follows models template)
    (howner : h.owner = k.owner) (hname : h.traits.name = k.traits.name) : h = k := by
  obtain ⟨target, d, hdecl, htarget⟩ := hh
  obtain ⟨target', d', hdecl', htarget'⟩ := hk
  rw [← howner] at hdecl'
  have hfield := hdecl.eq_of_name hdecl' hname
  injection hfield with htraits hnames hmany
  rw [← hnames, htarget] at htarget'
  have hmodel : h.target = k.target := Option.some.inj htarget'
  cases h
  cases k
  simp_all only

theorem Route.eq_of_names {models : Models} {template : OrderedMap Value} {m : Model}
    {r s : Route} (hr : Route.From models template m r) (hs : Route.From models template m s)
    (hnames : Route.names r = Route.names s) : r = s := by
  induction r generalizing m s with
  | nil =>
    cases s with
    | nil => rfl
    | cons k s => simp [Route.names] at hnames
  | cons h r ih =>
    cases s with
    | nil => simp [Route.names] at hnames
    | cons k s =>
      simp only [Route.names, List.map_cons, List.cons.injEq] at hnames
      obtain ⟨hm, hfollows, hr⟩ := hr
      obtain ⟨hm', hfollows', hs⟩ := hs
      obtain rfl := Hop.eq_of_name hfollows hfollows' (hm.trans hm'.symm) hnames.1
      rw [ih hr hs hnames.2]

theorem Visit.eq_of_names {models : Models} {template : OrderedMap Value} {depth : Nat}
    {m : Model} {v w : Visit} (hv : v.Within models template depth m)
    (hw : w.Within models template depth m) (hnames : v.names = w.names) : v = w := by
  obtain ⟨hroutes, hlast⟩ := List.append_inj' hnames rfl
  have hname : v.name = w.name := by simpa using hlast
  -- equal routes end at one model, which declares one field of the name: a scalar or a relation
  cases v with
  | column r owner t =>
    obtain ⟨-, hr, rfl, type, d, hd⟩ := hv
    cases w with
    | column s owner' t' =>
      obtain ⟨-, hs, rfl, type', d', hd'⟩ := hw
      obtain rfl := Route.eq_of_names hr hs hroutes
      have hfield := hd.eq_of_name hd' hname
      injection hfield with htraits
      rw [htraits]
    | relation s k =>
      obtain ⟨-, hs⟩ := hw
      obtain ⟨hs, hk, ⟨target, d', hd', -⟩, -⟩ := (Route.from_append s [k]).mp hs
      obtain rfl := Route.eq_of_names hr hs hroutes
      rw [hk] at hd'
      have hfield := hd.eq_of_name hd' hname
      cases hfield
  | relation r h =>
    obtain ⟨-, hr⟩ := hv
    obtain ⟨hr, hh, hfollows, -⟩ := (Route.from_append r [h]).mp hr
    cases w with
    | column s owner' t' =>
      obtain ⟨-, hs, rfl, type, d, hd⟩ := hw
      obtain ⟨target, d', hd', -⟩ := hfollows
      obtain rfl := Route.eq_of_names hr hs hroutes
      rw [hh] at hd'
      have hfield := hd'.eq_of_name hd hname
      cases hfield
    | relation s k =>
      obtain ⟨-, hs⟩ := hw
      obtain ⟨hs, hk, hfollows', -⟩ := (Route.from_append s [k]).mp hs
      obtain rfl := Route.eq_of_names hr hs hroutes
      rw [Hop.eq_of_name hfollows hfollows' (hh.trans hk.symm) hname]

theorem visits_names_nodup (models : Models) (template : OrderedMap Value) (depth : Nat)
    (m : Model) : ((visits models template depth m).map Visit.names).Nodup := by
  rw [List.Nodup, List.pairwise_map]
  refine (visits_sorted models template depth m).imp_of_mem fun hv hw hlt heq => ?_
  rw [mem_visits_iff] at hv hw
  rw [Visit.eq_of_names hv hw heq] at hlt
  exact List.lt_irrefl _ hlt

theorem Visit.place_lt_of_behind {r : Route} {h : Hop} {w : Visit}
    (hbehind : (r ++ [h]) <+: w.route) : (Visit.relation r h).place < w.place := by
  obtain ⟨rest, hrest⟩ := hbehind
  have hplace : w.place = (Visit.relation r h).place ++
      (rest.map (fun h => h.owner.position h.traits.name) ++ [w.owner.position w.name]) := by
    rw [Visit.place_relation, ← List.append_assoc, ← List.map_append, hrest]
    rfl
  rw [hplace]
  exact lt_append_of_ne_nil _ (by simp)

theorem mem_of_place_lt {passed rest : List Visit} {v w : Visit}
    (hsorted : (passed ++ v :: rest).Pairwise fun v w => v.place < w.place)
    (hw : w ∈ passed ++ v :: rest) (hlt : w.place < v.place) : w ∈ passed := by
  obtain ⟨-, hrest, -⟩ := List.pairwise_append.mp hsorted
  rcases List.mem_append.mp hw with hpassed | hbehind
  · exact hpassed
  · rcases List.mem_cons.mp hbehind with rfl | hbehind
    · exact absurd hlt (List.lt_irrefl _)
    · have hgt := (List.pairwise_cons.mp hrest).1 w hbehind
      exact absurd (List.lt_trans hlt hgt) (List.lt_irrefl _)

theorem relation_sublist_visits {models : Models} {template : OrderedMap Value} {depth : Nat}
    {m : Model} {r : Route} {h : Hop} {w : Visit}
    (hv : .relation r h ∈ visits models template depth m)
    (hw : w ∈ visits models template depth m) (hbehind : (r ++ [h]) <+: w.route) :
    [.relation r h, w].Sublist (visits models template depth m) := by
  -- the list is split at the later visit, so that the order puts the relation in front
  obtain ⟨passed, rest, hsplit⟩ := List.append_of_mem hw
  have hsorted := visits_sorted models template depth m
  rw [hsplit] at hv hsorted ⊢
  have hpassed := mem_of_place_lt hsorted hv (Visit.place_lt_of_behind hbehind)
  exact (List.singleton_sublist.mpr hpassed).append
    (List.singleton_sublist.mpr (List.mem_cons_self ..))

/--
A list of visits is the depth-first traversal of a model: it holds every visit within the depth and
no other, in the order in which they are declared, none of them twice, and a relation stands before
everything that lies behind it.
-/
structure DepthFirst (models : Models) (template : OrderedMap Value) (depth : Nat) (m : Model)
    (vs : List Visit) : Prop where
  mem_iff : ∀ v, v ∈ vs ↔ v.Within models template depth m
  sorted : vs.Pairwise fun v w => v.place < w.place
  names_nodup : (vs.map Visit.names).Nodup
  relation_first : ∀ r h w, .relation r h ∈ vs → w ∈ vs → (r ++ [h]) <+: w.route →
    [.relation r h, w].Sublist vs

theorem visits_depthFirst (models : Models) (template : OrderedMap Value) (depth : Nat)
    (m : Model) : DepthFirst models template depth m (visits models template depth m) where
  mem_iff _ := mem_visits_iff
  sorted := visits_sorted models template depth m
  names_nodup := visits_names_nodup models template depth m
  relation_first _ _ _ := relation_sublist_visits

end RelationalModels
