import RelationalModels.Proofs.Compilation
import RelationalModels.Proofs.Projection

/-!
# What each field becomes

A scalar becomes a column, a relation to one row a column with a foreign key, and a relation to many
rows a junction table. `compile_partitions_fields` states that a compiled schema holds this for every
field of every model, in the order of declaration, and nothing else.
-/

namespace RelationalModels

inductive FieldRole where
  | column
  | reference
  | junction
  deriving DecidableEq

namespace Field

def role : Field → FieldRole
  | scalar _ _ _ => .column
  | relation _ _ false _ => .reference
  | relation _ _ true _ => .junction

def target? : Field → Option String
  | scalar _ _ _ => none
  | relation _ target _ _ => some target

def LeadsTo (models : Models) (f : Field) (name : String) (m : Model) : Prop :=
  f.target? = some name ∧ models.get? name = some m

end Field

/-! ### Parts of related lists -/

theorem forall₂_filter_filterMap {α β γ : Type} {R : α → β → Prop} {S : α → γ → Prop}
    {p : α → Bool} {g : β → Option γ} {as : List α} {bs : List β} (h : List.Forall₂ R as bs)
    (hyes : ∀ a, ∀ b ∈ bs, R a b → p a = true → ∃ c, g b = some c ∧ S a c)
    (hno : ∀ a, ∀ b ∈ bs, R a b → p a = false → g b = none) :
    List.Forall₂ S (as.filter p) (bs.filterMap g) := by
  induction h with
  | nil => exact .nil
  | @cons a b as bs hab _ ih =>
    have hrest := ih (fun a b hb => hyes a b (List.mem_cons_of_mem _ hb))
      (fun a b hb => hno a b (List.mem_cons_of_mem _ hb))
    cases hp : p a with
    | false =>
      have hb := hno a b (List.mem_cons_self ..) hab hp
      rw [List.filter_cons_of_neg (by simp [hp]), List.filterMap_cons_none hb]
      exact hrest
    | true =>
      obtain ⟨c, hb, hs⟩ := hyes a b (List.mem_cons_self ..) hab hp
      rw [List.filter_cons_of_pos hp, List.filterMap_cons_some hb]
      exact .cons hs hrest

theorem map_eq_of_forall₂ {α β γ : Type} {R : α → β → Prop} {g : α → γ} {k : β → γ} {as : List α}
    {bs : List β} (h : List.Forall₂ R as bs) (hr : ∀ a b, R a b → g a = k b) :
    as.map g = bs.map k := by
  induction h with
  | nil => rfl
  | cons hab _ ih => rw [List.map_cons, List.map_cons, hr _ _ hab, ih]

theorem mapM_eq_ok_iff {ε α β : Type} {g : α → Except ε β} {as : List α} {bs : List β} :
    as.mapM g = .ok bs ↔ List.Forall₂ (fun a b => g a = .ok b) as bs := by
  induction as generalizing bs with
  | nil => simp [pure, Except.pure, List.forall₂_nil_left_iff, eq_comm]
  | cons a as ih =>
    rw [List.mapM_cons]
    cases ha : g a with
    | error e => simp [bind, Except.bind, List.forall₂_cons_left_iff, ha]
    | ok b =>
      cases bs with
      | nil => cases has : as.mapM g <;> simp [bind, Except.bind, pure, Except.pure]
      | cons b' bs =>
        rw [List.forall₂_cons, ← ih, ha]
        cases has : as.mapM g <;> simp [bind, Except.bind, pure, Except.pure]

/-! ### Contributions by role -/

theorem settled_of_contributions {models : Models} {m : Model} {template : OrderedMap Value}
    {entries : List (String × OrderedMap Value)} {cs : List Contribution}
    (h : List.Forall₂ (fun e c => Contribution.ofDeclaration models m template e.1 e.2 = .ok c)
      entries cs) :
    ∃ fields, List.Forall₂ (fun e f => Field.resolve e.1 e.2 template m.id = .ok f) entries fields ∧
      List.Forall₂ (fun f c => Contribution.ofField models m f = .ok c) fields cs := by
  induction h with
  | nil => exact ⟨[], .nil, .nil⟩
  | cons hc _ ih =>
    obtain ⟨f, hf, hc⟩ := Contribution.ofDeclaration_eq_ok_iff.mp hc
    obtain ⟨fields, hfields, hcs⟩ := ih
    exact ⟨f :: fields, .cons hf hfields, .cons hc hcs⟩

theorem resolveFields_names {m : Model} {template : OrderedMap Value} {fields : List Field}
    (h : m.resolveFields template = .ok fields) :
    (fields.map fun f => f.traits.name) = m.fields.names := by
  rw [Model.resolveFields, mapM_eq_ok_iff] at h
  exact (map_eq_of_forall₂ h fun e f hf => (Field.resolve_traits_name hf).symm).symm

inductive Contributes (models : Models) (m : Model) (f : Field) : Contribution → Prop where
  | column (hrole : f.role = .column) : Contributes models m f (.column (.ofField f))
  | reference (hrole : f.role = .reference) (name : String) (target : Model)
      (hleads : f.LeadsTo models name target) :
      Contributes models m f (.reference (.ofField f)
        { constraint := Naming.foreignKeyName m.tableName f.traits.name
          table := target.tableName })
  | junction (hrole : f.role = .junction) (name : String) (target : Model)
      (hleads : f.LeadsTo models name target) :
      Contributes models m f
        (.junction (.build m.tableName f.traits.name name target.tableName))

theorem contributes_of_ofField {models : Models} {m : Model} {f : Field} {c : Contribution}
    (h : Contribution.ofField models m f = .ok c) : Contributes models m f c := by
  cases f with
  | scalar traits type default =>
    obtain rfl : Contribution.column _ = c := Except.ok.inj h
    exact .column rfl
  | relation traits target hasMany default =>
    obtain ⟨targetModel, hget, rfl⟩ := Contribution.target_of_ofField h
    cases hasMany with
    | false => exact .reference rfl target targetModel ⟨rfl, hget⟩
    | true => exact .junction rfl target targetModel ⟨rfl, hget⟩

/-! ### Compiled models -/

structure KeyOf (models : Models) (m : Model) (t : Table) (f : Field) (e : String × ForeignKey) :
    Prop where
  name : e.1 = f.traits.name
  constraint : e.2.constraint = Naming.foreignKeyName m.tableName f.traits.name
  references : ∃ name target, f.LeadsTo models name target ∧
    e.2.table = target.tableName ∧ e.2.column = Naming.surrogateKey
  column : ∃ c, t.column? e.1 = some c ∧ c.sqlType = "INT(11)" ∧ c.storage = .foreignKey

structure JunctionOf (models : Models) (m : Model) (f : Field) (j : JunctionTable) : Prop where
  ownerTable : j.ownerTable = m.tableName
  fieldName : j.fieldName = f.traits.name
  target : ∃ name target, f.LeadsTo models name target ∧ j.targetTable = target.tableName ∧
    j = .build m.tableName f.traits.name name target.tableName

/-- A table and junction tables hold what the fields of a model become, each in its one place. -/
structure Partitioned (models : Models) (m : Model) (fields : List Field) (t : Table)
    (js : List JunctionTable) : Prop where
  name : t.name = m.tableName
  columns : t.columns = (fields.filter fun f => f.role ≠ .junction).map Column.ofField
  keys : List.Forall₂ (KeyOf models m t) (fields.filter fun f => f.role = .reference)
    t.foreignKeys.entries
  junctions : List.Forall₂ (JunctionOf models m) (fields.filter fun f => f.role = .junction) js
  column_iff : ∀ f ∈ fields, f.traits.name ∈ t.columns.map (fun c => c.name) ↔ f.role ≠ .junction
  key_iff : ∀ f ∈ fields, f.traits.name ∈ t.foreignKeys.names ↔ f.role = .reference
  junction_iff : ∀ f ∈ fields,
    f.traits.name ∈ js.map (fun j => j.fieldName) ↔ f.role = .junction

theorem name_mem_filter_iff {fields : List Field} {p : Field → Bool}
    (hnames : (fields.map fun f => f.traits.name).Nodup) {f : Field} (hf : f ∈ fields) :
    f.traits.name ∈ (fields.filter p).map (fun f => f.traits.name) ↔ p f = true := by
  constructor
  · intro hmem
    obtain ⟨g, hg, hname⟩ := List.mem_map.mp hmem
    obtain ⟨hg, hp⟩ := List.mem_filter.mp hg
    rwa [← List.inj_on_of_nodup_map hnames hg hf hname]
  · intro hp
    exact List.mem_map_of_mem (f := fun f : Field => f.traits.name) (List.mem_filter.mpr ⟨hf, hp⟩)

theorem columns_of_fields {models : Models} {m : Model} {fields : List Field}
    {cs : List Contribution}
    (h : List.Forall₂ (fun f c => Contribution.ofField models m f = .ok c) fields cs) :
    cs.filterMap Contribution.column? =
      (fields.filter fun f => f.role ≠ .junction).map Column.ofField := by
  have hcolumns : List.Forall₂ (fun f col => Column.ofField f = col)
      (fields.filter fun f => f.role ≠ .junction) (cs.filterMap Contribution.column?) := by
    refine forall₂_filter_filterMap h ?_ ?_
    · intro f c _ hc hrole
      cases contributes_of_ofField hc with
      | column _ => exact ⟨_, rfl, rfl⟩
      | reference _ _ _ _ => exact ⟨_, rfl, rfl⟩
      | junction hjunction _ _ _ => simp [hjunction] at hrole
    · intro f c _ hc hrole
      cases contributes_of_ofField hc with
      | column hcolumn => simp [hcolumn] at hrole
      | reference hreference _ _ _ => simp [hreference] at hrole
      | junction _ _ _ _ => rfl
  have hmap := map_eq_of_forall₂ hcolumns (g := Column.ofField) (k := id) fun f col hcol => hcol
  rw [List.map_id] at hmap
  exact hmap.symm

theorem junctions_of_fields {models : Models} {m : Model} {fields : List Field}
    {cs : List Contribution}
    (h : List.Forall₂ (fun f c => Contribution.ofField models m f = .ok c) fields cs) :
    List.Forall₂ (JunctionOf models m) (fields.filter fun f => f.role = .junction)
      (cs.filterMap Contribution.junction?) := by
  refine forall₂_filter_filterMap h ?_ ?_
  · intro f c _ hc hrole
    cases contributes_of_ofField hc with
    | column hcolumn => simp [hcolumn] at hrole
    | reference hreference _ _ _ => simp [hreference] at hrole
    | junction _ name target hleads => exact ⟨_, rfl, rfl, rfl, name, target, hleads, rfl, rfl⟩
  · intro f c _ hc hrole
    cases contributes_of_ofField hc with
    | column _ => rfl
    | reference _ _ _ _ => rfl
    | junction hjunction _ _ _ => simp [hjunction] at hrole

theorem keys_of_fields {models : Models} {m : Model} {template : OrderedMap Value}
    (collation : Option String) {fields : List Field} {cs : List Contribution}
    (hcs : List.Forall₂ (fun e c => Contribution.ofDeclaration models m template e.1 e.2 = .ok c)
      m.fields.entries cs)
    (h : List.Forall₂ (fun f c => Contribution.ofField models m f = .ok c) fields cs) :
    List.Forall₂ (KeyOf models m (Table.ofContributions m collation cs))
      (fields.filter fun f => f.role = .reference) (cs.filterMap Contribution.foreignKey?) := by
  refine forall₂_filter_filterMap h ?_ ?_
  · intro f c hmem hc hrole
    cases contributes_of_ofField hc with
    | column hcolumn => simp [hcolumn] at hrole
    | junction hjunction _ _ _ => simp [hjunction] at hrole
    | reference hreference name target hleads =>
      have hstorage : f.storage = .foreignKey := by
        cases f with
        | scalar traits type default => cases hreference
        | relation traits target hasMany default => rfl
      have htype : f.sqlType = "INT(11)" := by rw [Field.sqlType, hstorage]
      have hfound := ofContributions_column? collation hcs hmem rfl
      exact ⟨_, rfl, rfl, rfl, ⟨name, target, hleads, rfl, rfl⟩, _, hfound, htype, hstorage⟩
  · intro f c _ hc hrole
    cases contributes_of_ofField hc with
    | column _ => rfl
    | junction _ _ _ _ => rfl
    | reference hreference _ _ _ => simp [hreference] at hrole

theorem compileModel_partitioned {models : Models} {m : Model} {template : OrderedMap Value}
    {collation : Option String} {t : Table} {js : List JunctionTable}
    (h : compileModel models m template collation = .ok (t, js)) :
    ∃ fields, m.resolveFields template = .ok fields ∧ Partitioned models m fields t js := by
  obtain ⟨cs, hcs, hout⟩ := compileModel_eq_ok_iff.mp h
  obtain ⟨rfl, rfl⟩ := Prod.mk.inj hout
  obtain ⟨fields, hfields, hcontributions⟩ := settled_of_contributions hcs
  have hresolve : m.resolveFields template = .ok fields := mapM_eq_ok_iff.mpr hfields
  have hnodup : (fields.map fun f => f.traits.name).Nodup := by
    rw [resolveFields_names hresolve]
    exact m.fields.nodup
  have hcolumns : (Table.ofContributions m collation cs).columns = _ :=
    columns_of_fields hcontributions
  have hkeys := keys_of_fields collation hcs hcontributions
  rw [← ofContributions_keys collation hcs] at hkeys
  have hjunctions := junctions_of_fields hcontributions
  refine ⟨fields, hresolve, rfl, hcolumns, hkeys, hjunctions, ?_, ?_, ?_⟩
  · intro f hf
    have hname : ((fun c : Column => c.name) ∘ Column.ofField) = fun f => f.traits.name := rfl
    rw [hcolumns, List.map_map, hname]
    simpa using name_mem_filter_iff hnodup hf (p := fun f => f.role ≠ .junction)
  · intro f hf
    rw [OrderedMap.names, ← map_eq_of_forall₂ hkeys fun f e he => he.name.symm]
    simpa using name_mem_filter_iff hnodup hf (p := fun f => f.role = .reference)
  · intro f hf
    rw [← map_eq_of_forall₂ hjunctions fun f j hj => hj.fieldName.symm]
    simpa using name_mem_filter_iff hnodup hf (p := fun f => f.role = .junction)

/-! ### Schemas -/

/--
A schema that compiles has one table for each model, in their order, and for each model in turn its
junction tables. These hold what the settled fields of the model become, each in its one place.
-/
theorem compile_partitions_fields {sources : OrderedMap ModelSource} {template : OrderedMap Value}
    {collation : Option String} {schema : Schema}
    (h : compileSchema sources template collation = .ok schema) :
    ∃ models outs, parseModels sources = .ok models ∧ models.names = sources.names ∧
      schema.tables = outs.map Prod.fst ∧ schema.junctions = outs.flatMap Prod.snd ∧
      List.Forall₂ (fun m out => ∃ fields, m.resolveFields template = .ok fields ∧
          (fields.map fun f => f.traits.name) = m.fields.names ∧
          Partitioned models m fields out.1 out.2)
        models.values outs := by
  obtain ⟨models, hparse, hcompile⟩ := compileSchema_eq_ok h
  obtain ⟨outs, houts, rfl⟩ := compileEach_eq_ok_iff.mp hcompile
  refine ⟨models, outs, hparse, parseModels_names hparse, rfl, rfl, houts.imp ?_⟩
  intro m out hout
  obtain ⟨fields, hfields, hpartitioned⟩ := compileModel_partitioned hout
  exact ⟨fields, hfields, resolveFields_names hfields, hpartitioned⟩

/-! ### Posts with an author and tags -/

def blog : OrderedMap ModelSource :=
  .ofList
    [("post", .admitted (.ofFields
       [("title", .empty), ("author", declaredRelation "user" false true),
        ("tags", declaredRelation "tag" true false)])),
     ("user", .admitted (.ofFields [("name", .empty)])),
     ("tag", .admitted (.ofFields [("label", .empty)]))]

def blogModels : Models :=
  .ofList
    [("post", (Model.ofFields
       [("title", .empty), ("author", declaredRelation "user" false true),
        ("tags", declaredRelation "tag" true false)]).withId "post"),
     ("user", (Model.ofFields [("name", .empty)]).withId "user"),
     ("tag", (Model.ofFields [("label", .empty)]).withId "tag")]

theorem blog_admitted : parseModels blog = .ok blogModels := by
  decide +kernel

def textColumn (name : String) : Column where
  name := name
  sqlType := "VARCHAR(255)"
  storage := .boundedString

def blogSchema : Schema where
  tables :=
    [{ name := "post"
       columns :=
         [textColumn "title",
          { name := "author"
            sqlType := "INT(11)"
            storage := .foreignKey
            constraints := ["NOT NULL"]
            nullable := false }]
       collation := some "utf8_general_ci"
       foreignKeys := .ofList [("author", { constraint := "FK_post_author", table := "user" })] },
     { name := "user", columns := [textColumn "name"], collation := some "utf8_general_ci" },
     { name := "tag", columns := [textColumn "label"], collation := some "utf8_general_ci" }]
  junctions :=
    [{ name := "post_tags"
       columns := [Column.link "id_post", Column.link "id_tags"]
       foreignKeys := .ofList
         [("id_post", { constraint := "FK_post_tags_tags", table := "post" }),
          ("id_tags", { constraint := "FK_post_tags_tag", table := "tag" })]
       hasId := false
       primaryKeys := ["id_post", "id_tags"]
       ownerTable := "post"
       fieldName := "tags"
       targetTable := "tag" }]

theorem blog_compiles :
    compileSchema blog defaultTemplate (some "utf8_general_ci") = .ok blogSchema := by
  decide +kernel

theorem blog_partitions_fields :
    compileSchema blog defaultTemplate (some "utf8_general_ci") = .ok blogSchema ∧
      ∃ models outs, parseModels blog = .ok models ∧ models.names = blog.names ∧
        blogSchema.tables = outs.map Prod.fst ∧ blogSchema.junctions = outs.flatMap Prod.snd ∧
        List.Forall₂ (fun m out => ∃ fields, m.resolveFields defaultTemplate = .ok fields ∧
            (fields.map fun f => f.traits.name) = m.fields.names ∧
            Partitioned models m fields out.1 out.2)
          models.values outs :=
  ⟨blog_compiles, compile_partitions_fields blog_compiles⟩

end RelationalModels
