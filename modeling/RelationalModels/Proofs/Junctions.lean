import RelationalModels.Proofs.Partition

/-!
# The two sides of a junction table

A relation to many rows becomes a junction table with a column for each of its sides. The column of
the owner is named after the owner's table and that of the target after the field, and the foreign
keys stand under the names of the columns. `junction_twoSided_iff` states that a junction table has
both sides exactly when its field and the table of its owner have different names.
`contacts_lose_owner` shows a relation where they have one name and the key to the owner is lost.
-/

namespace RelationalModels

/-! ### Fields of one role -/

def Models.fieldsOf (models : Models) (template : OrderedMap Value) (role : FieldRole) :
    List (Model × Field) :=
  models.values.flatMap fun m =>
    ((m.settled template).filter fun f => f.role = role).map fun f => (m, f)

theorem Models.mem_fieldsOf {models : Models} {template : OrderedMap Value} {role : FieldRole}
    {m : Model} {f : Field} :
    (m, f) ∈ models.fieldsOf template role ↔
      m ∈ models.values ∧ f ∈ m.settled template ∧ f.role = role := by
  simp [fieldsOf]

theorem Model.settled_names_nodup (template : OrderedMap Value) (m : Model) (p : Field → Bool) :
    (((m.settled template).filter p).map fun f => f.traits.name).Nodup :=
  ((m.settled_names_sublist template).nodup m.fields.nodup).sublist (List.filter_sublist.map _)

theorem Model.settled_of_resolveFields {m : Model} {template : OrderedMap Value}
    {fields : List Field} (h : m.resolveFields template = .ok fields) :
    m.settled template = fields := by
  have hentries : ∀ {entries : List (String × OrderedMap Value)} {fields : List Field},
      List.Forall₂ (fun e f => Field.resolve e.1 e.2 template m.id = .ok f) entries fields →
        (entries.filterMap fun e => (Field.resolve e.1 e.2 template m.id).toOption) = fields := by
    intro entries fields h
    induction h with
    | nil => rfl
    | cons hf _ ih => rw [List.filterMap_cons, hf, ih]; rfl
  exact hentries (mapM_eq_ok_iff.mp h)

section Compiled

variable {models : Models} {template : OrderedMap Value} {collation : Option String}
  {schema : Schema}

theorem compile_of_admitted {sources : OrderedMap ModelSource}
    (h : compileSchema sources template collation = .ok schema)
    (hparse : parseModels sources = .ok models) :
    models.compile template collation = .ok schema := by
  obtain ⟨models', hparse', hcompile⟩ := compileSchema_eq_ok h
  obtain rfl : models = models' := Except.ok.inj (hparse.symm.trans hparse')
  exact hcompile

theorem partitioned_of_compile (h : models.compile template collation = .ok schema) :
    ∃ outs, schema = ⟨outs.map Prod.fst, outs.flatMap Prod.snd⟩ ∧
      List.Forall₂ (fun m out => m.resolveFields template = .ok (m.settled template) ∧
        Partitioned models m (m.settled template) out.1 out.2) models.values outs := by
  obtain ⟨outs, houts, hschema⟩ := compileEach_eq_ok_iff.mp h
  refine ⟨outs, hschema, houts.imp ?_⟩
  intro m out hout
  obtain ⟨fields, hfields, hpartitioned⟩ := compileModel_partitioned hout
  rw [Model.settled_of_resolveFields hfields]
  exact ⟨hfields, hpartitioned⟩

theorem resolveFields_of_compile (h : models.compile template collation = .ok schema) {m : Model}
    (hm : m ∈ models.values) : m.resolveFields template = .ok (m.settled template) := by
  obtain ⟨outs, -, houts⟩ := partitioned_of_compile h
  obtain ⟨out, -, hfields, -⟩ := exists_related houts hm
  exact hfields

theorem junctions_of_compile (h : models.compile template collation = .ok schema) :
    List.Forall₂ (fun p j => JunctionOf models p.1 p.2 j) (models.fieldsOf template .junction)
      schema.junctions := by
  obtain ⟨outs, rfl, houts⟩ := partitioned_of_compile h
  refine List.rel_flatMap houts ?_
  intro m out hout
  rw [List.forall₂_map_left_iff]
  exact hout.2.junctions

end Compiled

/-! ### Sides -/

theorem Naming.junctionColumn_inj {a b : String} :
    Naming.junctionColumn a = Naming.junctionColumn b ↔ a = b := by
  simp [Naming.junctionColumn]

def ForeignKey.LeadsTo (k : ForeignKey) (table : String) : Prop :=
  k.table = table ∧ k.column = Naming.surrogateKey

namespace JunctionTable

/--
A junction table with two columns that make up its primary key, one with a foreign key to the table
of the owner and the other with one to the table of the target.
-/
def TwoSided (j : JunctionTable) (ownerTable targetTable : String) : Prop :=
  ∃ (c d : Column) (k l : ForeignKey), c.name ≠ d.name ∧ j.columns = [c, d] ∧
    j.primaryKeys = [c.name, d.name] ∧ j.foreignKeys.entries = [(c.name, k), (d.name, l)] ∧
    k.LeadsTo ownerTable ∧ l.LeadsTo targetTable

/-- A junction table with one column, twice, and no foreign key but that to the target. -/
def Merged (j : JunctionTable) (targetTable : String) : Prop :=
  ∃ (c : Column) (k : ForeignKey), j.columns = [c, c] ∧ j.primaryKeys = [c.name, c.name] ∧
    j.foreignKeys.entries = [(c.name, k)] ∧ k.LeadsTo targetTable

theorem Merged.not_twoSided {j : JunctionTable} {ownerTable targetTable : String}
    (h : j.Merged targetTable) : ¬ j.TwoSided ownerTable targetTable := by
  obtain ⟨c, k, hcolumns, -⟩ := h
  rintro ⟨d, e, l, m, hne, hsides, -⟩
  obtain ⟨rfl, hrest⟩ := List.cons.inj (hcolumns.symm.trans hsides)
  exact hne (congrArg Column.name (List.cons.inj hrest).1)

variable {ownerTable fieldName targetModel targetTable : String}

theorem build_keys_of_ne (hne : fieldName ≠ ownerTable) :
    (build ownerTable fieldName targetModel targetTable).foreignKeys.entries =
      [(Naming.junctionColumn ownerTable,
        { constraint := Naming.foreignKeyName
            (Naming.junctionTableName ownerTable fieldName) fieldName
          table := ownerTable }),
       (Naming.junctionColumn fieldName,
        { constraint := Naming.foreignKeyName
            (Naming.junctionTableName ownerTable fieldName) targetModel
          table := targetTable })] :=
  OrderedMap.ofList_entries _ (by simp [Naming.junctionColumn_inj, hne.symm])

theorem build_keys_of_eq (heq : fieldName = ownerTable) :
    (build ownerTable fieldName targetModel targetTable).foreignKeys.entries =
      [(Naming.junctionColumn fieldName,
        { constraint := Naming.foreignKeyName
            (Naming.junctionTableName ownerTable fieldName) targetModel
          table := targetTable })] := by
  subst heq
  -- the second key is written in the place of the first
  simp [build, OrderedMap.ofList, OrderedMap.insertMany, OrderedMap.insert, OrderedMap.empty,
    insertEntry]

theorem build_twoSided (hne : fieldName ≠ ownerTable) :
    (build ownerTable fieldName targetModel targetTable).TwoSided ownerTable targetTable := by
  refine ⟨Column.link (Naming.junctionColumn ownerTable),
    Column.link (Naming.junctionColumn fieldName), _, _, ?_, rfl, rfl, build_keys_of_ne hne,
    ⟨rfl, rfl⟩, ⟨rfl, rfl⟩⟩
  exact fun h => hne (Naming.junctionColumn_inj.mp h).symm

theorem build_merged (heq : fieldName = ownerTable) :
    (build ownerTable fieldName targetModel targetTable).Merged targetTable := by
  refine ⟨Column.link (Naming.junctionColumn fieldName), _, ?_, ?_, build_keys_of_eq heq,
    ⟨rfl, rfl⟩⟩
  · rw [heq]
    rfl
  · rw [heq]
    rfl

theorem build_twoSided_iff :
    (build ownerTable fieldName targetModel targetTable).TwoSided ownerTable targetTable ↔
      fieldName ≠ ownerTable := by
  constructor
  · intro hsides heq
    exact (build_merged heq).not_twoSided hsides
  · exact build_twoSided

end JunctionTable

/-! ### Schemas -/

structure SidesOf (models : Models) (m : Model) (f : Field) (j : JunctionTable) : Prop where
  ownerTable : j.ownerTable = m.tableName
  fieldName : j.fieldName = f.traits.name
  sides : ∃ name target, f.LeadsTo models name target ∧ j.targetTable = target.tableName ∧
    (j.TwoSided m.tableName target.tableName ↔ f.traits.name ≠ m.tableName) ∧
    (f.traits.name = m.tableName → j.Merged target.tableName)

theorem JunctionOf.sides {models : Models} {m : Model} {f : Field} {j : JunctionTable}
    (h : JunctionOf models m f j) : SidesOf models m f j := by
  obtain ⟨name, target, hleads, htarget, hbuild⟩ := h.target
  refine ⟨h.ownerTable, h.fieldName, name, target, hleads, htarget, ?_, ?_⟩
  · rw [hbuild]
    exact JunctionTable.build_twoSided_iff
  · rw [hbuild]
    exact JunctionTable.build_merged

/--
All fields of models that compile are settled, and each relation to many rows among them has its
junction table, in their order. The table has a side for the owner and one for the target exactly
when the field is not named like the table of the owner; otherwise the sides are merged.
-/
theorem junction_twoSided_iff {sources : OrderedMap ModelSource} {models : Models}
    {template : OrderedMap Value} {collation : Option String} {schema : Schema}
    (h : compileSchema sources template collation = .ok schema)
    (hparse : parseModels sources = .ok models) :
    (∀ m ∈ models.values, m.resolveFields template = .ok (m.settled template)) ∧
      List.Forall₂ (fun p j => SidesOf models p.1 p.2 j) (models.fieldsOf template .junction)
        schema.junctions := by
  have hcompile := compile_of_admitted h hparse
  refine ⟨fun m hm => resolveFields_of_compile hcompile hm, ?_⟩
  exact (junctions_of_compile hcompile).imp fun p j hj => hj.sides

/-! ### Contacts with contacts -/

def contacts : OrderedMap ModelSource :=
  .ofList
    [("contacts", .admitted (.ofFields
       [("owner", .empty), ("contacts", declaredRelation "person" true false),
        ("groups", declaredRelation "group" true false)])),
     ("person", .admitted (.ofFields [("name", .empty)])),
     ("group", .admitted (.ofFields [("label", .empty)]))]

def contactsModels : Models :=
  .ofList
    [("contacts", (Model.ofFields
       [("owner", .empty), ("contacts", declaredRelation "person" true false),
        ("groups", declaredRelation "group" true false)]).withId "contacts"),
     ("person", (Model.ofFields [("name", .empty)]).withId "person"),
     ("group", (Model.ofFields [("label", .empty)]).withId "group")]

def contactsJunction : JunctionTable where
  name := "contacts_contacts"
  columns := [Column.link "id_contacts", Column.link "id_contacts"]
  foreignKeys := .ofList
    [("id_contacts", { constraint := "FK_contacts_contacts_person", table := "person" })]
  hasId := false
  primaryKeys := ["id_contacts", "id_contacts"]
  ownerTable := "contacts"
  fieldName := "contacts"
  targetTable := "person"

def contactsSchema : Schema where
  tables :=
    [{ name := "contacts", columns := [textColumn "owner"] },
     { name := "person", columns := [textColumn "name"] },
     { name := "group", columns := [textColumn "label"] }]
  junctions :=
    [contactsJunction,
     { name := "contacts_groups"
       columns := [Column.link "id_contacts", Column.link "id_groups"]
       foreignKeys := .ofList
         [("id_contacts", { constraint := "FK_contacts_groups_groups", table := "contacts" }),
          ("id_groups", { constraint := "FK_contacts_groups_group", table := "group" })]
       hasId := false
       primaryKeys := ["id_contacts", "id_groups"]
       ownerTable := "contacts"
       fieldName := "groups"
       targetTable := "group" }]

theorem contacts_compile : compileSchema contacts defaultTemplate none = .ok contactsSchema := by
  decide +kernel

theorem contacts_admitted : parseModels contacts = .ok contactsModels := by
  decide +kernel

theorem contacts_junctions_sides :
    compileSchema contacts defaultTemplate none = .ok contactsSchema ∧
      parseModels contacts = .ok contactsModels ∧
      (∀ m ∈ contactsModels.values,
        m.resolveFields defaultTemplate = .ok (m.settled defaultTemplate)) ∧
      List.Forall₂ (fun p j => SidesOf contactsModels p.1 p.2 j)
        (contactsModels.fieldsOf defaultTemplate .junction) contactsSchema.junctions :=
  ⟨contacts_compile, contacts_admitted, junction_twoSided_iff contacts_compile contacts_admitted⟩

/-- The field is named like the table of its model, whose foreign key is lost. -/
theorem contacts_lose_owner :
    compileSchema contacts defaultTemplate none = .ok contactsSchema ∧
      contactsJunction ∈ contactsSchema.junctions ∧
      contactsJunction.ownerTable = "contacts" ∧ contactsJunction.targetTable = "person" ∧
      ¬ (contactsJunction.columns.map fun c => c.name).Nodup ∧
      (contactsJunction.foreignKeys.values.map fun k => k.table) = ["person"] ∧
      ¬ contactsJunction.TwoSided "contacts" "person" := by
  refine ⟨contacts_compile, List.mem_cons_self .., rfl, rfl, by decide +kernel, rfl, ?_⟩
  exact JunctionTable.Merged.not_twoSided
    ⟨Column.link "id_contacts", _, rfl, rfl, rfl, rfl, rfl⟩

end RelationalModels
