import Mathlib.Data.List.Perm.Basic
import RelationalModels.Proofs.Partition

/-!
# What the tables of a model depend on

The order of the models decides nothing but the order of their tables. What one model gives depends
on its own definition and on the names of the tables that its relations lead to, so that everything
else may be edited. `compile_local` states both.
-/

namespace RelationalModels

/-! ### Mappings with the same entries -/

namespace OrderedMap

variable {α : Type}

theorem ofList_self (m : OrderedMap α) : ofList m.entries = m := by
  have hentries := ofList_entries m.entries m.nodup
  cases hm : ofList m.entries
  cases m
  simp_all

theorem get?_of_perm {m n : OrderedMap α} (h : m.entries.Perm n.entries) (name : String) :
    m.get? name = n.get? name := by
  apply Option.ext
  intro a
  rw [get?_eq_some_iff, get?_eq_some_iff, h.mem_iff]

theorem values_getElem?_idxOf {m : OrderedMap α} {name : String} {a : α}
    (h : m.get? name = some a) : m.values[m.names.idxOf name]? = some a := by
  have hmem := (m.get?_eq_some_iff name a).mp h
  obtain ⟨i, hi, hentry⟩ := List.getElem_of_mem hmem
  have hposition : i < m.names.length := by simpa [names] using hi
  have hname : m.names[i] = name := by simp [names, hentry]
  have hidx : m.names.idxOf name = i := by
    rw [← hname]
    exact m.nodup.idxOf_getElem i _
  rw [hidx, values, List.getElem?_map, List.getElem?_eq_getElem hi, hentry]
  rfl

end OrderedMap

/-! ### Tables that relations lead to -/

def SameTargets (template : OrderedMap Value) (models others : Models) (m : Model) : Prop :=
  ∀ f, m.Declares template f → ∀ target, f.target? = some target →
    (models.get? target).map Model.tableName = (others.get? target).map Model.tableName

namespace Contribution

theorem ofField_congr {models others : Models} {m m' : Model} {f : Field} (hid : m.id = m'.id)
    (htable : m.tableName = m'.tableName) (htargets : ∀ target, f.target? = some target →
      (models.get? target).map Model.tableName = (others.get? target).map Model.tableName) :
    ofField models m f = ofField others m' f := by
  cases f with
  | scalar traits type default => rfl
  | relation traits target hasMany default =>
    have htarget := htargets target rfl
    cases hm : models.get? target with
    | none =>
      cases ho : others.get? target with
      | none => simp only [ofField, hm, ho, hid]
      | some tm => simp [hm, ho] at htarget
    | some tm =>
      cases ho : others.get? target with
      | none => simp [hm, ho] at htarget
      | some tm' =>
        have htm : tm.tableName = tm'.tableName := by simpa [hm, ho] using htarget
        simp only [ofField, hm, ho, htable, htm]

theorem ofDeclarations_congr {models others : Models} {m m' : Model}
    {template template' : OrderedMap Value} {entries entries' : List (String × OrderedMap Value)}
    (h : List.Forall₂ (fun e e' => ofDeclaration models m template e.1 e.2 =
      ofDeclaration others m' template' e'.1 e'.2) entries entries') :
    ofDeclarations models m template entries = ofDeclarations others m' template' entries' := by
  induction h with
  | nil => rfl
  | @cons e e' rest rest' he _ ih =>
    obtain ⟨name, raw⟩ := e
    obtain ⟨name', raw'⟩ := e'
    dsimp only at he
    rw [ofDeclarations_cons, ofDeclarations_cons, he, ih]

end Contribution

theorem compileModel_congr {models others : Models} {m : Model} {template : OrderedMap Value}
    (h : SameTargets template models others m) (collation : Option String) :
    compileModel models m template collation = compileModel others m template collation := by
  have hfields : Contribution.ofDeclarations models m template m.fields.entries =
      Contribution.ofDeclarations others m template m.fields.entries := by
    apply Contribution.ofDeclarations_congr
    rw [List.forall₂_same]
    intro e he
    unfold Contribution.ofDeclaration
    cases hf : Field.resolve e.1 e.2 template m.id with
    | error err => rfl
    | ok f =>
      have hname := Field.resolve_traits_name hf
      have hdeclares : m.Declares template f := ⟨e.2, by rwa [hname], by rwa [hname]⟩
      exact Contribution.ofField_congr rfl rfl (h f hdeclares)
  unfold compileModel
  rw [hfields]

/-! ### Reordered models -/

theorem parseModels_eq_ok_iff {sources : OrderedMap ModelSource} {models : Models} :
    parseModels sources = .ok models ↔
      List.Forall₂ (fun e m => m.1 = e.1 ∧ Model.parse e.1 e.2 = .ok m.2)
        sources.entries models.entries := by
  rw [← parseEntries_eq_ok_iff]
  constructor
  · exact parseModels_entries
  · intro h
    rw [parseModels, h, Except.map, OrderedMap.ofList_self]

theorem parseModels_perm {sources others : OrderedMap ModelSource} {models' : Models}
    (h : sources.entries.Perm others.entries) (hparse : parseModels others = .ok models') :
    ∃ models, parseModels sources = .ok models ∧ models.entries.Perm models'.entries := by
  obtain ⟨entries, hentries, hperm⟩ :=
    List.perm_comp_forall₂ h (parseModels_eq_ok_iff.mp hparse)
  have hnodup : (entries.map Prod.fst).Nodup := (hperm.map Prod.fst).nodup_iff.mpr models'.nodup
  exact ⟨⟨entries, hnodup⟩, parseModels_eq_ok_iff.mpr hentries, hperm⟩

theorem compile_perm {models models' : Models} {template : OrderedMap Value}
    {collation : Option String} {schema' : Schema} (h : models.entries.Perm models'.entries)
    (hcompile : models'.compile template collation = .ok schema') :
    ∃ schema, models.compile template collation = .ok schema ∧
      schema.tables.Perm schema'.tables ∧ schema.junctions.Perm schema'.junctions := by
  obtain ⟨parts', hparts', rfl⟩ := compileEach_eq_ok_iff.mp hcompile
  obtain ⟨parts, hparts, hperm⟩ := List.perm_comp_forall₂ (h.map Prod.snd) hparts'
  -- a model finds the same targets in both sets
  have htargets : ∀ m, SameTargets template models models' m := by
    intro m f _ target _
    rw [OrderedMap.get?_of_perm h]
  have hsame : List.Forall₂ (fun m part => compileModel models m template collation = .ok part)
      models.values parts := hparts.imp fun m part hpart => by
    rw [compileModel_congr (htargets m), hpart]
  exact ⟨_, compileEach_eq_ok_iff.mpr ⟨parts, hsame, rfl⟩, hperm.map Prod.fst,
    hperm.flatMap_right Prod.snd⟩

theorem compileSchema_perm {sources others : OrderedMap ModelSource}
    {template : OrderedMap Value} {collation : Option String} {schema' : Schema}
    (h : sources.entries.Perm others.entries)
    (hcompile : compileSchema others template collation = .ok schema') :
    ∃ schema, compileSchema sources template collation = .ok schema ∧
      schema.tables.Perm schema'.tables ∧ schema.junctions.Perm schema'.junctions := by
  obtain ⟨models', hparse', hcompile'⟩ := compileSchema_eq_ok hcompile
  obtain ⟨models, hparse, hperm⟩ := parseModels_perm h hparse'
  obtain ⟨schema, hschema, htables, hjunctions⟩ := compile_perm hperm hcompile'
  refine ⟨schema, ?_, htables, hjunctions⟩
  rw [compileSchema, hparse]
  exact hschema

/-! ### Parts of a schema -/

/--
A schema is put together from the parts that its models give one after the other, and this is the
part of the model under a name.
-/
def PartOf (models : Models) (template : OrderedMap Value) (collation : Option String)
    (schema : Schema) (name : String) (part : Table × List JunctionTable) : Prop :=
  ∃ parts, List.Forall₂ (fun m part => compileModel models m template collation = .ok part)
      models.values parts ∧
    schema = ⟨parts.map Prod.fst, parts.flatMap Prod.snd⟩ ∧
    parts[models.names.idxOf name]? = some part

theorem exists_partOf {models : Models} {template : OrderedMap Value} {collation : Option String}
    {schema : Schema} {name : String} {m : Model}
    (h : models.compile template collation = .ok schema) (hget : models.get? name = some m) :
    ∃ part, compileModel models m template collation = .ok part ∧
      PartOf models template collation schema name part := by
  obtain ⟨parts, hparts, rfl⟩ := compileEach_eq_ok_iff.mp h
  obtain ⟨hvalue, hm⟩ := List.getElem?_eq_some_iff.mp (OrderedMap.values_getElem?_idxOf hget)
  obtain ⟨hlength, hall⟩ := List.forall₂_iff_get.mp hparts
  have hpart : models.names.idxOf name < parts.length := by rwa [← hlength]
  have hcompiled := hall _ hvalue hpart
  simp only [List.get_eq_getElem, hm] at hcompiled
  exact ⟨_, hcompiled, parts, hparts, rfl, List.getElem?_eq_getElem hpart⟩

/--
Reordered models compile to the same tables, reordered, and to none when the others do not compile.
A model has the same part in any two schemas of sets of models that have the same definition of it
and the same tables for the targets of its relations.
-/
theorem compile_local (sources others : OrderedMap ModelSource) (template : OrderedMap Value)
    (collation : Option String) :
    (sources.entries.Perm others.entries →
      ((∃ schema, compileSchema sources template collation = .ok schema) ↔
        ∃ schema, compileSchema others template collation = .ok schema) ∧
      ∀ schema schema', compileSchema sources template collation = .ok schema →
        compileSchema others template collation = .ok schema' →
          schema.tables.Perm schema'.tables ∧ schema.junctions.Perm schema'.junctions) ∧
      ∀ models models' schema schema' name m, parseModels sources = .ok models →
        parseModels others = .ok models' →
        compileSchema sources template collation = .ok schema →
        compileSchema others template collation = .ok schema' →
        models.get? name = some m → models'.get? name = some m →
        SameTargets template models models' m →
          ∃ part, PartOf models template collation schema name part ∧
            PartOf models' template collation schema' name part := by
  constructor
  · intro h
    refine ⟨⟨?_, ?_⟩, ?_⟩
    · rintro ⟨schema, hschema⟩
      obtain ⟨schema', hschema', -⟩ := compileSchema_perm h.symm hschema
      exact ⟨schema', hschema'⟩
    · rintro ⟨schema', hschema'⟩
      obtain ⟨schema, hschema, -⟩ := compileSchema_perm h hschema'
      exact ⟨schema, hschema⟩
    · intro schema schema' hschema hschema'
      obtain ⟨_, hsame, htables, hjunctions⟩ := compileSchema_perm h hschema'
      obtain rfl := Except.ok.inj (hschema.symm.trans hsame)
      exact ⟨htables, hjunctions⟩
  · intro models models' schema schema' name m hparse hparse' hschema hschema' hget hget' htargets
    simp only [compileSchema, hparse, hparse'] at hschema hschema'
    obtain ⟨part, hpart, hof⟩ := exists_partOf hschema hget
    obtain ⟨part', hpart', hof'⟩ := exists_partOf hschema' hget'
    rw [compileModel_congr htargets, hpart'] at hpart
    obtain rfl := Except.ok.inj hpart
    exact ⟨_, hof, hof'⟩

/-! ### Posts in two sets of models -/

def memberBlog : OrderedMap ModelSource :=
  .ofList
    [("tag", .admitted (.ofFields [("label", .empty)])),
     ("user", .admitted (.ofFields
       [("name", .empty), ("tags", declaredRelation "tag" true false)])),
     ("post", .admitted (.ofFields
       [("title", .empty), ("author", declaredRelation "user" false true),
        ("tags", declaredRelation "tag" true false)]))]

def memberModels : Models :=
  .ofList
    [("tag", (Model.ofFields [("label", .empty)]).withId "tag"),
     ("user", (Model.ofFields
       [("name", .empty), ("tags", declaredRelation "tag" true false)]).withId "user"),
     ("post", (Model.ofFields
       [("title", .empty), ("author", declaredRelation "user" false true),
        ("tags", declaredRelation "tag" true false)]).withId "post")]

theorem blog_post_part :
    ∃ schema' m, parseModels memberBlog = .ok memberModels ∧
      compileSchema memberBlog defaultTemplate (some "utf8_general_ci") = .ok schema' ∧
      blogModels.get? "post" = some m ∧ memberModels.get? "post" = some m ∧
      SameTargets defaultTemplate blogModels memberModels m ∧
      ∃ part, PartOf blogModels defaultTemplate (some "utf8_general_ci") blogSchema "post" part ∧
        PartOf memberModels defaultTemplate (some "utf8_general_ci") schema' "post" part := by
  have hparse : parseModels memberBlog = .ok memberModels := by decide +kernel
  obtain ⟨schema', hschema'⟩ :
      ∃ schema', compileSchema memberBlog defaultTemplate (some "utf8_general_ci") = .ok schema' :=
    exists_ok_of_isSome (by decide +kernel)
  have hpost : (blogModels.get? "post").isSome = true ∧
      memberModels.get? "post" = blogModels.get? "post" := by decide +kernel
  obtain ⟨m, hm⟩ := Option.isSome_iff_exists.mp hpost.1
  have hm' : memberModels.get? "post" = some m := hpost.2.trans hm
  -- the two sets have the same tables under the same names
  have hperm : (blogModels.mapValues fun _ => Model.tableName).entries.Perm
      (memberModels.mapValues fun _ => Model.tableName).entries := by decide +kernel
  have hsame : SameTargets defaultTemplate blogModels memberModels m := by
    intro f _ target _
    have htarget := OrderedMap.get?_of_perm hperm target
    rwa [OrderedMap.get?_mapValues, OrderedMap.get?_mapValues] at htarget
  obtain ⟨-, hpart⟩ := compile_local blog memberBlog defaultTemplate (some "utf8_general_ci")
  exact ⟨schema', m, hparse, hschema', hm, hm', hsame,
    hpart _ _ _ _ _ _ blog_admitted hparse blog_compiles hschema' hm hm' hsame⟩

end RelationalModels
