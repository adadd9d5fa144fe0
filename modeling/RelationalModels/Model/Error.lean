import RelationalModels.Validation.Issue
import RelationalModels.Value

/-!
# Errors of models

Everything that can make a set of models unusable, by its cause. `ModelError.message` describes an
error; `ModelError.place` says where it lies.
-/

namespace RelationalModels

structure FieldPlace where
  model : Option String
  field : Option String
  deriving DecidableEq

inductive ModelError where
  | notAMapping (model kind : String)
  | malformedModel (model : String) (issues : List Issue)
  | invalidAttributes (place : FieldPlace) (issues : List Issue)
  | missingAttribute (name : String) (place : FieldPlace)
  | unknownType (token : String) (place : FieldPlace)
  | unknownTarget (target : String) (place : FieldPlace)
  | unknownModel (model : String)
  | fileNotJson (file : String)
  | fileNotObject (file : String)
  /-- An error that a collaborator reported in its own words. -/
  | reported (text : String) (place : FieldPlace)
  deriving DecidableEq

def nameOrNone (name : Option String) : String := name.getD "None"

def nonemptyName (name : Option String) : Option String := name.filter fun s => !s.isEmpty

theorem nonemptyName_eq_some_iff {name : Option String} {s : String} :
    nonemptyName name = some s ↔ name = some s ∧ s ≠ "" := by
  simp [nonemptyName, Option.filter_eq_some_iff]

namespace FieldPlace

def dotted (p : FieldPlace) : String := nameOrNone p.model ++ "." ++ nameOrNone p.field

def owner (p : FieldPlace) : String :=
  if (nonemptyName p.field).isSome then p.dotted else nameOrNone p.model

def described (p : FieldPlace) : String :=
  if (nonemptyName p.model).isSome then p.dotted else nameOrNone p.field

end FieldPlace

namespace ModelError

def message : ModelError → String
  | notAMapping model kind => "Model '" ++ model ++ "' must be a mapping, got " ++ kind
  | malformedModel model issues =>
    "Model '" ++ model ++ "' is malformed: " ++ toString issues.length ++ " validation error(s)"
  | invalidAttributes place _ => "Field '" ++ place.dotted ++ "' has invalid attributes"
  | missingAttribute name place =>
    "'" ++ place.owner ++ "' is missing required attribute '" ++ name ++ "'"
  | unknownType token place =>
    "Field '" ++ place.described ++ "' declares unknown type '" ++ token ++ "'"
  | unknownTarget target place =>
    "Relation '" ++ place.dotted ++ "' targets unknown model '" ++ target ++ "'"
  | unknownModel model => "Model '" ++ model ++ "' is not defined"
  | fileNotJson file => "Model file '" ++ file ++ "' is not valid JSON"
  | fileNotObject file => "Model file '" ++ file ++ "' must contain a JSON object"
  | reported text _ => text

def place : ModelError → FieldPlace
  | notAMapping model _ => ⟨some model, none⟩
  | malformedModel model _ => ⟨some model, none⟩
  | invalidAttributes place _ => place
  | missingAttribute _ place => place
  | unknownType _ place => place
  | unknownTarget _ place => place
  | unknownModel model => ⟨some model, none⟩
  | fileNotJson _ => ⟨none, none⟩
  | fileNotObject _ => ⟨none, none⟩
  | reported _ place => place

def issues? : ModelError → Option (List Issue)
  | malformedModel _ issues => some issues
  | invalidAttributes _ issues => some issues
  | _ => none

def subject : ModelError → List (String × Value)
  | missingAttribute name _ => [("attribute", .text name)]
  | unknownType token _ => [("type", .text token)]
  | unknownTarget target _ => [("target", .text target)]
  | _ => []

/-- The particulars of an error; names that are empty or unknown are left out. -/
def context (e : ModelError) : List (String × Value) :=
  let named (role : String) (name : Option String) : List (String × Value) :=
    ((nonemptyName name).map fun s => (role, Value.text s)).toList
  e.subject ++ named "model" e.place.model ++ named "field" e.place.field

end ModelError

end RelationalModels
