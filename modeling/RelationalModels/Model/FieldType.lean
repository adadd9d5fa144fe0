/-!
# Types of fields

A field holds a scalar of one of seven types or is a relation to another model. Each type has a
token, by which models declare it.
-/

namespace RelationalModels

inductive ScalarType where
  | string
  | int
  | float
  | double
  | bool
  | date
  | datetime
  deriving DecidableEq, Inhabited

inductive FieldType where
  | scalar (type : ScalarType)
  | relation
  deriving DecidableEq, Inhabited

def ScalarType.token : ScalarType → String
  | string => "string"
  | int => "int"
  | float => "float"
  | double => "double"
  | bool => "bool"
  | date => "date"
  | datetime => "datetime"

def FieldType.token : FieldType → String
  | scalar t => t.token
  | relation => "relation"

def FieldType.all : List FieldType :=
  [.scalar .string, .scalar .int, .scalar .float, .scalar .double, .scalar .bool, .scalar .date,
   .scalar .datetime, .relation]

def FieldType.ofToken? (token : String) : Option FieldType :=
  FieldType.all.find? fun t => t.token == token

theorem FieldType.ofToken?_token (t : FieldType) : FieldType.ofToken? t.token = some t := by
  cases t with
  | scalar s => cases s <;> decide
  | relation => decide

theorem FieldType.mem_all (t : FieldType) : t ∈ FieldType.all := by
  cases t with
  | scalar s => cases s <;> decide
  | relation => decide

theorem FieldType.ofToken?_eq_some_iff {token : String} {t : FieldType} :
    FieldType.ofToken? token = some t ↔ token = t.token := by
  constructor
  · intro h
    rw [FieldType.ofToken?] at h
    have htoken := List.find?_some h
    exact (eq_of_beq htoken).symm
  · rintro rfl
    exact FieldType.ofToken?_token t

theorem FieldType.ofToken?_eq_none_iff {token : String} :
    FieldType.ofToken? token = none ↔ token ∉ FieldType.all.map FieldType.token := by
  constructor
  · intro hnone hmem
    obtain ⟨t, -, ht⟩ := List.mem_map.mp hmem
    rw [FieldType.ofToken?_eq_some_iff.mpr ht.symm] at hnone
    cases hnone
  · intro hmem
    cases htoken : FieldType.ofToken? token with
    | none => rfl
    | some t =>
      have ht := FieldType.ofToken?_eq_some_iff.mp htoken
      exact absurd (List.mem_map.mpr ⟨t, t.mem_all, ht.symm⟩) hmem

end RelationalModels
