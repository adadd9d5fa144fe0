import RelationalModels.Decimal.Numeral
import RelationalModels.Model.Attributes
import RelationalModels.Model.Error
import RelationalModels.Model.FieldType

/-!
# Fields

A field as it is after the template has been laid under its attributes: a scalar or a relation,
with every attribute settled. `Field.resolve` settles a field from what a model declares;
`Field.storage` says how it is stored.
-/

namespace RelationalModels

open RelationalModels.Decimal

structure FieldTraits where
  name : String
  maxLength : Int
  required : Bool
  unique : Bool
  comment : Option String
  characterSet : Option String
  collation : Option String
  deriving DecidableEq, Inhabited

inductive Field where
  | scalar (traits : FieldTraits) (type : ScalarType) (default : Value)
  | relation (traits : FieldTraits) (target : String) (hasMany : Bool) (default : Number)
  deriving DecidableEq, Inhabited

def boundedStringLength : Int := 255

def unboundedLength : Int := -1

def mergeAttributes (raw template : OrderedMap Value) (place : FieldPlace) :
    Except ModelError Attributes :=
  -- the template is read first, so that its issues are reported where both have some
  match Attributes.ofMap template with
  | .invalid issues => .error (.invalidAttributes place issues)
  | .valid lower =>
    match Attributes.ofMap raw with
    | .invalid issues => .error (.invalidAttributes place issues)
    | .valid upper => .ok (upper.laidOver lower)

theorem mergeAttributes_eq_ok_iff {raw template : OrderedMap Value} {place : FieldPlace}
    {a : Attributes} :
    mergeAttributes raw template place = .ok a ↔
      ∃ lower upper, Attributes.ofMap template = .valid lower ∧
        Attributes.ofMap raw = .valid upper ∧ a = upper.laidOver lower := by
  unfold mergeAttributes
  cases Attributes.ofMap template with
  | invalid issues => simp
  | valid lower => cases Attributes.ofMap raw <;> simp [eq_comm]

/-- The default of a relation: a number is kept and everything else becomes zero. -/
def relationDefault : Value → Number
  | .int n => .int n
  | .float x => .float x
  | .text s => (Number.ofText? s).getD (.int 0)
  | _ => .int 0

/--
Whether a default differs from the number it became. A float equals itself unless it is a NaN, and
false equals zero.
-/
def isAlteredDefault : Value → Bool
  | .null => false
  | .int _ => false
  | .bool b => b
  | .float x => x.isNaN
  | _ => true

namespace Attributes

/-- The traits that attributes give to a field; a null counts as not written. -/
def traits (a : Attributes) (name : String) : FieldTraits where
  name := name
  maxLength := a.maxLength.toOption.getD boundedStringLength
  required := a.required.toOption.getD false
  unique := a.unique.toOption.getD false
  comment := a.comment.toOption
  characterSet := a.characterSet.toOption
  collation := a.collation.toOption

def typeToken (a : Attributes) : String := a.type.toOption.getD "string"

def defaultValue (a : Attributes) : Value := a.default.toOption.getD .null

def altersDefault (a : Attributes) : Bool :=
  FieldType.ofToken? a.typeToken == some .relation && isAlteredDefault a.defaultValue

end Attributes

namespace Field

def ofAttributes (name : String) (a : Attributes) (place : FieldPlace) :
    Except ModelError Field :=
  match FieldType.ofToken? a.typeToken with
  | none => .error (.unknownType a.typeToken place)
  | some (.scalar type) => .ok (.scalar (a.traits name) type a.defaultValue)
  | some .relation =>
    match nonemptyName a.data.toOption with
    | none => .error (.missingAttribute "data" place)
    | some target =>
      .ok (.relation (a.traits name) target (a.hasMany.toOption.getD false)
        (relationDefault a.defaultValue))

def resolve (name : String) (raw template : OrderedMap Value) (model : Option String) :
    Except ModelError Field :=
  let place : FieldPlace := ⟨model, some name⟩
  match mergeAttributes raw template place with
  | .error e => .error e
  | .ok a => ofAttributes name a place

def traits : Field → FieldTraits
  | scalar t _ _ => t
  | relation t _ _ _ => t

def type : Field → FieldType
  | scalar _ t _ => .scalar t
  | relation _ _ _ _ => .relation

end Field

end RelationalModels
