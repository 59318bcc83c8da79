import KeyedCoding.Coding.Record
import KeyedCoding.Declaration.Member
import KeyedCoding.Declaration.OptionType

/-!
# Fields

The fields of a class are its stored properties with a type. A marker may give a field another key
than its name.

## Main definitions

* `Field`: a field of a class.
* `Field.ofMember?`: the field that a member is.
* `Field.key`, `Field.presence`, `Field.valueType`: how a field is coded.
* `Field.extract`: the fields among the members of a class.
-/

namespace KeyedCoding

/-- A field of a class. Whether it is optional follows from its type, but may be overruled. -/
structure Field where
  ident : Ident
  ty : Ty
  isOptional : Bool
  initial : Option Expr
  overrideKey : Option String

/-- How a field gets its value when an object is made. -/
inductive ParamDefault where
  /-- From an expression. -/
  | expr (value : Expr)
  /-- It is absent. -/
  | absent
  /-- From an argument. -/
  | required

namespace ParamDefault

/-- Whether a field gets its value from an argument. -/
def isRequired : ParamDefault → Bool
  | required => true
  | _ => false

end ParamDefault

namespace Field

/-- A field with nothing but a name and a type. -/
def ofType (ident : Ident) (ty : Ty) : Field := ⟨ident, ty, ty.optionInner.isSome, none, none⟩

/-- The key that markers give: the text of the first one that has the name of key markers and
exactly one argument. -/
def keyOfMarkers (keyMarker : String) (markers : List Marker) : Option String :=
  (markers.filter (·.name == keyMarker)).findSome? Marker.singleArgText

/-- The field that a member is, if it is a stored property with a type. -/
def ofMember? (keyMarker : String) (member : Member) : Option Field :=
  match member.kind, member.ty with
  | .storedProperty, some ty =>
    some { ofType member.ident ty with
      initial := member.initial
      overrideKey := keyOfMarkers keyMarker member.markers }
  | _, _ => none

/-- The fields among the members of a class, in their order. -/
def extract (keyMarker : String) (members : List Member) : List Field :=
  members.filterMap (ofMember? keyMarker)

/-- The name of a field. -/
def name (field : Field) : String := field.ident.name

/-- The key of a field: the one that is given, or else its name. -/
def key (field : Field) : String := field.overrideKey.getD field.name

/-- The type of the value of a field when there is one. -/
def valueType (field : Field) : Ty := field.ty.optionInner.getD field.ty

/-- Whether the value of a field may be absent. -/
def presence (field : Field) : Presence := if field.isOptional then .ifPresent else .required

/-- How a field gets its value when an object is made. -/
def paramDefault (field : Field) : ParamDefault :=
  match field.initial with
  | some value => .expr value
  | none => if field.isOptional then .absent else .required

/-- The first field with an identifier, in the same spelling. -/
def find? (fields : List Field) (ident : Ident) : Option Field :=
  List.find? (fun field => field.ident == ident) fields

/-- Whether any field has an initial value. -/
def anyInitial (fields : List Field) : Bool := fields.any (·.initial.isSome)

end Field

namespace Presence

/-- The name of a presence. -/
def name : Presence → String
  | required => "Required"
  | ifPresent => "IfPresent"

end Presence

end KeyedCoding
