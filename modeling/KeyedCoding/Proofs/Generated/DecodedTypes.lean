import KeyedCoding.Proofs.Declaration.OptionalTypes
import KeyedCoding.Proofs.Generated.Fields

/-!
# The types that are decoded

A field that comes from a member of a class is optional if and only if its type is. A field that is
made by hand may be optional or not, whatever its type. Whether it is decides if the statement that
decodes it lets the value be absent, while the type that this statement reads follows from the type
of the field alone. The two fit for a field that is optional. For one that is not, they fit unless
its type is recognised as optional: then the wrapped type is read where the type itself is needed.

## Main definitions

* `Field.IsReadBy`: how a field fits the statement that decodes it.

## Main results

* `decodeBody_reads_fields`: every field fits its statement, whatever makes it optional.
* `decodeBody_reads_wrapped_type`: a field that is not optional and is read with the wrapped type.
-/

namespace KeyedCoding

/-- How a field fits the statement that decodes it. -/
structure Field.IsReadBy (field : Field) (statement : DecodeStatement) : Prop where
  ident : statement.field = field.ident
  /-- The value may be absent if and only if the field is optional. -/
  presence : statement.presence = .ifPresent ↔ field.isOptional = true
  /-- Of a type that wraps another one, the wrapped type is read if the value may be absent. -/
  wrapped : statement.presence = .ifPresent →
    ∀ inner, field.ty.IsOptionOf inner → statement.ty = inner
  /-- A value that may not be absent is read with the type of the field, unless this type is
  recognised as optional. -/
  declared : statement.presence = .required →
    (statement.ty = field.ty ↔ field.ty.optionInner = none)

namespace Ty

variable {ty : Ty}

theorem IsOptionOf.valueType_eq {inner : Ty} (wraps : ty.IsOptionOf inner) :
    ty.valueType = inner := by
  rw [valueType, wraps.optionInner_eq, Option.getD_some]

/-- The type of a value is that of the field only if this is not recognised as optional. -/
theorem valueType_eq_self_iff : ty.valueType = ty ↔ ty.optionInner = none := by
  cases h : ty.optionInner with
  | none => simp [valueType, h]
  | some inner =>
    rw [valueType, h, Option.getD_some]
    refine iff_of_false ?_ (Option.some_ne_none inner)
    rintro rfl
    exact inner.optionInner_ne_self h

end Ty

theorem Field.presence_eq_ifPresent_iff {field : Field} :
    field.presence = .ifPresent ↔ field.isOptional = true := by
  unfold presence
  split <;> simp_all

/-- **Every field fits the statement that decodes it.** Let fields be made in any way, and let code
be generated for them in any context. The statements that decode them come in their order. A value
that may be absent is read with the type that the type of its field wraps. A value that may not be
absent is read with the type of its field if and only if this is not recognised as optional. -/
theorem decodeBody_reads_fields (context : Context) (fields : List Field) :
    List.Forall₂ Field.IsReadBy fields (DecodeBody.ofFields context fields).statements := by
  rw [DecodeBody.ofFields, List.forall₂_map_right_iff, List.forall₂_same]
  intro field _
  exact {
    ident := rfl
    presence := Field.presence_eq_ifPresent_iff
    wrapped := fun _ _ wraps => wraps.valueType_eq
    declared := fun _ => Ty.valueType_eq_self_iff }

/-- A field that is made not to be optional, whatever its type. -/
def Field.mandatory (ident : Ident) (ty : Ty) : Field :=
  { ofType ident ty with isOptional := false }

/-- A field with an optional type that is made not to be optional is decoded by a statement that
lets no value be absent, and yet reads the wrapped type. -/
theorem decodeBody_reads_wrapped_type :
    ∃ field statement, field = .mandatory ⟨false, "note", by decide⟩ (.optional (.named "u8")) ∧
      (DecodeBody.ofFields (Generator.context .standard .person) [field]).statements =
          [statement] ∧
      statement.presence = .required ∧ field.ty.IsOptionOf statement.ty ∧
      statement.ty ≠ field.ty := by
  have wraps : (Ty.optional (.named "u8")).IsOptionOf (.named "u8") := .short rfl rfl
  have differs : (Ty.optional (.named "u8")).valueType ≠ .optional (.named "u8") := by
    rw [Ne, Ty.valueType_eq_self_iff, wraps.optionInner_eq]
    exact Option.some_ne_none _
  exact ⟨_, _, rfl, rfl, rfl, wraps, differs⟩

end KeyedCoding
