import KeyedCoding.Coding.Decoding
import Mathlib.Algebra.Order.Ring.Int
import Mathlib.Tactic.SplitIfs

/-!
# Types that keep their JSON values

A type keeps its JSON values if every value is encoded as the JSON value from which it has been
decoded. Numbers with a fraction do not: a whole number is decoded as such a number, and encoded
with a fraction. Whole numbers of more than 64 bits need not have a JSON form at all.

## Main definitions

* `ValueType.keepsJson`: the types that keep their JSON values by their form.

## Main results

* `ValueType.codec_faithful`: these types keep their JSON values.
-/

namespace KeyedCoding

/-- The numbers of a type of at most 64 bits have a JSON form. -/
theorem IntegerType.fitsJson_of_holds {type : IntegerType} {value : Int} (bits : type.bits ≤ 64)
    (h : type.holds value = true) : Datum.fitsJson value = true := by
  have signedBound : (2 : Int) ^ (type.bits - 1) ≤ 2 ^ 63 :=
    pow_le_pow_right₀ (by decide) (by omega)
  have unsignedBound : (2 : Int) ^ type.bits ≤ 2 ^ 64 := pow_le_pow_right₀ (by decide) bits
  obtain ⟨signed, bits⟩ := type
  cases signed <;>
    simp [holds, least, greatest, Datum.fitsJson] at h signedBound unsignedBound ⊢ <;> omega

namespace ValueType

/-- The types that keep their JSON values by their form. -/
def keepsJson : ValueType → Bool
  | boolean | character | text | unit | json => true
  | integer type => type.bits ≤ 64
  | list element | optional element => element.keepsJson
  | _ => false

private theorem serializeAll_decodeAll {decode : Json → Except Mismatch Datum}
    (kept : ∀ json value, decode json = .ok value → value.serialize = .ok json)
    {elements : List Json} {values : List Datum} (h : decodeAll decode elements = .ok values) :
    Datum.serializeAll values = .ok elements := by
  induction elements generalizing values with
  | nil =>
    obtain rfl := Except.ok.inj h
    rfl
  | cons element rest ih =>
    rw [decodeAll] at h
    cases hd : decode element with
    | error mismatch => simp [hd] at h
    | ok value =>
      cases hr : decodeAll decode rest with
      | error mismatch => simp [hd, hr, Except.map] at h
      | ok others =>
        simp only [hd, hr, Except.map, Except.ok.injEq] at h
        simp [← h, Datum.serializeAll, kept _ _ hd, ih hr, Except.map]

/-- **Types that keep their JSON values.** Every value is encoded as the JSON value from which it
has been decoded. -/
theorem codec_faithful {type : ValueType} (h : type.keepsJson = true) : type.codec.Faithful := by
  intro json value hd
  change type.deserialize json = .ok value at hd
  change value.serialize = .ok json
  induction type generalizing json value with
  | boolean =>
    cases json with
    | bool => obtain rfl := Except.ok.inj hd; rfl
    | _ => exact nomatch hd
  | integer type =>
    cases json with
    | integer number =>
      rw [deserialize] at hd
      split_ifs at hd with holds
      obtain rfl := Except.ok.inj hd
      have fits := IntegerType.fitsJson_of_holds (of_decide_eq_true h) holds
      rw [Datum.serialize, if_pos fits]
    | _ => exact nomatch hd
  | character =>
    cases json with
    | string source =>
      rw [deserialize] at hd
      split at hd
      · next c one =>
        obtain rfl := Except.ok.inj hd
        rw [Datum.serialize, String.singleton_eq_ofList, ← one, String.ofList_toList]
      · exact nomatch hd
    | _ => exact nomatch hd
  | text =>
    cases json with
    | string => obtain rfl := Except.ok.inj hd; rfl
    | _ => exact nomatch hd
  | unit =>
    cases json with
    | null => obtain rfl := Except.ok.inj hd; rfl
    | _ => exact nomatch hd
  | list element ih =>
    cases json with
    | array elements =>
      rw [deserialize] at hd
      cases all : decodeAll element.deserialize elements with
      | error mismatch => simp [all, Except.map] at hd
      | ok values =>
        simp only [all, Except.map, Except.ok.injEq] at hd
        rw [← hd, Datum.serialize, serializeAll_decodeAll (ih h) all]
        rfl
    | _ => exact nomatch hd
  | optional element ih =>
    by_cases null : json = .null
    · subst null
      obtain rfl := Except.ok.inj hd
      rfl
    · rw [deserialize] at hd
      · cases present : element.deserialize json with
        | error mismatch => simp [present, Except.map] at hd
        | ok held =>
          simp only [present, Except.map, Except.ok.injEq] at hd
          rw [← hd, Datum.serialize]
          exact ih h _ _ present
      · exact null
  | json => obtain rfl := Except.ok.inj hd; rfl
  | _ => exact nomatch h

end ValueType

end KeyedCoding
