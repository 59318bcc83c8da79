import KeyedCoding.Generator.Fingerprint
import Mathlib.Data.List.Basic

/-!
# Different runs have different messages

The digest that a run is known by is taken of a message: a constant, the mode, the length of the
text of the identifier, and this text. Lengths beyond 32 bits all count as the greatest one, so that
the length alone does not tell such texts apart. The message does: what stands in front of the text
always has the same length, so that the text is all that follows it.

## Main definitions

* `Fingerprint.header`: what stands in front of the text of the identifier.

## Main results

* `Fingerprint.textBytes_injective`: a text is known by its bytes.
* `Fingerprint.message_eq_message_iff`: a message is known by the text and the mode.
-/

namespace KeyedCoding

namespace Fingerprint

private theorem toList_loop (bytes : ByteArray) (place : Nat) (taken : List UInt8) :
    ByteArray.toList.loop bytes place taken =
      taken.reverse ++ bytes.data.toList.drop place := by
  rw [ByteArray.toList.loop]
  split
  · next inside =>
    have bound : place < bytes.data.toList.length := inside
    rw [toList_loop bytes (place + 1), List.reverse_cons, List.append_assoc,
      List.drop_eq_getElem_cons bound]
    have byte : bytes.get! place = bytes.data.toList[place] := by
      rw [Array.getElem_toList]
      exact getElem!_pos bytes.data place inside
    rw [byte, List.singleton_append]
  · next outside =>
    have done : bytes.data.toList.length ≤ place := Nat.le_of_not_lt outside
    rw [List.drop_eq_nil_of_le done, List.append_nil]
termination_by bytes.size - place

/-- A text is known by its bytes. -/
theorem textBytes_injective : Function.Injective textBytes := by
  intro text other same
  have bytes : text.toUTF8.data.toList = other.toUTF8.data.toList := by
    simpa only [textBytes, ByteArray.toList, toList_loop, List.reverse_nil, List.nil_append,
      List.drop_zero] using same
  exact String.toByteArray_inj.mp (ByteArray.ext (Array.toList_inj.mp bytes))

theorem modeTag_injective : Function.Injective modeTag := by
  intro mode other same
  cases mode <;> cases other <;> simp_all [modeTag]

/-- What stands in front of the text of the identifier: a constant, the mode, and the length of the
text. -/
def header (mode : Mode) (length : Nat) : List UInt8 :=
  textBytes "genfp:v1" ++ modeTag mode :: lengthBytes length

theorem message_eq (ident : Ident) (mode : Mode) :
    message ident mode =
      header mode (textBytes ident.text).length ++ textBytes ident.text := by
  rw [message, header, List.append_assoc]

/-- What stands in front of the text has the same length for every text and every mode. -/
theorem length_header (mode : Mode) (length : Nat) :
    (header mode length).length = (textBytes "genfp:v1").length + 5 := by
  rw [header, List.length_append, List.length_cons]
  rfl

/-- **Different runs have different messages.** The bytes of which the digest of a run is taken are
the same for two runs only if the identifiers have the same text and the modes are the same. This
holds of texts of any length. -/
theorem message_eq_message_iff (ident ident' : Ident) (mode mode' : Mode) :
    message ident mode = message ident' mode' ↔ ident.text = ident'.text ∧ mode = mode' := by
  constructor
  · intro same
    rw [message_eq, message_eq] at same
    obtain ⟨headers, texts⟩ :=
      List.append_inj same ((length_header _ _).trans (length_header _ _).symm)
    obtain ⟨tags, -⟩ := List.cons.inj (List.append_cancel_left headers)
    exact ⟨textBytes_injective texts, modeTag_injective tags⟩
  · rintro ⟨text, rfl⟩
    rw [message_eq, message_eq, text]

end Fingerprint

end KeyedCoding
