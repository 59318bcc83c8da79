import KeyedCoding.Json.Value
import Mathlib.Data.List.Sort
import Mathlib.Data.String.Basic

/-!
# The entries of an object

An object is known by what stands under its keys: in ascending order of keys there is only one way
to write it down.

## Main definitions

* `Json.Entries.Ascending`: the keys ascend.

## Main results

* `Json.Entries.get?_eq_lookup`: what is found under a key is that of the first entry with the key.
* `Json.Entries.Ascending.insert`: putting a value under a key keeps the order.
* `Json.Entries.Ascending.mem_iff`: the entries are what is found under the keys.
* `Json.Entries.Ascending.eq_of_get?`: entries with ascending keys are known by what is found.
* `Json.Entries.Ascending.ofList_eq`: entries with ascending keys are in order already.
-/

namespace KeyedCoding.Json.Entries

variable {entries entries' : Entries} {key : String} {value : Json}

/-- What is found under a key is the value of the first entry with this key. -/
theorem get?_eq_lookup (entries : Entries) (key : String) :
    entries.get? key = entries.lookup key := by
  induction entries with
  | nil => rfl
  | cons first rest ih =>
    obtain ⟨key', value⟩ := first
    rw [get?, List.lookup_cons, ih]
    by_cases same : key' = key
    · simp [same]
    · rw [if_neg same, beq_eq_false_iff_ne.mpr (Ne.symm same)]

/-- The keys of entries ascend. -/
def Ascending (entries : Entries) : Prop := entries.Pairwise fun a b => a.1 < b.1

theorem ascending_nil : Ascending [] := .nil

theorem eq_or_mem_of_mem_insert {entry : String × Json} (h : entry ∈ entries.insert key value) :
    entry = (key, value) ∨ entry ∈ entries := by
  induction entries with
  | nil => exact .inl (List.mem_singleton.mp h)
  | cons first rest ih =>
    obtain ⟨key', value'⟩ := first
    rw [insert] at h
    split_ifs at h with same before
    · rcases List.mem_cons.mp h with rfl | hr
      · exact .inl rfl
      · exact .inr (.tail _ hr)
    · rcases List.mem_cons.mp h with rfl | hr
      · exact .inl rfl
      · exact .inr hr
    · rcases List.mem_cons.mp h with rfl | hr
      · exact .inr List.mem_cons_self
      · exact (ih hr).imp_right (.tail _)

/-- Putting a value under a key keeps the order of the keys. -/
theorem Ascending.insert (h : entries.Ascending) (key : String) (value : Json) :
    (entries.insert key value).Ascending := by
  induction entries with
  | nil => exact List.pairwise_singleton _ _
  | cons first rest ih =>
    obtain ⟨key', value'⟩ := first
    obtain ⟨below, hr⟩ := List.pairwise_cons.mp h
    rw [Entries.insert]
    split_ifs with same before
    · exact List.pairwise_cons.mpr ⟨fun entry he => same ▸ below entry he, hr⟩
    · refine List.pairwise_cons.mpr ⟨fun entry he => ?_, h⟩
      rcases List.mem_cons.mp he with rfl | he
      · exact before
      · exact before.trans (below entry he)
    · refine List.pairwise_cons.mpr ⟨fun entry he => ?_, ih hr⟩
      rcases eq_or_mem_of_mem_insert he with rfl | he
      · exact lt_of_le_of_ne (not_lt.mp before) (Ne.symm same)
      · exact below entry he

/-- A value under a key behind all others is put at the end. -/
theorem insert_of_forall_lt (behind : ∀ entry ∈ entries, entry.1 < key) :
    entries.insert key value = entries ++ [(key, value)] := by
  induction entries with
  | nil => rfl
  | cons first rest ih =>
    obtain ⟨hf, hr⟩ := List.forall_mem_cons.mp behind
    rw [insert, if_neg hf.ne', if_neg hf.le.not_gt, ih hr, List.cons_append]

theorem foldl_insert_of_ascending (before : Entries) (h : (before ++ entries).Ascending) :
    entries.foldl (fun entries (key, value) => entries.insert key value) before =
      before ++ entries := by
  induction entries generalizing before with
  | nil => exact (List.append_nil _).symm
  | cons entry rest ih =>
    obtain ⟨key, value⟩ := entry
    obtain ⟨-, -, behind⟩ := List.pairwise_append.mp h
    have inserted : before.insert key value = before ++ [(key, value)] :=
      insert_of_forall_lt fun other ho => behind other ho (key, value) List.mem_cons_self
    rw [List.append_cons] at h ⊢
    rw [List.foldl_cons, ← ih _ h, ← inserted]

/-- Entries with ascending keys are in order already. -/
theorem Ascending.ofList_eq (h : entries.Ascending) : ofList entries = entries :=
  foldl_insert_of_ascending [] h

/-- Entries in any order are put into ascending order, and none is made up. -/
theorem ofList_ascending (entries : List (String × Json)) :
    (ofList entries).Ascending ∧ ∀ entry ∈ ofList entries, entry ∈ entries := by
  suffices h : ∀ (rest : List (String × Json)) (before : Entries), before.Ascending →
      (∀ entry ∈ before, entry ∈ entries) → (∀ entry ∈ rest, entry ∈ entries) →
      (rest.foldl (fun entries (key, value) => entries.insert key value) before).Ascending ∧
        ∀ entry ∈ rest.foldl (fun entries (key, value) => entries.insert key value) before,
          entry ∈ entries from
    h entries [] ascending_nil nofun fun _ he => he
  intro rest
  induction rest with
  | nil => exact fun before ascending given _ => ⟨ascending, given⟩
  | cons first rest ih =>
    intro before ascending given more
    obtain ⟨hf, hr⟩ := List.forall_mem_cons.mp more
    refine ih _ (ascending.insert first.1 first.2) (fun entry he => ?_) hr
    rcases eq_or_mem_of_mem_insert he with rfl | he
    · exact hf
    · exact given entry he

theorem get?_of_forall_ne (h : ∀ entry ∈ entries, entry.1 ≠ key) : entries.get? key = none := by
  induction entries with
  | nil => rfl
  | cons first rest ih =>
    obtain ⟨hf, hr⟩ := List.forall_mem_cons.mp h
    rw [get?, if_neg hf, ih hr]

/-- The entries are what is found under the keys. -/
theorem Ascending.mem_iff (h : entries.Ascending) :
    (key, value) ∈ entries ↔ entries.get? key = some value := by
  induction entries with
  | nil => simp [get?]
  | cons first rest ih =>
    obtain ⟨key', value'⟩ := first
    obtain ⟨below, hr⟩ := List.pairwise_cons.mp h
    rw [List.mem_cons, get?, ih hr]
    by_cases same : key' = key
    · subst same
      have absent : get? rest key' = none := get?_of_forall_ne fun entry he => (below entry he).ne'
      simp [absent, eq_comm]
    · simp [same, Ne.symm same]

/-- Entries with ascending keys are known by what is found under the keys. -/
theorem Ascending.eq_of_get? (h : entries.Ascending) (h' : entries'.Ascending)
    (found : ∀ key, entries.get? key = entries'.get? key) : entries = entries' := by
  let before (a b : String × Json) : Prop := a.1 < b.1
  have irrefl : Std.Irrefl before := ⟨fun a => lt_irrefl a.1⟩
  have antisymm : Std.Antisymm before := ⟨fun a b hab hba => absurd hba (lt_asymm hab)⟩
  refine List.Pairwise.eq_of_mem_iff (r := before) h h' fun (key, value) => ?_
  rw [h.mem_iff, h'.mem_iff, found]

theorem Ascending.filter (h : entries.Ascending) (keep : String × Json → Bool) :
    Ascending (entries.filter keep) := List.Pairwise.filter keep h

/-- What is found among some of the entries. -/
theorem Ascending.get?_filter (h : entries.Ascending) (keep : String × Json → Bool)
    (key : String) : get? (entries.filter keep) key =
      (entries.get? key).filter fun value => keep (key, value) := by
  refine Option.ext fun value => ?_
  rw [← (h.filter keep).mem_iff, List.mem_filter, h.mem_iff, Option.filter_eq_some_iff]

end KeyedCoding.Json.Entries
