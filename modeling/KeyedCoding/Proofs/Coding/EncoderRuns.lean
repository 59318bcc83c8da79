import KeyedCoding.Coding.Encoder
import KeyedCoding.Proofs.Coding.FieldwiseDecoding

/-!
# Runs of an encoder

However many calls an encoder gets, and in whatever order: under each key stands the value of the
last call that has put one there, a call that fails or has nothing to put changes nothing, and no
key is lost. A record is encoded by such calls up to the first one that fails.

## Main definitions

* `FilledField.Puts`, `FilledField.FailsWith`: what a call puts under a key, and how it fails.
* `FilledField.Serializes`: a call does not fail.

## Main results

* `FilledField.write_run`: a single call.
* `Encoder.get?_writeAll`: the object after a run.
* `Record.toJson_eq_write`: a record is encoded by the calls for its fields.
* `writeAll_keeps_last`: what a run of an encoder does.
-/

namespace KeyedCoding

variable {α : Type}

/-! ### A single call -/

namespace FilledField

/-- A call puts a JSON value under a key: it has a value, of which this is the JSON form. -/
def Puts (call : FilledField α) (key : String) (json : Json) : Prop :=
  call.key = key ∧ ∃ value, call.held.value? = some value ∧ call.codec.serialize value = .ok json

/-- A call fails: it has a value without a JSON form. -/
def FailsWith (call : FilledField α) (fault : EncodeFault) : Prop :=
  ∃ value, call.held.value? = some value ∧ call.codec.serialize value = .error fault

/-- A call does not fail: it has no value, or one with a JSON form. -/
def Serializes (call : FilledField α) : Prop :=
  ∀ value, call.held.value? = some value → ∃ json, call.codec.serialize value = .ok json

variable {call : FilledField α}

theorem puts_iff {key : String} {json : Json} :
    call.Puts key json ↔ call.key = key ∧ call.put? = some json := by
  refine and_congr_right fun _ => ?_
  cases hv : call.held.value? with
  | none => simp [put?, written?, hv]
  | some value =>
    cases hs : call.codec.serialize value <;> simp [put?, written?, hv, hs, Except.toOption]

theorem failsWith_iff {fault : EncodeFault} :
    call.FailsWith fault ↔ call.written? = some (.error fault) := by
  simp [FailsWith, written?]

theorem serializes_iff : call.Serializes ↔ ∀ fault, ¬call.FailsWith fault := by
  constructor
  · rintro h fault ⟨value, hv, hs⟩
    obtain ⟨json, hj⟩ := h value hv
    rw [hs] at hj
    exact nomatch hj
  · intro h value hv
    cases hs : call.codec.serialize value with
    | ok json => exact ⟨json, rfl⟩
    | error fault => exact absurd ⟨value, hv, hs⟩ (h fault)

/-- What a call gives, and what it makes of the object. -/
theorem write_run (call : FilledField α) (object : Json.Entries) :
    call.write.run object =
      match call.written? with
      | none => (.ok (), object)
      | some (.ok json) => (.ok (), object.insert call.key json)
      | some (.error fault) => (.error (.encode call.key fault), object) := by
  obtain ⟨key, codec, held⟩ := call
  rcases held with value | (_ | value)
  · simp only [write, Encoder.encode, written?, FieldValue.value?, Option.map_some]
    cases codec.serialize value <;> rfl
  · rfl
  · simp only [write, Encoder.encodeIfPresent, Encoder.encode, written?, FieldValue.value?,
      Option.map_some]
    cases codec.serialize value <;> rfl

/-- Encoding a field is the call for it. -/
theorem encodeInto_eq_write (call : FilledField α) (object : Json.Entries) :
    call.encodeInto object = (call.write.run object).1.map fun _ => (call.write.run object).2 := by
  rw [encodeInto_eq, write_run]
  rcases call.written? with _ | (_ | _) <;> rfl

/-- After a call the object has what the call puts under its key, and is as before elsewhere. -/
theorem get?_write (call : FilledField α) (object : Json.Entries) (key : String) :
    (call.write.run object).2.get? key =
      (if call.key = key then call.put? else none).or (object.get? key) := by
  rw [write_run, put?]
  cases call.written? with
  | none => simp
  | some result =>
    cases result with
    | error fault => simp [Except.toOption]
    | ok json =>
      rw [Json.Entries.get?_insert]
      by_cases same : call.key = key <;> simp [same, Except.toOption]

end FilledField

/-! ### Runs -/

namespace Encoder

theorem writeAll_cons (call : FilledField α) (calls : List (FilledField α))
    (object : Json.Entries) :
    (writeAll (call :: calls)).run object =
      ((call.write.run object).1 :: ((writeAll calls).run (call.write.run object).2).1,
        ((writeAll calls).run (call.write.run object).2).2) := by
  simp only [writeAll, List.mapM_cons]
  rfl

/-- **The object after a run.** -/
theorem get?_writeAll (calls : List (FilledField α)) (object : Json.Entries) (key : String) :
    ((writeAll calls).run object).2.get? key =
      (Record.lastWrite? key calls).or (object.get? key) := by
  induction calls generalizing object with
  | nil => rfl
  | cons call calls ih =>
    rw [writeAll_cons, ih, FilledField.get?_write, Record.lastWrite?, Option.or_assoc]

/-- Each call of a run gives an error if it fails, and no error otherwise. -/
theorem forall₂_writeAll (calls : List (FilledField α)) (object : Json.Entries) :
    List.Forall₂ (fun call result => (result = .ok () ↔ call.Serializes) ∧
        ∀ error, result = .error error ↔
          ∃ fault, call.FailsWith fault ∧ error = .encode call.key fault)
      calls ((writeAll calls).run object).1 := by
  induction calls generalizing object with
  | nil => exact .nil
  | cons call calls ih =>
    rw [writeAll_cons]
    refine .cons ?_ (ih _)
    rw [FilledField.write_run, FilledField.serializes_iff]
    simp only [FilledField.failsWith_iff]
    rcases call.written? with _ | (_ | _) <;> simp [eq_comm]

end Encoder

namespace Record

/-- The last call that puts something under a key is the first one from behind. -/
private theorem lastWrite?_eq_findSome? (key : String) (calls : Record α) :
    lastWrite? key calls =
      calls.reverse.findSome? fun call => if call.key = key then call.put? else none := by
  induction calls with
  | nil => rfl
  | cons call calls ih =>
    rw [lastWrite?, ih, List.reverse_cons, List.findSome?_append]
    simp

private theorem put_eq_none_iff {key : String} {call : FilledField α} :
    (if call.key = key then call.put? else none) = none ↔ ∀ json, ¬call.Puts key json := by
  simp [FilledField.puts_iff, Option.eq_none_iff_forall_ne_some, @forall_comm Json]

theorem lastWrite?_eq_some_iff {key : String} {calls : Record α} {json : Json} :
    lastWrite? key calls = some json ↔ ∃ earlier call later, calls = earlier ++ call :: later ∧
      call.Puts key json ∧ ∀ other ∈ later, ∀ json, ¬other.Puts key json := by
  rw [lastWrite?_eq_findSome?, List.findSome?_eq_some_iff]
  constructor
  · rintro ⟨later, call, earlier, split, puts, absent⟩
    refine ⟨earlier.reverse, call, later.reverse, ?_, ?_, ?_⟩
    · rw [← List.reverse_reverse calls, split]
      simp
    · exact FilledField.puts_iff.mpr (by simpa using puts)
    · exact fun other member => put_eq_none_iff.mp (absent other (List.mem_reverse.mp member))
  · rintro ⟨earlier, call, later, rfl, puts, absent⟩
    refine ⟨later.reverse, call, earlier.reverse, by simp, ?_, ?_⟩
    · simpa using FilledField.puts_iff.mp puts
    · exact fun other member => put_eq_none_iff.mpr (absent other (List.mem_reverse.mp member))

theorem lastWrite?_eq_none_iff {key : String} {calls : Record α} :
    lastWrite? key calls = none ↔ ∀ call ∈ calls, ∀ json, ¬call.Puts key json := by
  rw [lastWrite?_eq_findSome?, List.findSome?_eq_none_iff]
  simp only [List.mem_reverse, put_eq_none_iff]

private theorem stateBind_apply {β γ : Type} (x : StateM Json.Entries β)
    (f : β → StateM Json.Entries γ) (object : Json.Entries) :
    (x >>= f) object = f (x object).1 (x object).2 := rfl

/-- A record is encoded into an object by the calls for its fields. -/
theorem encodeInto_eq_write (record : Record α) (object : Json.Entries) :
    record.encodeInto object =
      (record.write.run object).1.map fun _ => (record.write.run object).2 := by
  induction record generalizing object with
  | nil => rfl
  | cons field rest ih =>
    rw [encodeInto, FilledField.encodeInto_eq_write, write, List.forM_eq_forM, List.forM_cons,
      ExceptT.run_bind, stateBind_apply]
    cases (field.write.run object).1 with
    | error error => rfl
    | ok _ => exact ih _

/-- **A record is encoded by an encoder that starts with an empty object.** -/
theorem toJson_eq_write (record : Record α) :
    record.toJson = (record.write.run []).1.map fun _ => .object (record.write.run []).2 := by
  rw [toJson, encodeInto_eq_write]
  cases (record.write.run []).1 <;> rfl

/-- The first field that fails gives the error. -/
theorem encodeInto_eq_error_iff {record : Record α} {object : Json.Entries} {error : CodingError} :
    record.encodeInto object = .error error ↔ ∃ earlier field later fault,
      record = earlier ++ field :: later ∧ (∀ other ∈ earlier, other.Serializes) ∧
        field.FailsWith fault ∧ error = .encode field.key fault := by
  induction record generalizing object with
  | nil => simp [encodeInto]
  | cons first rest ih =>
    have shift : (∃ earlier field later fault, first :: rest = earlier ++ field :: later ∧
          (∀ other ∈ earlier, other.Serializes) ∧ field.FailsWith fault ∧
            error = .encode field.key fault) ↔
        (∃ fault, first.FailsWith fault ∧ error = .encode first.key fault) ∨
          first.Serializes ∧ ∃ earlier field later fault, rest = earlier ++ field :: later ∧
            (∀ other ∈ earlier, other.Serializes) ∧ field.FailsWith fault ∧
              error = .encode field.key fault := by
      simp only [exists_and_left]
      exact exists_first_cons_iff
    rw [shift, encodeInto, FilledField.encodeInto_eq]
    simp only [FilledField.serializes_iff, FilledField.failsWith_iff] at ih ⊢
    cases hw : first.written? with
    | none => simp [ih]
    | some result =>
      cases result with
      | ok json => simp [ih]
      | error fault => simp [eq_comm]

/-- A record is encoded unless one of its fields fails. -/
theorem exists_encodeInto_iff {record : Record α} {object : Json.Entries} :
    (∃ object', record.encodeInto object = .ok object') ↔ ∀ field ∈ record, field.Serializes := by
  induction record generalizing object with
  | nil => simp [encodeInto]
  | cons first rest ih =>
    rw [encodeInto, FilledField.encodeInto_eq, List.forall_mem_cons]
    simp only [FilledField.serializes_iff, FilledField.failsWith_iff] at ih ⊢
    cases hw : first.written? with
    | none => simp [ih]
    | some result => cases result <;> simp [ih]

end Record

/-- **An encoder keeps exactly what was put last.** For every run of calls of an encoder on an
object, whether or not single calls fail:

* under each key stands what the last call that has put something there has put, or else what
  stood there before;
* no key is lost;
* each call gives the error of its value, with its own key, if this has no JSON form, and no error
  otherwise;
* a call that fails or has no value leaves any object as it is.

A record whose fields make these calls is encoded by them, on an empty object and up to the first
one that fails. So this succeeds if and only if each value in the record has a JSON form, and gives
the error of the first field without one otherwise. -/
theorem writeAll_keeps_last (calls : Record α) (before : Json.Entries) :
    ∃ results after, (Encoder.writeAll calls).run before = (results, after) ∧
      (∀ key, (∃ earlier call later json, calls = earlier ++ call :: later ∧ call.Puts key json ∧
          (∀ other ∈ later, ∀ json, ¬other.Puts key json) ∧ after.get? key = some json) ∨
        (∀ call ∈ calls, ∀ json, ¬call.Puts key json) ∧ after.get? key = before.get? key) ∧
      (∀ key, before.contains key = true → after.contains key = true) ∧
      List.Forall₂ (fun call result => (result = .ok () ↔ call.Serializes) ∧
        ∀ error, result = .error error ↔
          ∃ fault, call.FailsWith fault ∧ error = .encode call.key fault) calls results ∧
      (∀ (call : FilledField α) object fault, call.FailsWith fault →
        call.write.run object = (.error (.encode call.key fault), object)) ∧
      (∀ (call : FilledField α) object, call.held.value? = none →
        call.write.run object = (.ok (), object)) ∧
      calls.toJson = ((calls.write.run []).1.map fun _ => .object (calls.write.run []).2) ∧
      ((∃ json, calls.toJson = .ok json) ↔ ∀ field ∈ calls, field.Serializes) ∧
      (∀ error, calls.toJson = .error error ↔ ∃ earlier field later fault,
        calls = earlier ++ field :: later ∧ (∀ other ∈ earlier, other.Serializes) ∧
          field.FailsWith fault ∧ error = .encode field.key fault) := by
  have found := Encoder.get?_writeAll calls before
  have given := Encoder.forall₂_writeAll calls before
  generalize (Encoder.writeAll calls).run before = run at found given ⊢
  refine ⟨run.1, run.2, rfl, ?_, ?_, given, ?_, ?_, calls.toJson_eq_write, ?_, ?_⟩
  · intro key
    cases last : Record.lastWrite? key calls with
    | none =>
      exact .inr ⟨Record.lastWrite?_eq_none_iff.mp last, by rw [found, last, Option.none_or]⟩
    | some json =>
      obtain ⟨earlier, call, later, split, puts, absent⟩ := Record.lastWrite?_eq_some_iff.mp last
      exact .inl ⟨earlier, call, later, json, split, puts, absent, by
        rw [found, last, Option.some_or]⟩
  · intro key present
    rw [Json.Entries.contains] at present ⊢
    rw [found, Option.isSome_or, present, Bool.or_true]
  · intro call object fault fails
    rw [FilledField.write_run, FilledField.failsWith_iff.mp fails]
  · intro call object absent
    rw [FilledField.write_run, FilledField.written?, absent, Option.map_none]
  · have encoded : (∃ object, calls.encodeInto [] = .ok object) ↔ _ := Record.exists_encodeInto_iff
    rw [← encoded, Record.toJson]
    cases Record.encodeInto calls [] <;> simp [Except.map]
  · intro error
    have encoded : calls.encodeInto [] = .error error ↔ _ := Record.encodeInto_eq_error_iff
    rw [← encoded, Record.toJson]
    cases Record.encodeInto calls [] <;> simp [Except.map]

end KeyedCoding
