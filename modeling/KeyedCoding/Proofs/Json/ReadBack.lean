import KeyedCoding.Proofs.Json.Entries
import KeyedCoding.Proofs.Json.Scalars

/-!
# JSON values are read back from their text

A value without numbers with a fraction is read back from its text if it does not nest too deep.
What contains the value must go on after it, so that it is read back whatever follows, as long as
that does not go on with a number.

## Main definitions

* `Json.IsProper`: whole numbers fit 64 bits, and the keys of objects ascend.
* `Json.hasFloat`: a value contains a number with a fraction.
* `Json.depth`: how many arrays and objects contain each other.
* `Json.IsReadBack`: a value is read back, whatever follows.

## Main results

* `Json.readElements_elementChars`, `Json.readEntries_entryChars`: the parts of arrays and objects
  are read back if each of them is.
* `Json.isReadBack`: values are read back.
* `Json.ofText?_text`: the text of a value spells this value.
-/

namespace KeyedCoding.Json

/-! ### The shape of values -/

/-- A value that can occur: whole numbers fit 64 bits, with or without a sign, and the keys of
objects ascend. -/
inductive IsProper : Json → Prop
  | null : IsProper .null
  | bool (value : Bool) : IsProper (.bool value)
  | integer {value : Int} (least : -0x8000000000000000 ≤ value)
      (greatest : value ≤ 0xFFFFFFFFFFFFFFFF) : IsProper (.integer value)
  | float (negative : Bool) (magnitude : Magnitude) : IsProper (.float negative magnitude)
  | string (value : String) : IsProper (.string value)
  | array {elements : List Json} (h : ∀ element ∈ elements, IsProper element) :
      IsProper (.array elements)
  | object {entries : Entries} (ascending : entries.Ascending)
      (h : ∀ entry ∈ entries, IsProper entry.2) : IsProper (.object entries)

mutual

/-- Whether a value contains a number with a fraction. -/
def hasFloat : Json → Bool
  | .float .. => true
  | .array elements => elementsHaveFloat elements
  | .object entries => entriesHaveFloat entries
  | _ => false

/-- Whether any element contains a number with a fraction. -/
def elementsHaveFloat : List Json → Bool
  | [] => false
  | element :: rest => element.hasFloat || elementsHaveFloat rest

/-- Whether any entry contains a number with a fraction. -/
def entriesHaveFloat : List (String × Json) → Bool
  | [] => false
  | (_, value) :: rest => value.hasFloat || entriesHaveFloat rest

end

mutual

/-- How many arrays and objects contain each other. -/
def depth : Json → Nat
  | .array elements => depthOfElements elements + 1
  | .object entries => depthOfEntries entries + 1
  | _ => 0

/-- The depth of the deepest element. -/
def depthOfElements : List Json → Nat
  | [] => 0
  | element :: rest => max element.depth (depthOfElements rest)

/-- The depth of the deepest entry. -/
def depthOfEntries : List (String × Json) → Nat
  | [] => 0
  | (_, value) :: rest => max value.depth (depthOfEntries rest)

end

section Shape

variable {elements : List Json} {entries : Entries}

theorem hasFloat_of_mem_elements (h : elementsHaveFloat elements = false) :
    ∀ element ∈ elements, element.hasFloat = false := by
  induction elements with
  | nil => simp
  | cons first rest ih =>
    obtain ⟨hf, hr⟩ := Bool.or_eq_false_iff.mp h
    exact List.forall_mem_cons.mpr ⟨hf, ih hr⟩

theorem hasFloat_of_mem_entries (h : entriesHaveFloat entries = false) :
    ∀ entry ∈ entries, entry.2.hasFloat = false := by
  induction entries with
  | nil => simp
  | cons first rest ih =>
    obtain ⟨hf, hr⟩ := Bool.or_eq_false_iff.mp h
    exact List.forall_mem_cons.mpr ⟨hf, ih hr⟩

theorem depth_le_of_mem_elements :
    ∀ element ∈ elements, element.depth ≤ depthOfElements elements := by
  induction elements with
  | nil => simp
  | cons first rest ih =>
    exact List.forall_mem_cons.mpr ⟨Nat.le_max_left _ _,
      fun element he => (ih element he).trans (Nat.le_max_right _ _)⟩

theorem depth_le_of_mem_entries : ∀ entry ∈ entries, entry.2.depth ≤ depthOfEntries entries := by
  induction entries with
  | nil => simp
  | cons first rest ih =>
    exact List.forall_mem_cons.mpr ⟨Nat.le_max_left _ _,
      fun entry he => (ih entry he).trans (Nat.le_max_right _ _)⟩

end Shape

/-! ### How values start -/

/-- A value is read from its characters, whatever follows that does not go on with a number, if
there are more than two steps for each of the characters. -/
def IsReadBack (depth : Nat) (json : Json) : Prop :=
  ∀ fuel rest, 2 * json.chars.length < fuel → EndsNumber rest →
    readValue fuel depth (json.chars ++ rest) = some (json, rest)

variable {depth fuel : Nat} {c : Char} {source rest : List Char}

theorem skipBlanks_cons (h : isBlank c = false) (rest : List Char) :
    skipBlanks (c :: rest) = c :: rest := by
  rw [skipBlanks, List.dropWhile_cons, h]
  rfl

theorem not_isBlank_of_isDigit (h : c.isDigit = true) : isBlank c = false := by
  by_contra blank
  simp only [isBlank, Bool.or_eq_true, beq_iff_eq, Bool.not_eq_false] at blank
  rcases blank with ((rfl | rfl) | rfl) | rfl <;> exact absurd h (by decide)

/-- What starts with a digit is a number. -/
theorem readValue_of_isDigit (h : c.isDigit = true) (rest : List Char) :
    readValue (fuel + 1) depth (c :: rest) = readNumber false (c :: rest) := by
  rw [readValue, skipBlanks_cons (not_isBlank_of_isDigit h)]
  split
  case h_1 he => exact nomatch he
  case h_9 => rfl
  all_goals
    next he =>
      obtain ⟨rfl, -⟩ := List.cons.inj he
      exact absurd h (by decide)

theorem elementChars_cons_cons (element second : Json) (others : List Json) :
    elementChars (element :: second :: others) =
      element.chars ++ ',' :: elementChars (second :: others) := rfl

theorem entryChars_cons_cons (key : String) (value : Json) (second : String × Json)
    (others : Entries) :
    entryChars ((key, value) :: second :: others) =
      quoted key ++ ':' :: (value.chars ++ ',' :: entryChars (second :: others)) := rfl

/-- The text of a value starts with no blank and no bracket that closes an array. -/
theorem exists_chars_eq_cons {json : Json} (noFloat : json.hasFloat = false) :
    ∃ c rest, json.chars = c :: rest ∧ isBlank c = false ∧ c ≠ ']' := by
  cases json with
  | null => exact ⟨_, _, rfl, rfl, by decide⟩
  | bool value => cases value <;> exact ⟨_, _, rfl, rfl, by decide⟩
  | integer value =>
    obtain ⟨c, digits, he, isDigit⟩ := exists_toDigits_eq_cons value.natAbs
    rw [chars, integerChars, he]
    by_cases negative : value < 0
    · rw [if_pos negative]
      exact ⟨_, _, rfl, rfl, by decide⟩
    · rw [if_neg negative]
      refine ⟨_, _, rfl, not_isBlank_of_isDigit isDigit, ?_⟩
      rintro rfl
      exact absurd isDigit (by decide)
  | float => exact nomatch noFloat
  | string value => exact ⟨_, _, rfl, rfl, by decide⟩
  | array elements => exact ⟨_, _, rfl, rfl, by decide⟩
  | object entries => exact ⟨_, _, rfl, rfl, by decide⟩

/-- So do the elements of an array. -/
theorem exists_elementChars_eq_cons {element : Json} (noFloat : element.hasFloat = false)
    (others : List Json) (rest : List Char) :
    ∃ c source, elementChars (element :: others) ++ rest = c :: source ∧ isBlank c = false ∧
      c ≠ ']' := by
  obtain ⟨c, source, he, starts⟩ := exists_chars_eq_cons noFloat
  cases others with
  | nil => exact ⟨c, source ++ rest, by rw [elementChars, he, List.cons_append], starts⟩
  | cons second others =>
    exact ⟨c, _, by rw [elementChars_cons_cons, he]; rfl, starts⟩

/-- The entries of an object start with the quote of their first key. -/
theorem exists_entryChars_eq_cons (entry : String × Json) (others : Entries) (rest : List Char) :
    ∃ source, entryChars (entry :: others) ++ rest = '"' :: source := by
  obtain ⟨key, value⟩ := entry
  cases others with
  | nil => exact ⟨_, by rw [entryChars, List.append_assoc, quoted_append]⟩
  | cons second others =>
    exact ⟨_, by rw [entryChars_cons_cons, List.append_assoc, quoted_append]⟩

/-! ### Arrays and objects -/

/-- The last element of an array. -/
theorem readElements_last {element : Json} (h : IsReadBack depth element)
    (enough : 2 * element.chars.length < fuel) (rest : List Char) :
    readElements (fuel + 1) depth (element.chars ++ ']' :: rest) = some ([element], rest) := by
  rw [readElements, h fuel _ enough (endsNumber_cons (by decide) rest)]
  rfl

/-- An element in front of others. -/
theorem readElements_comma {element : Json} (h : IsReadBack depth element)
    (enough : 2 * element.chars.length < fuel) (source : List Char) :
    readElements (fuel + 1) depth (element.chars ++ ',' :: source) =
      (readElements fuel depth source).map fun (elements, rest) => (element :: elements, rest) := by
  rw [readElements, h fuel _ enough (endsNumber_cons (by decide) source)]
  rfl

/-- The elements of an array are read back if each of them is. -/
theorem readElements_elementChars {elements : List Json} (ne : elements ≠ [])
    (h : ∀ element ∈ elements, IsReadBack depth element)
    (enough : 2 * (elementChars elements).length < fuel) (rest : List Char) :
    readElements (fuel + 1) depth (elementChars elements ++ ']' :: rest) =
      some (elements, rest) := by
  induction elements generalizing fuel with
  | nil => exact absurd rfl ne
  | cons element others ih =>
    obtain ⟨first, later⟩ := List.forall_mem_cons.mp h
    cases others with
    | nil => exact readElements_last first enough rest
    | cons second others =>
      rw [elementChars_cons_cons, List.length_append, List.length_cons] at enough
      obtain ⟨fuel, rfl⟩ := Nat.exists_eq_add_one_of_ne_zero (show fuel ≠ 0 by omega)
      have tail := ih (List.cons_ne_nil _ _) later (show _ < fuel by omega)
      rw [elementChars_cons_cons, List.append_assoc, List.cons_append,
        readElements_comma first (by omega), tail]
      rfl

theorem skipBlanks_quoted (key : String) (rest : List Char) :
    skipBlanks (quoted key ++ rest) = '"' :: (key.toList.flatMap quotedChar ++ '"' :: rest) := by
  rw [quoted_append, skipBlanks_cons rfl]

/-- The last entry of an object. -/
theorem readEntries_last {value : Json} (h : IsReadBack depth value) (key : String)
    (enough : 2 * value.chars.length < fuel) (rest : List Char) :
    readEntries (fuel + 1) depth (quoted key ++ ':' :: (value.chars ++ '}' :: rest)) =
      some ([(key, value)], rest) := by
  have read := h fuel ('}' :: rest) enough (endsNumber_cons (by decide) rest)
  have colon : isBlank ':' = false := rfl
  have brace : isBlank '}' = false := rfl
  rw [readEntries, skipBlanks_quoted]
  simp only [readString_quoted, skipBlanks_cons colon, read, skipBlanks_cons brace]

/-- An entry in front of others. -/
theorem readEntries_comma {value : Json} (h : IsReadBack depth value) (key : String)
    (enough : 2 * value.chars.length < fuel) (source : List Char) :
    readEntries (fuel + 1) depth (quoted key ++ ':' :: (value.chars ++ ',' :: source)) =
      (readEntries fuel depth source).map
        fun (entries, rest) => ((key, value) :: entries, rest) := by
  have read := h fuel (',' :: source) enough (endsNumber_cons (by decide) source)
  have colon : isBlank ':' = false := rfl
  have comma : isBlank ',' = false := rfl
  rw [readEntries, skipBlanks_quoted]
  simp only [readString_quoted, skipBlanks_cons colon, read, skipBlanks_cons comma]

/-- The entries of an object are read back if each of their values is. -/
theorem readEntries_entryChars {entries : Entries} (ne : entries ≠ [])
    (h : ∀ entry ∈ entries, IsReadBack depth entry.2)
    (enough : 2 * (entryChars entries).length < fuel) (rest : List Char) :
    readEntries (fuel + 1) depth (entryChars entries ++ '}' :: rest) = some (entries, rest) := by
  induction entries generalizing fuel with
  | nil => exact absurd rfl ne
  | cons entry others ih =>
    obtain ⟨key, value⟩ := entry
    obtain ⟨first, later⟩ := List.forall_mem_cons.mp h
    change IsReadBack depth value at first
    cases others with
    | nil =>
      rw [entryChars, List.length_append, List.length_cons] at enough
      rw [entryChars, List.append_assoc, List.cons_append]
      exact readEntries_last first key (by omega) rest
    | cons second others =>
      rw [entryChars_cons_cons, List.length_append, List.length_cons, List.length_append,
        List.length_cons] at enough
      obtain ⟨fuel, rfl⟩ := Nat.exists_eq_add_one_of_ne_zero (show fuel ≠ 0 by omega)
      have tail := ih (List.cons_ne_nil _ _) later (show _ < fuel by omega)
      rw [entryChars_cons_cons, List.append_assoc, List.cons_append, List.append_assoc,
        List.cons_append, readEntries_comma first key (by omega), tail]
      rfl

/-! ### Values -/

theorem isReadBack_integer {value : Int} (least : -0x8000000000000000 ≤ value)
    (greatest : value ≤ 0xFFFFFFFFFFFFFFFF) : IsReadBack depth (integer value) := by
  intro fuel rest enough ends
  obtain ⟨steps, rfl⟩ := Nat.exists_eq_add_of_lt enough
  rw [chars, integerChars]
  by_cases negative : value < 0
  · have magnitude : -(value.natAbs : Int) = value := by omega
    have positive : 0 < value.natAbs := by omega
    have read := readNumber_true_toDigits positive (by omega) ends
    rw [magnitude] at read
    rw [if_pos negative]
    exact read
  · have magnitude : (value.natAbs : Int) = value := by omega
    have fits : value.natAbs ≤ maxUnsigned := by rw [maxUnsigned]; omega
    have read := readNumber_false_toDigits fits ends
    obtain ⟨c, digits, he, isDigit⟩ := exists_toDigits_eq_cons value.natAbs
    rw [magnitude, he] at read
    rw [if_neg negative, List.nil_append, he, List.cons_append, readValue_of_isDigit isDigit]
    exact read

theorem isReadBack_string (value : String) : IsReadBack depth (string value) := by
  intro fuel rest enough _
  obtain ⟨steps, rfl⟩ := Nat.exists_eq_add_of_lt enough
  rw [chars, quoted_append, readValue, skipBlanks_cons rfl]
  simp only [readString_quoted]
  rfl

/-- What stands between the brackets of an array, if it is not empty, is its elements. -/
theorem readValue_array {elements : List Json} (noBlank : isBlank c = false) (noBracket : c ≠ ']')
    (read : readElements fuel depth (c :: source) = some (elements, rest)) :
    readValue (fuel + 1) (depth + 1) ('[' :: c :: source) = some (array elements, rest) := by
  rw [readValue, skipBlanks_cons rfl]
  simp only [skipBlanks_cons noBlank]
  split
  · next he => exact absurd (List.cons.inj he).1 noBracket
  · rw [read]
    rfl

theorem isReadBack_array {elements : List Json}
    (noFloat : ∀ element ∈ elements, element.hasFloat = false)
    (h : ∀ element ∈ elements, IsReadBack depth element) :
    IsReadBack (depth + 1) (array elements) := by
  intro fuel rest enough _
  rw [chars, List.length_append, List.length_cons, List.length_singleton] at enough
  obtain ⟨fuel, rfl⟩ := Nat.exists_eq_add_of_le' (show 2 ≤ fuel by omega)
  rw [chars, List.append_assoc, List.cons_append, List.singleton_append]
  cases elements with
  | nil => rfl
  | cons element others =>
    have read := readElements_elementChars (List.cons_ne_nil _ _) h (show _ < fuel by omega) rest
    obtain ⟨c, source, he, noBlank, noBracket⟩ :=
      exists_elementChars_eq_cons (noFloat element List.mem_cons_self) others (']' :: rest)
    rw [he] at read ⊢
    exact readValue_array noBlank noBracket read

/-- What stands between the braces of an object, if it is not empty, is its entries. -/
theorem readValue_object {entries : Entries}
    (read : readEntries fuel depth ('"' :: source) = some (entries, rest)) :
    readValue (fuel + 1) (depth + 1) ('{' :: '"' :: source) =
      some (object (Entries.ofList entries), rest) := by
  rw [readValue, skipBlanks_cons rfl]
  simp only [skipBlanks_cons (show isBlank '"' = false from rfl)]
  change (readEntries fuel depth _).map _ = _
  rw [read]
  rfl

theorem isReadBack_object {entries : Entries} (ascending : entries.Ascending)
    (h : ∀ entry ∈ entries, IsReadBack depth entry.2) :
    IsReadBack (depth + 1) (object entries) := by
  intro fuel rest enough _
  rw [chars, List.length_append, List.length_cons, List.length_singleton] at enough
  obtain ⟨fuel, rfl⟩ := Nat.exists_eq_add_of_le' (show 2 ≤ fuel by omega)
  rw [chars, List.append_assoc, List.cons_append, List.singleton_append]
  cases entries with
  | nil => rfl
  | cons entry others =>
    have read := readEntries_entryChars (List.cons_ne_nil _ _) h (show _ < fuel by omega) rest
    obtain ⟨source, he⟩ := exists_entryChars_eq_cons entry others ('}' :: rest)
    rw [he] at read ⊢
    rw [readValue_object read, ascending.ofList_eq]

/-- **Values are read back.** By induction on the value, with the depth that is left: what an array
or an object contains has one less. -/
theorem isReadBack {json : Json} (proper : json.IsProper) (noFloat : json.hasFloat = false)
    (shallow : json.depth ≤ depth) : IsReadBack depth json := by
  induction proper generalizing depth with
  | null =>
    intro fuel rest enough _
    obtain ⟨steps, rfl⟩ := Nat.exists_eq_add_of_lt enough
    rfl
  | bool value =>
    intro fuel rest enough _
    obtain ⟨steps, rfl⟩ := Nat.exists_eq_add_of_lt enough
    cases value <;> rfl
  | integer least greatest => exact isReadBack_integer least greatest
  | float => exact nomatch noFloat
  | string value => exact isReadBack_string value
  | @array elements _ ih =>
    obtain ⟨depth, rfl⟩ := Nat.exists_eq_add_of_le' (Nat.one_le_of_lt (Nat.lt_of_succ_le shallow))
    have noFloats := hasFloat_of_mem_elements noFloat
    refine isReadBack_array noFloats fun element he => ih element he (noFloats element he) ?_
    exact (depth_le_of_mem_elements element he).trans (Nat.le_of_succ_le_succ shallow)
  | @object entries ascending _ ih =>
    obtain ⟨depth, rfl⟩ := Nat.exists_eq_add_of_le' (Nat.one_le_of_lt (Nat.lt_of_succ_le shallow))
    have noFloats := hasFloat_of_mem_entries noFloat
    refine isReadBack_object ascending fun entry he => ih entry he (noFloats entry he) ?_
    exact (depth_le_of_mem_entries entry he).trans (Nat.le_of_succ_le_succ shallow)

/-- **The text of a value spells this value.** -/
theorem ofText?_text {json : Json} (proper : json.IsProper) (noFloat : json.hasFloat = false)
    (shallow : json.depth ≤ maxDepth) : ofText? json.text = some json := by
  have read := isReadBack proper noFloat shallow (2 * json.chars.length + 2) []
    (Nat.lt_add_of_pos_right (by decide)) endsNumber_nil
  rw [List.append_nil] at read
  rw [ofText?, text, String.toList_ofList, ofChars?, read]
  rfl

end KeyedCoding.Json
