import KeyedCoding.Proofs.Settings.Accepted
import Mathlib.Data.List.Infix

/-!
# What may stand in front of the names of setters

A text that makes a word with every name behind it, and never one of the four words without a raw
form, can stand in front of the names of setters. Not all such texts are accepted. The check looks
at the characters of the text, at the four words, and at what the text makes with the name `x`. So
it refuses three sorts of such texts: those with a character that may continue a word but is neither
an underscore nor alphanumeric, the four words themselves, and `bo`, which makes the keyword `box`.

## Main definitions

* `Settings.OthersAreValid`: all other settings can be used.
* `Settings.NamesSetters`: a text makes names of setters.
* `Settings.IsRefusedWithoutCause`: settings are refused although all setters would have names.

## Main results

* `Settings.isSetterPrefix_iff`: which of the texts that make names pass the check.
* `Settings.exists_resolve_iff`: which of them are accepted.
* `Settings.refused_without_cause`: a text of each sort that is refused.
-/

namespace KeyedCoding

open Text

namespace Settings

/-- Whether all settings can be used but for what stands in front of the names of setters. -/
structure OthersAreValid (settings : Settings) : Prop where
  keyMarker : settings.keyMarker ≠ ""
  keysIdent : ∀ text ∈ settings.keysIdent, (Ident.ofText? text).isSome = true
  constructor : (Ident.ofText? settings.constructor).isSome = true
  runtime : (Path.ofText? settings.runtimePath).isSome = true

/-- With the name of every identifier behind it a text makes a word. This word may be reserved, but
is none of the four that have no raw form. -/
def NamesSetters (start : String) : Prop :=
  ∀ ident : Ident, Word.isWord (start ++ ident.name).toList = true ∧
    start ++ ident.name ∉ neverRaw

variable {start : String}

/-! ### What a text makes with names -/

/-- A word makes names with all names if it starts none of the four words but itself. -/
theorem namesSetters_of_isWord (h : Word.isWord start.toList = true)
    (starts : ∀ word ∈ neverRaw, startsWith word start = true → word = start) :
    NamesSetters start := by
  intro ident
  constructor
  · rw [String.toList_append]
    exact Word.isWord_append h fun d => Word.isIdentifierContinue_of_mem ident.isWord_name
  · intro hm
    have whole := starts _ hm (startsWith_iff.mpr ⟨_, rfl⟩)
    exact ident.name_ne (String.append_eq_left_iff.mp whole)

/-- What follows after the first letters of a word without a raw form is a name. -/
theorem exists_name_of_mem_neverRaw {rest : String} (ne : start ≠ "") (hr : rest ≠ "")
    (h : start ++ rest ∈ neverRaw) : ∃ ident : Ident, ident.name = rest := by
  have names : ∀ word ∈ neverRaw, ∀ ending ∈ word.toList.tail.tails, ending ≠ [] →
      (Word.isWord ending && !Lexeme.unrawable.contains (String.ofList ending)) = true := by
    decide
  cases hs : start.toList with
  | nil => exact absurd (String.toList_eq_nil_iff.mp hs) ne
  | cons c more =>
    have ending : rest.toList ∈ (start ++ rest).toList.tail.tails := by
      rw [String.toList_append, hs, List.cons_append, List.tail_cons, List.mem_tails]
      exact List.suffix_append _ _
    have valid := names _ h _ ending fun he => hr (String.toList_eq_nil_iff.mp he)
    rw [String.ofList_toList] at valid
    exact ⟨⟨true, rest, valid⟩, rfl⟩

/-- A text that makes names starts none of the four words unless it is one. -/
theorem NamesSetters.startsWith_neverRaw_iff (names : NamesSetters start) (ne : start ≠ "") :
    neverRaw.any (startsWith · start) = true ↔ start ∈ neverRaw := by
  rw [List.any_eq_true]
  constructor
  · rintro ⟨word, hw, h⟩
    obtain ⟨rest, rfl⟩ := startsWith_iff.mp h
    by_cases hr : rest = ""
    · rwa [hr, String.append_empty] at hw
    · obtain ⟨ident, rfl⟩ := exists_name_of_mem_neverRaw ne hr hw
      exact absurd hw (names ident).2
  · exact fun h => ⟨start, h, startsWith_iff.mpr ⟨"", by rw [String.append_empty]⟩⟩

/-- `box` is the only reserved word that ends with `x`. -/
theorem isReserved_append_x_iff : Word.isReserved (start ++ "x") = true ↔ start = "bo" := by
  constructor
  · intro h
    have box : ∀ word ∈ Word.reserved, word.toList.getLast? = some 'x' → word = "bo" ++ "x" := by
      decide
    have ends : (start ++ "x").toList.getLast? = some 'x' := by
      rw [String.toList_append]
      exact List.getLast?_concat
    exact (String.append_left_inj "x").mp (box _ (List.contains_iff_mem.mp h) ends)
  · rintro rfl
    decide

/-- With the name `x` a text that makes names is read as an identifier, unless it is `bo`. -/
theorem NamesSetters.isSome_ofText?_iff (names : NamesSetters start) :
    (Ident.ofText? (start ++ "x")).isSome = true ↔ start ≠ "bo" := by
  have word : Word.isWord (start ++ "x").toList = true := (names ⟨false, "x", by decide⟩).1
  rw [Ident.isSome_ofText?_of_isWord word, Bool.not_eq_true', ← Bool.not_eq_true]
  exact isReserved_append_x_iff.not

/-- Of the texts that make names those pass the check that have no other characters than underscores
and alphanumeric ones, are none of the four words, and are not `bo`. -/
theorem isSetterPrefix_iff (names : NamesSetters start) (ne : start ≠ "") :
    isSetterPrefix start = true ↔
      (∀ c ∈ start.toList, c = '_' ∨ isAlphanumeric c = true) ∧ start ∉ neverRaw ∧
        start ≠ "bo" := by
  rw [isSetterPrefix, Bool.and_eq_true, Bool.and_eq_true, names.isSome_ofText?_iff,
    Bool.not_eq_true', ← Bool.not_eq_true, names.startsWith_neverRaw_iff ne, and_assoc]
  simp only [List.all_eq_true, Bool.or_eq_true, beq_iff_eq]

/-! ### Settings that are accepted -/

section Acceptance

variable {settings : Settings}

/-- If all other settings can be used, what stands in front of the names of setters decides. -/
theorem OthersAreValid.exists_resolve_eq (valid : settings.OthersAreValid) :
    ∃ resolved, settings.resolve = settings.checkSetterPrefix.map fun _ => resolved := by
  obtain ⟨constructor, hc⟩ := Option.isSome_iff_exists.mp valid.constructor
  obtain ⟨runtime, hr⟩ := Option.isSome_iff_exists.mp valid.runtime
  have keysIdent : ∃ keysIdent, settings.keysIdent.mapM (readIdent .keysIdent) = .ok keysIdent := by
    cases hk : settings.keysIdent with
    | none => exact ⟨none, rfl⟩
    | some text =>
      obtain ⟨ident, hi⟩ := Option.isSome_iff_exists.mp (valid.keysIdent text hk)
      exact ⟨some ident, by rw [Option.mapM_some, readIdent, hi]; rfl⟩
  obtain ⟨keysIdent, hk⟩ := keysIdent
  refine ⟨⟨settings.keyMarker, keysIdent, constructor, settings.setterPrefix, runtime⟩, ?_⟩
  rw [resolve, if_neg (by simpa using valid.keyMarker), hk, hr, readIdent, hc]
  cases settings.checkSetterPrefix with
  | ok => rfl
  | error => rfl

/-- A text that does not clash with the constructor is held back by the check of the text alone. -/
theorem checkSetterPrefix_eq (ne : settings.setterPrefix ≠ "")
    (noClash : startsWith settings.constructor settings.setterPrefix = false) :
    settings.checkSetterPrefix = if isSetterPrefix settings.setterPrefix then .ok ()
      else .error (.invalidIdent .setterPrefix settings.setterPrefix) := by
  rw [checkSetterPrefix, if_neg (by simpa using ne), noClash]
  cases isSetterPrefix settings.setterPrefix with
  | true => rfl
  | false => rfl

/-- **A text that makes names is accepted unless it is of one of three sorts.** Let all other
settings be valid, and let the text in front of the names of setters make a word with every name,
which is none of the four without a raw form. Let the text for the constructor not start with it.
The settings are accepted if and only if the text has no other characters than underscores and
alphanumeric ones, is itself none of the four words, and is not `bo`. -/
theorem exists_resolve_iff (valid : settings.OthersAreValid)
    (ne : settings.setterPrefix ≠ "") (names : NamesSetters settings.setterPrefix)
    (noClash : startsWith settings.constructor settings.setterPrefix = false) :
    (∃ resolved, settings.resolve = .ok resolved) ↔
      (∀ c ∈ settings.setterPrefix.toList, c = '_' ∨ isAlphanumeric c = true) ∧
        settings.setterPrefix ∉ neverRaw ∧ settings.setterPrefix ≠ "bo" := by
  obtain ⟨resolved, h⟩ := valid.exists_resolve_eq
  rw [← isSetterPrefix_iff names ne, h, checkSetterPrefix_eq ne noClash]
  cases isSetterPrefix settings.setterPrefix with
  | true => exact ⟨fun _ => rfl, fun _ => ⟨resolved, rfl⟩⟩
  | false => exact ⟨fun ⟨_, h⟩ => (nomatch h), fun h => (nomatch h)⟩

end Acceptance

/-- The standard settings with another text in front of the names of setters. -/
def withSetterPrefix (start : String) : Settings := { standard with setterPrefix := start }

theorem othersAreValid_withSetterPrefix (start : String) :
    (withSetterPrefix start).OthersAreValid := by
  have accepted := resolve_eq_ok_iff.mp resolve_standard
  exact ⟨accepted.keyMarker_ne, fun _ h => (nomatch h),
    Option.isSome_of_eq_some accepted.constructor_eq, Option.isSome_of_eq_some accepted.runtime_eq⟩

/-- With `i` in front the setter of a field `f` has a keyword for a name. Still `i` is accepted. -/
theorem exists_resolve_iff_keyword : (withSetterPrefix "i").OthersAreValid ∧ "i" ≠ "" ∧
    NamesSetters "i" ∧ startsWith "new" "i" = false ∧
      ∃ resolved, (withSetterPrefix "i").resolve = .ok resolved := by
  have valid := othersAreValid_withSetterPrefix "i"
  have ne : "i" ≠ "" := by decide
  have names : NamesSetters "i" := namesSetters_of_isWord (by decide) (by decide)
  have noClash : startsWith "new" "i" = false := by decide
  have plain : ∀ c ∈ "i".toList, c = '_' ∨ isAlphanumeric c = true :=
    List.forall_mem_singleton.mpr (.inr (by decide))
  exact ⟨valid, ne, names, noClash,
    (exists_resolve_iff valid ne names noClash).mpr ⟨plain, by decide, by decide⟩⟩

/-- Settings are refused for the text in front of the names of setters, although it makes names and
everything else is as it should be. -/
def IsRefusedWithoutCause (settings : Settings) : Prop :=
  settings.OthersAreValid ∧ settings.setterPrefix ≠ "" ∧ NamesSetters settings.setterPrefix ∧
    startsWith settings.constructor settings.setterPrefix = false ∧
    settings.resolve = .error (.invalidIdent .setterPrefix settings.setterPrefix)

theorem isRefusedWithoutCause_withSetterPrefix (h : Word.isWord start.toList = true)
    (starts : ∀ word ∈ neverRaw, startsWith word start = true → word = start)
    (noClash : startsWith "new" start = false)
    (refused : isSetterPrefix start = false) : (withSetterPrefix start).IsRefusedWithoutCause := by
  have valid := othersAreValid_withSetterPrefix start
  have ne : start ≠ "" := by
    rintro rfl
    exact nomatch h
  refine ⟨valid, ne, namesSetters_of_isWord h starts, noClash, ?_⟩
  obtain ⟨resolved, hr⟩ := valid.exists_resolve_eq
  rw [hr, checkSetterPrefix_eq ne noClash,
    if_neg (Bool.eq_false_iff.mp refused : ¬isSetterPrefix (withSetterPrefix start).setterPrefix)]
  rfl

/-- The text `bo` is refused since it makes a keyword with the name of the check, the word `self`
since it starts with itself, and a letter with a middle dot since the dot is not alphanumeric. -/
theorem refused_without_cause : (withSetterPrefix "bo").IsRefusedWithoutCause ∧
    (withSetterPrefix "self").IsRefusedWithoutCause ∧
    (withSetterPrefix "a\u00b7").IsRefusedWithoutCause := by
  refine ⟨?_, ?_, ?_⟩
  all_goals
    exact isRefusedWithoutCause_withSetterPrefix (by decide) (by decide) (by decide) (by decide)

end Settings

end KeyedCoding
