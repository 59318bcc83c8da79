import KeyedCoding.Proofs.Token.Words

/-!
# Words as identifiers

A word reads as an identifier unless it is reserved. With a name that is reserved an identifier is
raw, and no other is. The keywords are the reserved words and one more.

## Main definitions

* `Word.keywords`: the keywords of the language in which code is generated.

## Main results

* `Word.isKeyword_iff`: the keyword `gen` reads as an identifier, and no other keyword does.
* `Ident.isSome_ofText?_of_isWord`: a word reads as an identifier unless it is reserved.
* `Ident.isWord_of_isSome_ofText?`: a text without marks reads as an identifier only if it is a
  word.
* `Ident.exists_ofName?`: the identifier with a name.
-/

namespace KeyedCoding

open Text

namespace Word

/-- The keywords of the language in which code is generated: those that are in use, and those that
are kept for later. An identifier that is named by one of them has to be raw there. -/
def keywords : List String :=
  ["_", "as", "async", "await", "break", "const", "continue", "crate", "dyn", "else", "enum",
   "extern", "false", "fn", "for", "if", "impl", "in", "let", "loop", "match", "mod", "move", "mut",
   "pub", "ref", "return", "self", "Self", "static", "struct", "super", "trait", "true", "type",
   "unsafe", "use", "where", "while"] ++
  ["abstract", "become", "box", "do", "final", "gen", "macro", "override", "priv", "try", "typeof",
   "unsized", "virtual", "yield"]

/-- Whether a word is a keyword. -/
def isKeyword (text : String) : Bool := keywords.contains text

/-- All keywords but one are not read as identifiers. -/
theorem isKeyword_iff {text : String} :
    isKeyword text = true ↔ isReserved text = true ∨ text = "gen" := by
  have kept : ∀ word ∈ keywords, word ∈ reserved ∨ word = "gen" := by decide
  have known : ∀ word ∈ reserved, word ∈ keywords := by decide
  rw [isKeyword, isReserved, List.contains_iff_mem, List.contains_iff_mem]
  constructor
  · exact kept text
  · rintro (read | rfl)
    · exact known text read
    · decide

theorem isReserved_iff_isKeyword_iff {text : String} :
    (isReserved text = true ↔ isKeyword text = true) ↔ text ≠ "gen" := by
  rw [isKeyword_iff]
  constructor
  · rintro same rfl
    exact absurd (same.mpr (Or.inr rfl)) (by decide)
  · exact fun other => ⟨Or.inl, fun keyword => keyword.resolve_right other⟩

end Word

namespace Ident

variable {text : String}

/-- The name of an identifier is a word. -/
theorem isWord_name (ident : Ident) : Word.isWord ident.name.toList = true :=
  (Bool.and_eq_true _ _ ▸ ident.valid).1

theorem name_ne (ident : Ident) : ident.name ≠ "" := by
  intro he
  have h := ident.isWord_name
  rw [he] at h
  exact nomatch h

/-- The name of a raw identifier may be raw. -/
theorem name_notMem_unrawable (ident : Ident) (raw : ident.raw = true) :
    ident.name ∉ Lexeme.unrawable := by
  have valid := (Bool.and_eq_true _ _ ▸ ident.valid).2
  rw [if_pos raw] at valid
  simpa using valid

/-- The text of an identifier reads as an identifier: no reserved word has the mark of raw ones. -/
theorem isIdent_text (ident : Ident) : Word.isIdent ident.text = true := by
  obtain ⟨raw, name, valid⟩ := ident
  cases raw with
  | true =>
    have noMark : ∀ word ∈ Word.reserved, '#' ∉ word.toList := by decide
    have mark : '#' ∈ ("r#" ++ name).toList := by
      rw [String.toList_append]
      exact List.mem_append_left _ (by decide)
    have free : ¬Word.reserved.contains ("r#" ++ name) = true := fun reserved =>
      noMark _ (List.contains_iff_mem.mp reserved) mark
    rw [text, Word.isIdent, Word.isReserved]
    simpa using free
  | false =>
    rw [Bool.and_eq_true] at valid
    exact valid.2

theorem isSome_ofParts? {raw : Bool} : (ofParts? raw text).isSome = (Word.isWord text.toList &&
    if raw then !Lexeme.unrawable.contains text else !Word.isReserved text) := by
  rw [ofParts?]
  by_cases valid : (Word.isWord text.toList &&
    if raw then !Lexeme.unrawable.contains text else !Word.isReserved text) = true
  · rw [dif_pos valid]
    exact valid.symm
  · rw [dif_neg valid]
    exact (Bool.eq_false_iff.mpr valid).symm

/-- There is an identifier with a name in a spelling if it would be valid. -/
theorem exists_ofParts? {raw : Bool} (valid : (Word.isWord text.toList &&
      if raw then !Lexeme.unrawable.contains text else !Word.isReserved text) = true) :
    ∃ ident, ofParts? raw text = some ident ∧ ident.name = text ∧ ident.raw = raw :=
  ⟨⟨raw, text, valid⟩, dif_pos valid, rfl, rfl⟩

/-- A word reads as the plain identifier with this name. -/
theorem ofText?_of_isWord (h : Word.isWord text.toList = true) :
    ofText? text = ofParts? false text := by
  rw [ofText?, TokenStream.ofText?_of_isWord h]
  show ofWord? text = _
  unfold ofWord?
  split
  · next name he =>
    have hm : '#' ∈ text.toList := by simp [he]
    exact absurd (Word.isMark_of_mem h hm) (by decide)
  · rfl

/-- A word reads as an identifier unless it is reserved. -/
theorem isSome_ofText?_of_isWord (h : Word.isWord text.toList = true) :
    (ofText? text).isSome = !Word.isReserved text := by
  rw [ofText?_of_isWord h, isSome_ofParts?, h]
  rfl

/-- A text without marks reads as an identifier only if it is a word. -/
theorem isWord_of_isSome_ofText? (marks : ∀ c ∈ text.toList, isMark c = false)
    (h : (ofText? text).isSome = true) : Word.isWord text.toList = true := by
  unfold ofText? at h
  split at h
  · next word hw => exact TokenStream.isWord_of_ofText? marks hw
  · exact nomatch h

/-- A word that may be written raw is the name of an identifier, which is raw if and only if the
word is reserved. -/
theorem exists_ofName? (h : Word.isWord text.toList = true) (hr : text ∉ Lexeme.unrawable) :
    ∃ ident, ofName? text = some ident ∧ ident.name = text ∧
      ident.raw = Word.isReserved text := by
  have spelling : (ofText? text).isNone = Word.isReserved text := by
    rw [← Option.not_isSome, isSome_ofText?_of_isWord h, Bool.not_not]
  rw [ofName?, spelling]
  refine exists_ofParts? ?_
  cases Word.isReserved text <;> simp [h, hr]

end Ident

end KeyedCoding
