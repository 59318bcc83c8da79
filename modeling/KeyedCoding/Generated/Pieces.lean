import KeyedCoding.Declaration.Field

/-!
# Pieces of generated code

What several parts of generated code have in common: lists, paths and attributes as tokens, and the
names that all parts share.

## Main definitions

* `Context`: the names that all parts of the code for a class share.
* `Ident.keysIdent`: the identifier of the keys of a class.
* `Ident.setterIdent?`: the identifier of the setter of a field.
-/

namespace KeyedCoding

namespace TokenStream

/-- A word as a sequence of tokens. -/
def word (text : String) : TokenStream := [.word text]

/-- Names below the root, each after `::`. -/
def rootPath (names : List String) : TokenStream :=
  names.flatMap fun name => symbol "::" ++ word name

/-- Items with a comma after each. -/
def withCommas (items : List TokenStream) : TokenStream := items.flatMap (· ++ symbol ",")

/-- Items with a comma between two of them. -/
def commaSeparated : List TokenStream → TokenStream
  | [] => []
  | [item] => item
  | item :: rest => item ++ symbol "," ++ commaSeparated rest

/-- An attribute by its content. -/
def attributeTokens (content : TokenStream) : TokenStream := symbol "#" ++ [brackets content]

/-- A word below a path. -/
def below (path : TokenStream) (name : String) : TokenStream := path ++ symbol "::" ++ word name

/-- The type of a class inside its own code. -/
def selfType : TokenStream := word "Self"

/-- The path of the standard result. -/
def resultPath : TokenStream := rootPath ["core", "result", "Result"]

/-- The path of the standard optional value. -/
def optionPath : TokenStream := rootPath ["core", "option", "Option"]

end TokenStream

namespace Ident

/-- The tokens of an identifier. -/
def tokens (ident : Ident) : TokenStream := [ident.token]

/-- What the identifier of the keys of a class ends with. -/
def keysEnding : String := "CodingKeys"

/-- No reserved word is as long as the ending alone. -/
theorem not_isReserved_append_keysEnding (name : String) :
    Word.isReserved (name ++ keysEnding) = false := by
  rw [Bool.eq_false_iff]
  intro reserved
  have short : ∀ word ∈ Word.reserved, word.length < keysEnding.length := by decide
  have fits := short _ (List.contains_iff_mem.1 reserved)
  rw [String.length_append] at fits
  omega

/-- A word with the ending is a word. -/
theorem isWord_append_keysEnding {name : String} (isWord : Word.isWord name.toList = true) :
    Word.isWord (name ++ keysEnding).toList = true := by
  rw [String.toList_append]
  cases h : name.toList with
  | nil => simp [h, Word.isWord] at isWord
  | cons c rest =>
    rw [h] at isWord
    simp only [Word.isWord, Bool.and_eq_true, List.cons_append, List.all_append] at isWord ⊢
    exact ⟨isWord.1, isWord.2, by decide⟩

/-- The identifier of the keys of a class: its name with an ending. -/
def keysIdent (ident : Ident) : Ident where
  raw := false
  name := ident.name ++ keysEnding
  valid := by
    have isWord : Word.isWord ident.name.toList = true := by
      have valid := ident.valid
      rw [Bool.and_eq_true] at valid
      exact valid.1
    rw [isWord_append_keysEnding isWord]
    simp [not_isReserved_append_keysEnding]

/-- The identifier of the setter of a field: its name after a text, raw if it has to be. Without
any text the field gives its own identifier. -/
def setterIdent? (start : String) (ident : Ident) : Option Ident :=
  if start.isEmpty then some ident else ofName? (start ++ ident.name)

end Ident

/-- The names that all parts of the code for a class share. -/
structure Context where
  /-- The class. -/
  target : Ident
  visibility : Visibility
  /-- The enumeration of the keys. -/
  keys : Ident
  runtime : Path
  constructor : Ident
  setterPrefix : String

end KeyedCoding
