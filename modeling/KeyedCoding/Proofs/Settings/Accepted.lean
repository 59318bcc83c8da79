import KeyedCoding.Generated.Pieces
import KeyedCoding.Proofs.Grammar.Identifiers
import KeyedCoding.Settings.Document

/-!
# Accepted settings

Settings are accepted if and only if each of them passes its check. What stands in front of the
names of setters is then a word, and none of the words without a raw form starts with it. So it
makes an identifier with any name.

## Main definitions

* `Settings.ResolvesTo`: what is known of settings that are accepted.

## Main results

* `Settings.resolve_eq_ok_iff`: which settings are accepted, and as what.
* `Settings.ofDocument_eq_ok_iff`: the settings of a document are accepted.
* `Settings.ResolvesTo.exists_setterIdent?`: every identifier has a setter.
-/

namespace KeyedCoding

open Text

namespace Settings

variable {settings : Settings} {resolved : ResolvedSettings}

/-- What settings are accepted as, and the checks that they pass. -/
structure ResolvesTo (settings : Settings) (resolved : ResolvedSettings) : Prop where
  keyMarker_ne : settings.keyMarker ≠ ""
  keyMarker_eq : resolved.keyMarker = settings.keyMarker
  keysIdent_eq : settings.keysIdent.map Ident.ofText? = resolved.keysIdent.map some
  constructor_eq : Ident.ofText? settings.constructor = some resolved.constructor
  runtime_eq : Path.ofText? settings.runtimePath = some resolved.runtime
  setterPrefix_ne : settings.setterPrefix ≠ ""
  setterPrefix_eq : resolved.setterPrefix = settings.setterPrefix
  isSetterPrefix : isSetterPrefix settings.setterPrefix = true
  noClash : startsWith settings.constructor settings.setterPrefix = false

private theorem bind_eq_ok_iff {ε β γ : Type} {x : Except ε β} {f : β → Except ε γ} {result : γ} :
    x >>= f = .ok result ↔ ∃ value, x = .ok value ∧ f value = .ok result := by
  cases x <;> simp [bind, Except.bind]

private theorem readIdent_eq_ok_iff {setting : SettingName} {value : String} {ident : Ident} :
    readIdent setting value = .ok ident ↔ Ident.ofText? value = some ident := by
  unfold readIdent
  cases Ident.ofText? value <;> simp

private theorem mapM_readIdent_eq_ok_iff {setting : SettingName} {value : Option String}
    {ident : Option Ident} :
    value.mapM (readIdent setting) = .ok ident ↔ value.map Ident.ofText? = ident.map some := by
  cases value with
  | none => cases ident <;> simp [pure, Except.pure]
  | some value =>
    unfold readIdent
    cases hi : Ident.ofText? value <;> cases ident <;> simp [hi, Functor.map, Except.map]

private theorem checkSetterPrefix_eq_ok_iff :
    settings.checkSetterPrefix = .ok () ↔ settings.setterPrefix ≠ "" ∧
      Settings.isSetterPrefix settings.setterPrefix = true ∧
      startsWith settings.constructor settings.setterPrefix = false := by
  unfold checkSetterPrefix
  split
  · simp_all
  · split
    · simp_all
    · split
      · simp_all
      · simp_all

/-- Settings are accepted if and only if each of them passes its check. -/
theorem resolve_eq_ok_iff : settings.resolve = .ok resolved ↔ settings.ResolvesTo resolved := by
  constructor
  · intro h
    rw [resolve] at h
    split at h
    · exact nomatch h
    · next hk =>
      obtain ⟨keysIdent, hkeys, h⟩ := bind_eq_ok_iff.mp h
      obtain ⟨constructor, hc, h⟩ := bind_eq_ok_iff.mp h
      split at h
      · next runtime hr =>
        obtain ⟨⟨⟩, hp, h⟩ := bind_eq_ok_iff.mp h
        obtain ⟨hne, hprefix, hclash⟩ := checkSetterPrefix_eq_ok_iff.mp hp
        cases h
        exact ⟨by simpa using hk, rfl, mapM_readIdent_eq_ok_iff.mp hkeys,
          readIdent_eq_ok_iff.mp hc, hr, hne, rfl, hprefix, hclash⟩
      · exact nomatch h
  · rintro ⟨hk, hkm, hkeys, hc, hr, hne, hpe, hprefix, hclash⟩
    rw [resolve, mapM_readIdent_eq_ok_iff.mpr hkeys, readIdent_eq_ok_iff.mpr hc, hr,
      checkSetterPrefix_eq_ok_iff.mpr ⟨hne, hprefix, hclash⟩, if_neg (by simpa using hk), ← hkm,
      ← hpe]
    rfl

theorem resolve_standard : standard.resolve = .ok .standard := rfl

/-- A document gives the settings that are read from it if they are accepted. -/
theorem ofDocument_eq_ok_iff {source : String} : ofDocument source = .ok settings ↔
    readDocument source = .ok settings ∧ ∃ resolved, settings.ResolvesTo resolved := by
  constructor
  · intro h
    obtain ⟨read, hread, h⟩ := bind_eq_ok_iff.mp h
    obtain ⟨resolved, hr, h⟩ := bind_eq_ok_iff.mp h
    cases h
    refine ⟨hread, resolved, resolve_eq_ok_iff.mp ?_⟩
    cases hs : settings.resolve with
    | error error => rw [hs] at hr; exact nomatch hr
    | ok other => rw [hs] at hr; cases hr; rfl
  · rintro ⟨hread, resolved, hr⟩
    rw [ofDocument, hread]
    exact bind_eq_ok_iff.mpr ⟨settings, rfl, by rw [resolve_eq_ok_iff.mpr hr]; rfl⟩

/-! ### What stands in front of the names of setters -/

section SetterPrefix

variable {start name : String}

/-- One text starts with another if and only if it is this one with something behind it. -/
theorem startsWith_iff {text : String} :
    startsWith text start = true ↔ ∃ rest, text = start ++ rest := by
  rw [startsWith, List.isPrefixOf_iff_prefix]
  constructor
  · rintro ⟨rest, h⟩
    refine ⟨String.ofList rest, String.toList_inj.mp ?_⟩
    rw [String.toList_append, String.toList_ofList, h]
  · rintro ⟨rest, rfl⟩
    rw [String.toList_append]
    exact List.prefix_append _ _

theorem isWord_of_isSetterPrefix (ne : start ≠ "") (h : isSetterPrefix start = true) :
    Word.isWord start.toList = true := by
  simp only [isSetterPrefix, Bool.and_eq_true, List.all_eq_true, Bool.or_eq_true, beq_iff_eq] at h
  obtain ⟨⟨plain, -⟩, read⟩ := h
  have marks : ∀ c ∈ (start ++ "x").toList, isMark c = false := by
    intro c hc
    rw [String.toList_append, List.mem_append] at hc
    rcases hc with hs | hx
    · rcases plain c hs with rfl | ha
      · decide
      · exact isMark_of_isAlphanumeric ha
    · rw [List.mem_singleton.mp hx]
      decide
  have hx := Ident.isWord_of_isSome_ofText? marks read
  rw [String.toList_append] at hx
  cases hs : start.toList with
  | nil => exact absurd (String.toList_eq_nil_iff.mp hs) ne
  | cons c rest =>
    rw [hs] at hx
    obtain ⟨hc, hr⟩ := Word.isWord_cons.mp hx
    exact Word.isWord_cons.mpr ⟨hc, fun d hd => hr d (List.mem_append_left _ hd)⟩

/-- With any name behind it such a text makes none of the words that cannot be raw. -/
theorem append_notMem_unrawable (ne : start ≠ "") (h : isSetterPrefix start = true)
    (hn : name ≠ "") : start ++ name ∉ Lexeme.unrawable := by
  simp only [isSetterPrefix, Bool.and_eq_true, Bool.not_eq_true', List.any_eq_false] at h
  obtain ⟨⟨-, spells⟩, -⟩ := h
  intro hm
  have unrawable : ∀ word ∈ Lexeme.unrawable, word = "_" ∨ word ∈ neverRaw := by decide
  rcases unrawable _ hm with hu | hw
  · have length : (start ++ name).length = 1 := by rw [hu]; rfl
    rw [String.length_append] at length
    have hs : start.length ≠ 0 := by simpa using ne
    have hl : name.length ≠ 0 := by simpa using hn
    omega
  · exact spells _ hw (startsWith_iff.mpr ⟨name, rfl⟩)

end SetterPrefix

/-- **Every identifier has a setter.** Its name is that of the identifier after the text that
settings give, and it is raw if and only if this name is reserved. -/
theorem ResolvesTo.exists_setterIdent? (accepted : settings.ResolvesTo resolved) (ident : Ident) :
    ∃ setter, ident.setterIdent? resolved.setterPrefix = some setter ∧
      setter.name = settings.setterPrefix ++ ident.name ∧
      setter.raw = Word.isReserved setter.name := by
  have ne := accepted.setterPrefix_ne
  have isWord : Word.isWord (settings.setterPrefix ++ ident.name).toList = true := by
    rw [String.toList_append]
    exact Word.isWord_append (isWord_of_isSetterPrefix ne accepted.isSetterPrefix)
      fun d => Word.isIdentifierContinue_of_mem ident.isWord_name
  have rawable : settings.setterPrefix ++ ident.name ∉ Lexeme.unrawable :=
    append_notMem_unrawable ne accepted.isSetterPrefix ident.name_ne
  obtain ⟨setter, hs, hname, hraw⟩ := Ident.exists_ofName? isWord rawable
  refine ⟨setter, ?_, hname, hname ▸ hraw⟩
  rw [Ident.setterIdent?, accepted.setterPrefix_eq, if_neg (by simpa using ne), hs]

end Settings

end KeyedCoding
