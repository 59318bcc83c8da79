import KeyedCoding.Proofs.Generated.Methods

/-!
# The names of the methods

The setters of a class have different names if its fields have. A setter can still have the name of
the constructor, although settings are refused if the text given for the constructor starts with
the prefix of setters: such a text may have blanks, comments or `r#` in front of the name.

## Main results

* `nodup_methods_iff`: when no two methods have the same name.
* `clashing_methods`: accepted settings with which two methods have the same name.
-/

namespace KeyedCoding

open TokenStream

/-- The fields with a setter are those with a default. -/
theorem Initializer.defaulted_ofFields (context : Context) (fields : List Field) :
    (ofFields context fields).defaulted =
      (fields.filter (!·.paramDefault.isRequired)).map fun field =>
        ⟨field.ident, field.ty, field.paramDefault⟩ := by
  rw [defaulted, ofFields, List.filter_map]
  rfl

private theorem Initializer.map_name_setters {initializer : Initializer} {params : List Param}
    {setters : List Method} {start : String}
    (named : List.Forall₂ (fun param method => initializer.setterMethod? param = some method ∧
      method.name = start ++ param.ident.name) params setters) :
    setters.map Method.name = params.map fun param => start ++ param.ident.name := by
  induction named with
  | nil => rfl
  | cons head _ ih => rw [List.map_cons, List.map_cons, head.2, ih]

/-- Names that differ still differ after the same text. -/
private theorem nodup_map_append {fields : List Field} (start : String)
    (distinct : (fields.map Field.name).Nodup) :
    (fields.map fun field => start ++ field.name).Nodup := by
  have injective : Function.Injective (start ++ ·) := by
    intro a b h
    exact (String.append_right_inj start).mp h
  have h := distinct.map injective
  rwa [List.map_map] at h

/-- **The methods of a class have different names, unless a setter is named as the constructor.**
Let settings be accepted, and let the fields of a class have different names. The methods are the
constructor and a setter for each field with a default. Two of them have the same name if and only
if the prefix and the name of such a field make the name of the constructor. They do not if the
text that is given for the constructor starts with its name. -/
theorem nodup_methods_iff {settings : Settings} {resolved : ResolvedSettings}
    (accepted : settings.resolve = .ok resolved) {declaration : Declaration}
    (isClass : declaration.kind = .classType) (mode : Mode)
    (distinct : ((Generator.fields resolved declaration).map Field.name).Nodup) :
    ∃ artifact methods, Generator.generate resolved declaration mode = .ok artifact ∧
      artifact.initializer.methods? = some methods ∧
      artifact.initializer.tokens? = some (word "impl" ++ artifact.target.tokens ++
        [braces (methods.flatMap Method.tokens)]) ∧
      methods.map Method.name = resolved.constructor.name ::
        ((Generator.fields resolved declaration).filter (!·.paramDefault.isRequired)).map
          (settings.setterPrefix ++ ·.name) ∧
      ((methods.map Method.name).Nodup ↔
        ∀ field ∈ Generator.fields resolved declaration, field.paramDefault.isRequired = false →
          settings.setterPrefix ++ field.name ≠ resolved.constructor.name) ∧
      (Settings.startsWith settings.constructor resolved.constructor.name = true →
        (methods.map Method.name).Nodup) := by
  have resolves := Settings.resolve_eq_ok_iff.mp accepted
  set fields := Generator.fields resolved declaration
  obtain ⟨setters, hm, named⟩ := Generator.exists_methods? resolves declaration
  have names : ((Generator.initializer resolved declaration).constructorMethod :: setters).map
      Method.name = resolved.constructor.name ::
        (fields.filter (!·.paramDefault.isRequired)).map (settings.setterPrefix ++ ·.name) := by
    rw [List.map_cons, Initializer.map_name_setters named, Generator.initializer,
      Initializer.defaulted_ofFields, List.map_map]
    rfl
  have clash : (((Generator.initializer resolved declaration).constructorMethod :: setters).map
      Method.name).Nodup ↔ ∀ field ∈ fields, field.paramDefault.isRequired = false →
        settings.setterPrefix ++ field.name ≠ resolved.constructor.name := by
    have hn := nodup_map_append settings.setterPrefix
      (distinct.sublist ((List.filter_sublist (p := (!·.paramDefault.isRequired))).map Field.name))
    rw [names, List.nodup_cons, and_iff_left hn]
    simp [and_imp]
  refine ⟨_, _, Generator.generate_of_isClass isClass resolved mode, hm,
    Initializer.tokens?_of_methods? hm, names, clash, ?_⟩
  intro hstart
  refine clash.mpr fun field _ _ he => ?_
  -- A text that starts with the name starts with the prefix, and would have been refused.
  have hp : Settings.startsWith settings.constructor settings.setterPrefix = true := by
    rw [Settings.startsWith, List.isPrefixOf_iff_prefix] at hstart ⊢
    refine List.IsPrefix.trans ?_ hstart
    rw [← he, String.toList_append]
    exact List.prefix_append _ _
  rw [resolves.noClash] at hp
  exact Bool.false_ne_true hp

theorem nodup_methods_iff_person :
    Settings.standard.resolve = .ok .standard ∧
      ∃ artifact methods, Generator.generate .standard .person .both = .ok artifact ∧
        artifact.initializer.methods? = some methods ∧
        methods.map Method.name = ["new", "with_note", "with_rank", "with_type"] ∧
        (methods.map Method.name).Nodup := by
  have isClass : Declaration.person.kind = .classType := rfl
  obtain ⟨artifact, methods, hg, hm, -, names, -, padded⟩ :=
    nodup_methods_iff Settings.resolve_standard isClass .both (by decide)
  exact ⟨Settings.resolve_standard, artifact, methods, hg, hm, names, padded (by decide)⟩

/-- A class with the optional field `note` only. -/
def Declaration.note : Declaration :=
  { person with members := person.members.filter (·.ident.name == "note") }

/-- With a blank in front of it, a name for the constructor is accepted that the setter of `note`
has as well. -/
theorem clashing_methods : ∃ resolved artifact methods,
    ({ Settings.standard with constructor := " with_note" } : Settings).resolve = .ok resolved ∧
      Declaration.note.kind = .classType ∧
      ((Generator.fields resolved .note).map Field.name).Nodup ∧
      Generator.generate resolved .note .both = .ok artifact ∧
      artifact.initializer.methods? = some methods ∧
      methods.map Method.name = ["with_note", "with_note"] ∧
      ¬(methods.map Method.name).Nodup := by
  refine ⟨{ ResolvedSettings.standard with constructor := ⟨false, "with_note", by decide⟩ }, _, _,
    rfl, rfl, by decide, rfl, rfl, rfl, ?_⟩
  exact (by decide : ¬["with_note", "with_note"].Nodup)

end KeyedCoding
