import KeyedCoding.Declaration.OptionType
import KeyedCoding.Proofs.Grammar.Paths

/-!
# Which types are optional

A type is optional if it spells the standard wrapper of optional values: by its name alone, or by
its full path below one of the two standard libraries, with a single type as the argument of its
last segment and no other arguments. Every such type is recognised, whatever parentheses and groups
stand around it, and what is given is the wrapped type as it is written.

Not every type that is recognised is such a type. Two parts of a path are not looked at: a leading
`::` in front of the name alone, and arguments of a segment before the last one.

## Main definitions

* `Ty.IsOptionOf`: a type that wraps another one.
* `Ty.hasStrayPart`: whether the path of a type has a part that is not looked at.

## Main results

* `Ty.optionInner_path_eq_some_iff`: which paths are recognised.
* `Ty.sizeOf_lt_of_optionInner`: a wrapped type is smaller than its wrapper.
* `Ty.isOptionOf_iff`: the types that wrap another one are those that are recognised and have no
  stray part.
* `Ty.optionInner_stray`: types with a stray part that are recognised.
-/

namespace KeyedCoding

theorem isOptionPath_iff {names : List String} : isOptionPath names = true ↔
    names = ["Option"] ∨
      ∃ root, (root = "std" ∨ root = "core") ∧ names = [root, "option", "Option"] := by
  constructor
  · intro h
    unfold isOptionPath at h
    split at h
    · exact .inl rfl
    · next root =>
      rw [Bool.or_eq_true, beq_iff_eq, beq_iff_eq] at h
      exact .inr ⟨root, h, rfl⟩
    · exact nomatch h
  · rintro (rfl | ⟨root, rfl | rfl, rfl⟩) <;> rfl

theorem Segment.onlyType?_eq_some_iff {segment : Segment} {inner : Ty} :
    segment.onlyType? = some inner ↔ segment.args = [.type inner] := by
  unfold onlyType?
  split
  · simp [args]
  · next other =>
    refine iff_of_false (fun h => nomatch h) fun h => ?_
    cases segment with
    | plain name => exact nomatch h
    | applied name turbofish args trailing =>
      obtain rfl : args = [.type inner] := h
      exact other name turbofish inner trailing rfl

namespace Ty

/-- A type that wraps another one, in any number of parentheses and invisible groups: the name of
the wrapper alone, or its full path below one of the standard libraries. The last segment has the
wrapped type as its only argument, and no other segment has any. -/
inductive IsOptionOf : Ty → Ty → Prop where
  | group {ty inner : Ty} (wraps : IsOptionOf ty inner) : IsOptionOf (.group ty) inner
  | paren {ty inner : Ty} (wraps : IsOptionOf ty inner) : IsOptionOf (.paren ty) inner
  | short {last : Segment} {inner : Ty} (name : last.name = "Option")
    (arg : last.args = [.type inner]) : IsOptionOf (.path false [last]) inner
  | full (leading : Bool) {root parent last : Segment} {inner : Ty}
    (library : root.name = "std" ∨ root.name = "core") (rootArgs : root.args = [])
    (module : parent.name = "option") (parentArgs : parent.args = [])
    (name : last.name = "Option") (arg : last.args = [.type inner]) :
    IsOptionOf (.path leading [root, parent, last]) inner

/-- Whether the path of a type, in any number of parentheses and invisible groups, has a part that
no path of the wrapper has: a leading `::` in front of a single segment, or arguments before the
last one. -/
def hasStrayPart : Ty → Bool
  | group inner => inner.hasStrayPart
  | paren inner => inner.hasStrayPart
  | path leading segments =>
    leading && segments.length == 1 || segments.dropLast.any (!·.args.isEmpty)
  | _ => false

section Recognised

variable {ty inner : Ty} {leading : Bool} {segments : List Segment}

/-- A path is recognised by the names of its segments and the arguments of the last one. -/
theorem optionInner_path_eq_some_iff : (path leading segments).optionInner = some inner ↔
    isOptionPath (segments.map Segment.name) = true ∧
      ∃ last, segments.getLast? = some last ∧ last.args = [.type inner] := by
  rw [optionInner]
  split
  · next names => simp [names, Option.bind_eq_some_iff, Segment.onlyType?_eq_some_iff]
  · next names => simp [names]

/-- A wrapped type is smaller than its wrapper. -/
theorem sizeOf_lt_of_optionInner (h : ty.optionInner = some inner) : sizeOf inner < sizeOf ty := by
  fun_induction optionInner ty with
  | case1 ty ih =>
    have := ih h
    rw [group.sizeOf_spec]
    omega
  | case2 ty ih =>
    have := ih h
    rw [paren.sizeOf_spec]
    omega
  | case3 leading segments names =>
    obtain ⟨last, hlast, hargs⟩ := Option.bind_eq_some_iff.mp h
    rw [Segment.onlyType?_eq_some_iff] at hargs
    have inPath := List.sizeOf_lt_of_mem (List.mem_of_getLast? hlast)
    cases last with
    | plain name => exact nomatch hargs
    | applied name turbofish args trailing =>
      obtain rfl : args = [.type inner] := hargs
      simp only [Segment.applied.sizeOf_spec, List.cons.sizeOf_spec,
        GenericArg.type.sizeOf_spec] at inPath
      rw [path.sizeOf_spec]
      omega
  | case4 => exact nomatch h
  | case5 => exact nomatch h

/-- No type wraps itself. -/
theorem optionInner_ne_self (ty : Ty) : ty.optionInner ≠ some ty :=
  fun h => Nat.lt_irrefl _ (sizeOf_lt_of_optionInner h)

/-- A type that wraps another one is recognised, with this one as it is written. -/
theorem IsOptionOf.optionInner_eq (wraps : ty.IsOptionOf inner) :
    ty.optionInner = some inner := by
  induction wraps with
  | group _ ih => rwa [optionInner]
  | paren _ ih => rwa [optionInner]
  | short name arg =>
    exact optionInner_path_eq_some_iff.mpr ⟨by rw [List.map_singleton, name]; rfl, _, rfl, arg⟩
  | full leading library _ module _ name arg =>
    have names := isOptionPath_iff.mpr (.inr ⟨_, library, rfl⟩)
    refine optionInner_path_eq_some_iff.mpr ⟨?_, _, rfl, arg⟩
    rwa [List.map_cons, List.map_cons, List.map_singleton, module, name]

theorem IsOptionOf.hasStrayPart_eq (wraps : ty.IsOptionOf inner) : ty.hasStrayPart = false := by
  induction wraps with
  | group _ ih => rwa [hasStrayPart]
  | paren _ ih => rwa [hasStrayPart]
  | short => rfl
  | full leading _ rootArgs _ parentArgs => simp [hasStrayPart, rootArgs, parentArgs]

/-- A path that is recognised wraps another type unless it has a stray part. -/
theorem isOptionOf_path (h : (path leading segments).optionInner = some inner)
    (regular : (path leading segments).hasStrayPart = false) :
    (path leading segments).IsOptionOf inner := by
  obtain ⟨names, last, hlast, arg⟩ := optionInner_path_eq_some_iff.mp h
  simp only [hasStrayPart, Bool.or_eq_false_iff, Bool.and_eq_false_imp, List.any_eq_false,
    Bool.not_eq_true', Bool.not_eq_false, List.isEmpty_iff] at regular
  obtain ⟨noColons, noArgs⟩ := regular
  rcases isOptionPath_iff.mp names with names | ⟨root, library, names⟩
  · obtain ⟨segment, rfl, name⟩ := List.map_eq_singleton_iff.mp names
    cases hlast
    cases leading with
    | true => exact absurd (noColons rfl) (by simp)
    | false => exact .short name arg
  · obtain ⟨first, below, rfl, rfl, hbelow⟩ := List.map_eq_cons_iff.mp names
    obtain ⟨parent, end', rfl, module, hend⟩ := List.map_eq_cons_iff.mp hbelow
    obtain ⟨segment, rfl, name⟩ := List.map_eq_singleton_iff.mp hend
    cases hlast
    exact .full leading library (noArgs first (by simp)) module (noArgs parent (by simp)) name arg

end Recognised

/-- **The types that wrap another one are recognised, and no others without a stray part.** A type
wraps another one if and only if it is recognised, with this one as the wrapped type, and its path
has neither a leading `::` in front of the name of the wrapper alone nor arguments before the last
segment. -/
theorem isOptionOf_iff (ty inner : Ty) :
    ty.IsOptionOf inner ↔ ty.optionInner = some inner ∧ ty.hasStrayPart = false := by
  refine ⟨fun wraps => ⟨wraps.optionInner_eq, wraps.hasStrayPart_eq⟩, ?_⟩
  rintro ⟨h, regular⟩
  fun_induction optionInner ty with
  | case1 ty ih => exact .group (ih h regular)
  | case2 ty ih => exact .paren (ih h regular)
  | case3 leading segments names =>
    exact isOptionOf_path (by rwa [optionInner, if_pos names]) regular
  | case4 => exact nomatch h
  | case5 => exact nomatch h

/-- A source text is read as a type with a stray part that is recognised although it wraps no other
type. -/
private theorem exists_stray {source : String}
    (h : (Ty.ofText? source).any (fun ty => ty.hasStrayPart && ty.optionInner.isSome) = true) :
    ∃ ty inner, Ty.ofText? source = some ty ∧ ty.optionInner = some inner ∧
      ¬ty.IsOptionOf inner := by
  obtain ⟨ty, hty, h⟩ := (Option.any_eq_true _ _).mp h
  rw [Bool.and_eq_true] at h
  obtain ⟨inner, hinner⟩ := Option.isSome_iff_exists.mp h.2
  refine ⟨ty, inner, hty, hinner, fun wraps => ?_⟩
  rw [wraps.hasStrayPart_eq] at h
  exact nomatch h.1

/-- The wrapper is recognised with a leading `::` in front of its name alone, and with an argument
of the library in its full path. -/
theorem optionInner_stray :
    (∃ ty inner, Ty.ofText? "::Option<u8>" = some ty ∧ ty.optionInner = some inner ∧
      ¬ty.IsOptionOf inner) ∧
    ∃ ty inner, Ty.ofText? "std<u8>::option::Option<u8>" = some ty ∧
      ty.optionInner = some inner ∧ ¬ty.IsOptionOf inner :=
  ⟨exists_stray (by decide +kernel), exists_stray (by decide +kernel)⟩

end Ty

end KeyedCoding
