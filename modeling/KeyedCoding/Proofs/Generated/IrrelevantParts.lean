import KeyedCoding.Proofs.Generated.Fields
import Mathlib.Logic.Relation

/-!
# Parts of a declaration that leave no trace

Two sorts of parts of a declaration have no influence on the code for it. Members that are no fields
may come and go. In the markers of a member only the first one counts that is usable for a key: it
has the name of key markers and exactly one argument. Markers that are not usable may come and go at
any place, and after a usable one the markers may be any.

One edit changes a single place. Edits that follow one another, in either direction, are in the
equivalence closure `Relation.EqvGen (MemberEdit keyMarker)`.

## Main definitions

* `Marker.IsUsable`: whether a marker may give a key.
* `MarkerEdit`, `MemberEdit`: an edit of markers, and of members, that leaves no trace.

## Main results

* `Field.keyOfMarkers_of_markerEdit`, `Field.extract_of_memberEdit`: what one edit preserves.
* `Field.extract_of_edits`: what all edits preserve.
* `Generator.run_of_edits`: a run is the same after such edits, with all that is observed of it.
* `generate_irrelevant_edits`: the code is the same after such edits.
-/

namespace KeyedCoding

/-- Whether a marker may give a key: it has the name of key markers and exactly one argument. -/
def Marker.IsUsable (keyMarker : String) (marker : Marker) : Prop :=
  marker.name = keyMarker ∧ marker.args.length = 1

instance (keyMarker : String) (marker : Marker) : Decidable (marker.IsUsable keyMarker) :=
  inferInstanceAs (Decidable (_ ∧ _))

/-- An edit of the markers of a member at one place that leaves no trace. -/
inductive MarkerEdit (keyMarker : String) : List Marker → List Marker → Prop where
  /-- A marker that is not usable is inserted. -/
  | insert (before after : List Marker) {marker : Marker}
    (unusable : ¬ marker.IsUsable keyMarker) :
    MarkerEdit keyMarker (before ++ after) (before ++ marker :: after)
  /-- All markers after a usable one are replaced. -/
  | replaceRest (before after other : List Marker) {marker : Marker}
    (usable : marker.IsUsable keyMarker) :
    MarkerEdit keyMarker (before ++ marker :: after) (before ++ marker :: other)

/-- An edit of the members of a class at one place that leaves no trace. -/
inductive MemberEdit (keyMarker : String) : List Member → List Member → Prop where
  /-- A member that is no field is inserted. -/
  | insert (before after : List Member) {member : Member} (other : member.isField = false) :
    MemberEdit keyMarker (before ++ after) (before ++ member :: after)
  /-- The markers of a member are edited. -/
  | editMarkers (before after : List Member) {member : Member} {markers : List Marker}
    (edit : MarkerEdit keyMarker member.markers markers) :
    MemberEdit keyMarker (before ++ member :: after)
      (before ++ { member with markers := markers } :: after)

namespace Field

/-! ### The key that markers give -/

variable {keyMarker : String}

theorem keyOfMarkers_append (keyMarker : String) (before after : List Marker) :
    keyOfMarkers keyMarker (before ++ after) =
      (keyOfMarkers keyMarker before).or (keyOfMarkers keyMarker after) := by
  rw [keyOfMarkers, List.filter_append, List.findSome?_append]
  rfl

/-- A marker that is not usable is passed over. -/
theorem keyOfMarkers_cons_of_unusable {marker : Marker} (unusable : ¬ marker.IsUsable keyMarker)
    (rest : List Marker) :
    keyOfMarkers keyMarker (marker :: rest) = keyOfMarkers keyMarker rest := by
  rw [keyOfMarkers, List.filter_cons]
  split
  · next hname =>
    -- a marker with the right name has no argument or more than one
    have hargs : marker.singleArgText = none := by
      rw [Marker.singleArgText]
      split
      · next arg hargs =>
        exact absurd ⟨eq_of_beq hname, by rw [hargs, List.length_singleton]⟩ unusable
      · rfl
    rw [List.findSome?_cons, hargs]
    rfl
  · rfl

theorem keyOfMarkers_append_of_unusable {before : List Marker}
    (unusable : ∀ marker ∈ before, ¬ marker.IsUsable keyMarker) (after : List Marker) :
    keyOfMarkers keyMarker (before ++ after) = keyOfMarkers keyMarker after := by
  induction before with
  | nil => rfl
  | cons marker before ih =>
    rw [List.forall_mem_cons] at unusable
    rw [List.cons_append, keyOfMarkers_cons_of_unusable unusable.1, ih unusable.2]

/-- A usable marker gives the key, whatever comes after it. -/
theorem exists_keyOfMarkers_cons_of_usable {marker : Marker}
    (usable : marker.IsUsable keyMarker) :
    ∃ key, ∀ rest, keyOfMarkers keyMarker (marker :: rest) = some key := by
  obtain ⟨arg, hargs⟩ := List.length_eq_one_iff.mp usable.2
  refine ⟨arg.text, fun rest => ?_⟩
  rw [keyOfMarkers, List.filter_cons, if_pos (beq_iff_eq.mpr usable.1), List.findSome?_cons,
    Marker.singleArgText, hargs]

/-- An edit of markers keeps the key that they give. -/
theorem keyOfMarkers_of_markerEdit {markers edited : List Marker}
    (edit : MarkerEdit keyMarker markers edited) :
    keyOfMarkers keyMarker edited = keyOfMarkers keyMarker markers := by
  cases edit with
  | insert before after unusable =>
    rw [keyOfMarkers_append, keyOfMarkers_append, keyOfMarkers_cons_of_unusable unusable]
  | replaceRest before after other usable =>
    obtain ⟨key, hkey⟩ := exists_keyOfMarkers_cons_of_usable usable
    rw [keyOfMarkers_append, keyOfMarkers_append, hkey, hkey]

/-! ### The fields among members -/

theorem extract_append (keyMarker : String) (before after : List Member) :
    extract keyMarker (before ++ after) = extract keyMarker before ++ extract keyMarker after :=
  List.filterMap_append

/-- A member that is no field is passed over. -/
theorem extract_cons_of_other {member : Member} (other : member.isField = false)
    (rest : List Member) : extract keyMarker (member :: rest) = extract keyMarker rest := by
  have isSome : (ofMember? keyMarker member).isSome = false := isSome_ofMember?.trans other
  rw [Option.isSome_eq_false_iff, Option.isNone_iff_eq_none] at isSome
  exact List.filterMap_cons_none isSome

/-- The field that a member is depends on its markers by the key that they give. -/
theorem ofMember?_markers {member : Member} {markers : List Marker}
    (sameKey : keyOfMarkers keyMarker markers = keyOfMarkers keyMarker member.markers) :
    ofMember? keyMarker { member with markers := markers } = ofMember? keyMarker member := by
  simp only [ofMember?, sameKey]

/-- An edit of members keeps the fields among them. -/
theorem extract_of_memberEdit {members edited : List Member}
    (edit : MemberEdit keyMarker members edited) :
    extract keyMarker edited = extract keyMarker members := by
  cases edit with
  | insert before after other =>
    rw [extract_append, extract_append, extract_cons_of_other other]
  | editMarkers before after edit =>
    rw [extract_append, extract_append]
    simp only [extract, List.filterMap_cons, ofMember?_markers (keyOfMarkers_of_markerEdit edit)]

/-- Edits that follow one another, in either direction, keep the fields among members. -/
theorem extract_of_edits {members edited : List Member}
    (edits : Relation.EqvGen (MemberEdit keyMarker) members edited) :
    extract keyMarker edited = extract keyMarker members := by
  induction edits with
  | rel members edited edit => exact extract_of_memberEdit edit
  | refl members => rfl
  | symm members edited _ ih => exact ih.symm
  | trans members between edited _ _ ih ih' => exact ih'.trans ih

end Field

/-- A run is the same after edits that leave no trace, with all that is observed of it. This holds
for declarations of all kinds. -/
theorem Generator.run_of_edits {σ : Type} (generator : Generator σ) (declaration : Declaration)
    {members : List Member}
    (edits : Relation.EqvGen (MemberEdit generator.settings.keyMarker)
      declaration.members members) :
    generator.run { declaration with members := members } = generator.run declaration := by
  funext mode
  simp only [run, Field.extract_of_edits edits]
  rfl

/-- **Parts of a declaration that are irrelevant leave no trace.** For every class, with any
settings and in any mode, the code is the same after any number of edits: members that are no fields
are inserted or removed, markers that are not usable are inserted or removed, and markers after a
usable one are replaced. -/
theorem generate_irrelevant_edits (settings : ResolvedSettings) {declaration : Declaration}
    (isClass : declaration.kind = .classType) {members : List Member}
    (edits : Relation.EqvGen (MemberEdit settings.keyMarker) declaration.members members)
    (mode : Mode) :
    ∃ artifact, Generator.generate settings declaration mode = .ok artifact ∧
      Generator.generate settings { declaration with members := members } mode = .ok artifact := by
  refine ⟨_, Generator.generate_of_isClass isClass settings mode, ?_⟩
  rw [← Generator.generate_of_isClass isClass settings mode, Generator.generate,
    Generator.run_of_edits ⟨settings, none⟩ declaration edits]
  rfl

/-- A marker with the standard name of key markers and with texts as its arguments. -/
def Marker.ofTexts (texts : List String) : Marker :=
  ⟨"codable_key", texts.map fun text => ⟨false, text, .text text⟩⟩

/-- The members of the class of people, with other markers of the first one. -/
def Declaration.personMembers (edit : List Marker → List Marker) : List Member :=
  Declaration.person.members.modifyHead fun member =>
    { member with markers := edit member.markers }

/-- A method that has the marker of a key. -/
def Member.greeting : Member :=
  ⟨.method, ⟨false, "greet", by decide⟩, none, none, [.ofTexts ["greeting"]]⟩

/-- The code for people is the same with a method in front, and with two more markers of the first
field: one before that of its key, which has two arguments, and one after it, which would be
usable. -/
theorem generate_irrelevant_edits_person :
    Declaration.person.kind = .classType ∧
      ∃ members, members = .greeting :: Declaration.personMembers (fun markers =>
          .ofTexts ["a", "b"] :: markers ++ [.ofTexts ["later"]]) ∧
        Relation.EqvGen (MemberEdit ResolvedSettings.standard.keyMarker)
          Declaration.person.members members ∧
        ∃ artifact, Generator.generate .standard .person .both = .ok artifact ∧
          Generator.generate .standard { Declaration.person with members := members } .both =
            .ok artifact := by
  have isClass : Declaration.person.kind = .classType := rfl
  have unusable : ¬ (Marker.ofTexts ["a", "b"]).IsUsable "codable_key" := by decide
  have rest : MemberEdit "codable_key" Declaration.person.members
      (Declaration.personMembers (· ++ [.ofTexts ["later"]])) :=
    .editMarkers [] _ (.replaceRest [] [] [.ofTexts ["later"]] (by decide))
  have front : MemberEdit "codable_key" (Declaration.personMembers (· ++ [.ofTexts ["later"]]))
      (Declaration.personMembers fun markers =>
        .ofTexts ["a", "b"] :: markers ++ [.ofTexts ["later"]]) :=
    .editMarkers [] _ (.insert [] _ unusable)
  have method (members : List Member) : MemberEdit "codable_key" members (.greeting :: members) :=
    .insert [] members rfl
  have edits := ((Relation.EqvGen.rel _ _ rest).trans _ _ _ (.rel _ _ front)).trans _ _ _
    (.rel _ _ (method _))
  exact ⟨isClass, _, rfl, edits, generate_irrelevant_edits .standard isClass edits .both⟩

end KeyedCoding
