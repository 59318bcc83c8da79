import KeyedCoding.Proofs.Generated.Fields
import KeyedCoding.Proofs.Settings.Accepted

/-!
# The methods of generated code

The code that makes objects adds methods to a class: a constructor, and a setter for each field
with a default. With accepted settings every setter has an identifier.

## Main definitions

* `Method`: a method that gives an object of the class.
* `Initializer.methods?`: the methods of a class.
* `Generator.initializer`: how the objects of a declared class are made.

## Main results

* `Initializer.tokens?_eq`: the code that makes objects is that of the methods, one after the other.
* `Generator.exists_methods?`: with accepted settings there are all methods of every class.
-/

namespace KeyedCoding

open TokenStream

/-- A method that gives an object of the class. -/
structure Method where
  marking : TokenStream
  visibility : Visibility
  ident : Ident
  args : TokenStream
  body : TokenStream

namespace Method

/-- The name of a method, without regard to its spelling. -/
def name (method : Method) : String := method.ident.name

/-- The code of a method. -/
def tokens (method : Method) : TokenStream :=
  attributeTokens method.marking ++ method.visibility.tokens ++ word "fn" ++
    method.ident.tokens ++ [parens method.args] ++ symbol "->" ++ selfType ++ [braces method.body]

end Method

namespace Initializer

/-- The method that makes an object. -/
def constructorMethod (initializer : Initializer) : Method where
  marking := word "allow" ++ [parens (below (word "clippy") "too_many_arguments")]
  visibility := initializer.visibility
  ident := initializer.constructor
  args := commaSeparated (initializer.required.map Param.argTokens)
  body := selfType ++ [braces (withCommas (initializer.params.map Param.valueTokens))]

/-- The setter of a field, with a given identifier. -/
def setterMethod (initializer : Initializer) (setter : Ident) (param : Param) : Method where
  marking := word "must_use"
  visibility := initializer.visibility
  ident := setter
  args := word "mut" ++ word "self" ++ symbol "," ++ param.argTokens
  body := word "self" ++ symbol "." ++ param.ident.tokens ++ symbol "=" ++ param.ident.tokens ++
    symbol ";" ++ word "self"

/-- The setter of a field, if it has an identifier. -/
def setterMethod? (initializer : Initializer) (param : Param) : Option Method :=
  (initializer.setterIdent? param).map fun setter => initializer.setterMethod setter param

/-- The methods of a class, if all setters have an identifier. -/
def methods? (initializer : Initializer) : Option (List Method) :=
  (initializer.defaulted.mapM initializer.setterMethod?).map (initializer.constructorMethod :: ·)

variable {initializer : Initializer}

theorem tokens_constructorMethod :
    initializer.constructorMethod.tokens = initializer.constructorTokens := rfl

theorem tokens_setterMethod {setter : Ident} {param : Param} :
    (initializer.setterMethod setter param).tokens = initializer.setterTokens setter param := by
  simp only [Method.tokens, setterMethod, setterTokens, List.append_assoc]

private theorem mapM_map {β γ δ : Type} (f : β → Option γ) (g : γ → δ) (items : List β) :
    (items.mapM fun item => (f item).map g) = (items.mapM f).map (List.map g) := by
  induction items with
  | nil => rfl
  | cons item items ih =>
    rw [List.mapM_cons, List.mapM_cons, ih]
    cases hf : f item with
    | none => rfl
    | some value => cases items.mapM f <;> rfl

/-- The identifiers of the methods are that of the constructor and those of the setters. -/
theorem map_ident_methods? : initializer.methods?.map (List.map Method.ident) =
    (initializer.defaulted.mapM initializer.setterIdent?).map (initializer.constructor :: ·) := by
  have setter (param : Param) :
      (initializer.setterMethod? param).map Method.ident = initializer.setterIdent? param := by
    rw [setterMethod?, Option.map_map]
    exact congrFun Option.map_id _
  have setters := mapM_map initializer.setterMethod? Method.ident initializer.defaulted
  simp only [setter] at setters
  rw [setters, methods?, Option.map_map, Option.map_map]
  rfl

/-- The code that makes objects is that of the methods, one after the other. -/
theorem tokens?_eq : initializer.tokens? = initializer.methods?.map fun methods =>
    word "impl" ++ initializer.target.tokens ++ [braces (methods.flatMap Method.tokens)] := by
  have hs : (fun param => (initializer.setterIdent? param).map fun setter =>
      initializer.setterTokens setter param) =
      fun param => (initializer.setterMethod? param).map Method.tokens := by
    funext param
    rw [setterMethod?, Option.map_map]
    simp only [Function.comp_def, tokens_setterMethod]
  rw [tokens?, settersTokens?, hs, mapM_map, methods?]
  cases initializer.defaulted.mapM initializer.setterMethod? with
  | none => rfl
  | some setters =>
    simp only [Option.map_some, List.flatMap_cons, tokens_constructorMethod]
    rw [List.flatMap_def]

theorem tokens?_of_methods? {methods : List Method} (h : initializer.methods? = some methods) :
    initializer.tokens? = some (word "impl" ++ initializer.target.tokens ++
      [braces (methods.flatMap Method.tokens)]) := by
  rw [tokens?_eq, h, Option.map_some]

private theorem exists_mapM {β γ : Type} {f : β → Option γ} {r : β → γ → Prop} {items : List β}
    (h : ∀ item ∈ items, ∃ value, f item = some value ∧ r item value) :
    ∃ values, items.mapM f = some values ∧
      List.Forall₂ (fun item value => f item = some value ∧ r item value) items values := by
  induction items with
  | nil => exact ⟨[], rfl, .nil⟩
  | cons item items ih =>
    obtain ⟨value, hf, hr⟩ := h item List.mem_cons_self
    obtain ⟨values, hm, hrs⟩ := ih fun other ho => h other (List.mem_cons_of_mem _ ho)
    exact ⟨value :: values, by rw [List.mapM_cons, hf, hm]; rfl, .cons ⟨hf, hr⟩ hrs⟩

/-- With accepted settings there are all methods: the one that makes an object, and then a setter
for each field with a default, in the order of the fields. -/
theorem exists_methods? {settings : Settings} {resolved : ResolvedSettings}
    (accepted : settings.ResolvesTo resolved)
    (hp : initializer.setterPrefix = resolved.setterPrefix) :
    ∃ setters, initializer.methods? = some (initializer.constructorMethod :: setters) ∧
      List.Forall₂ (fun param method => initializer.setterMethod? param = some method ∧
        method.name = settings.setterPrefix ++ param.ident.name) initializer.defaulted setters := by
  have named : ∀ param ∈ initializer.defaulted, ∃ method,
      initializer.setterMethod? param = some method ∧
        method.name = settings.setterPrefix ++ param.ident.name := by
    intro param _
    obtain ⟨setter, hs, hname, -⟩ := accepted.exists_setterIdent? param.ident
    refine ⟨initializer.setterMethod setter param, ?_, hname⟩
    rw [setterMethod?, setterIdent?, hp, hs, Option.map_some]
  obtain ⟨setters, hm, names⟩ := exists_mapM named
  exact ⟨setters, by rw [methods?, hm, Option.map_some], names⟩

end Initializer

namespace Generator

/-- How the objects of a class are made by the code that a generator gives. -/
def initializer (settings : ResolvedSettings) (declaration : Declaration) : Initializer :=
  .ofFields (context settings declaration) (fields settings declaration)

/-- With accepted settings there are all methods of every class. -/
theorem exists_methods? {settings : Settings} {resolved : ResolvedSettings}
    (accepted : settings.ResolvesTo resolved) (declaration : Declaration) :
    ∃ setters, (initializer resolved declaration).methods? =
        some ((initializer resolved declaration).constructorMethod :: setters) ∧
      List.Forall₂ (fun param method =>
          (initializer resolved declaration).setterMethod? param = some method ∧
            method.name = settings.setterPrefix ++ param.ident.name)
        (initializer resolved declaration).defaulted setters :=
  Initializer.exists_methods? accepted rfl

end Generator

end KeyedCoding
