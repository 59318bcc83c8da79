import KeyedCoding.Generated.Artifact
import KeyedCoding.Generator.Trace
import KeyedCoding.Settings.Basic

/-!
# The generator

Code is generated for classes only. A run goes through its phases, reports each of them to an
observer if there is one, and gives the code or an error.

## Main definitions

* `GenerationError`: why no code is generated.
* `Generator`: settings, and perhaps an observer.
* `Generator.ofSettings`: the generator with given settings.
* `Generator.run`: a run of a generator.
* `Generator.generate`: the code for a declaration.
-/

namespace KeyedCoding

/-- Why no code is generated. -/
inductive GenerationError where
  /-- The declaration is not one of a class. -/
  | onlyForClasses
  deriving DecidableEq, Repr

namespace GenerationError

/-- How an error is told. -/
def message : GenerationError → String
  | onlyForClasses => "codable generation can only be applied to classes"

end GenerationError

/-- A generator has settings, and perhaps an observer: what an event does to what has been
observed. -/
structure Generator (σ : Type) where
  settings : ResolvedSettings
  observer : Option (TraceEvent → σ → σ)

namespace Generator

variable {σ : Type}

/-- The generator with given settings, which are checked. It has no observer. -/
def ofSettings (settings : Settings) : Except SettingsError (Generator σ) :=
  settings.resolve.map fun resolved => ⟨resolved, none⟩

/-- Report to the observer what happens in a run. -/
def report (generator : Generator σ) (declaration : Declaration) (mode : Mode)
    (kind : TraceEvent.Kind) : StateM σ Unit :=
  match generator.observer with
  | some observe => modify (observe ⟨.ofRun declaration.ident mode, mode, kind⟩)
  | none => pure ()

/-- The names that the code for a class uses. -/
def context (settings : ResolvedSettings) (declaration : Declaration) : Context where
  target := declaration.ident
  visibility := declaration.visibility
  keys := settings.keysIdent.getD declaration.ident.keysIdent
  runtime := settings.runtime
  constructor := settings.constructor
  setterPrefix := settings.setterPrefix

/-- A run for a declaration in a mode. -/
def run (generator : Generator σ) (declaration : Declaration) (mode : Mode) :
    StateM σ (Except GenerationError Artifact) := do
  let report := generator.report declaration mode
  report .start
  report (.phase .validating 0)
  if declaration.kind.isClassLike then
    let fields := Field.extract generator.settings.keyMarker declaration.members
    let count := reportedCount fields.length
    report (.phase .extracting count)
    let artifact := Artifact.ofFields (context generator.settings declaration) mode fields
    report (.phase .synthesizing count)
    report (.phase .done count)
    report (.finish (reportedCount artifact.fragments.length))
    return .ok artifact
  else
    report (.error declaration.kind)
    return .error .onlyForClasses

/-- The code for a declaration in a mode. -/
def generate (settings : ResolvedSettings) (declaration : Declaration) (mode : Mode) :
    Except GenerationError Artifact :=
  let generator : Generator Unit := ⟨settings, none⟩
  ((generator.run declaration mode).run ()).1

end Generator

end KeyedCoding
