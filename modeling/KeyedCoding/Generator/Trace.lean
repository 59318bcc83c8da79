import KeyedCoding.Generator.Fingerprint

/-!
# Events of a run

A run of the generator can be watched: it reports the phases that it goes through, and how it ends.

## Main definitions

* `TraceEvent`: an event of a run, with the fingerprint and the mode of the run.
-/

namespace KeyedCoding

/-- The phases of a run. -/
inductive Phase where
  | validating
  | extracting
  | synthesizing
  | done
  deriving DecidableEq, Repr

namespace Phase

/-- The name of a phase. -/
def name : Phase → String
  | validating => "Validating"
  | extracting => "Extracting"
  | synthesizing => "Synthesizing"
  | done => "Done"

end Phase

/-- What happens in a run. Counts stop at the greatest number of 32 bits. -/
inductive TraceEvent.Kind where
  | start
  | phase (phase : Phase) (fields : Nat)
  | finish (fragments : Nat)
  /-- The declaration is of a kind for which nothing is generated. -/
  | error (kind : DeclarationKind)
  deriving DecidableEq, Repr

/-- An event of a run. -/
structure TraceEvent where
  fingerprint : Fingerprint
  mode : Mode
  kind : TraceEvent.Kind
  deriving DecidableEq, Repr

/-- A count as it is reported. -/
def reportedCount (count : Nat) : Nat := min count 0xFFFFFFFF

end KeyedCoding
