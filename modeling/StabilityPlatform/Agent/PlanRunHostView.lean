import Mathlib

/-!
# The projection of a plan run on a host

An agent keeps a view of each plan run it works for: the epoch it reports under, the phase
of the run, and the barrier at which the jobs of the run wait for each other before a phase
starts. The methods of a view are functions on it, one for each locked section. Events are
numbered: a barrier that is armed gets a new one, and an event once set stays set.
-/

namespace StabilityPlatform

/-- The view of one plan run. -/
structure PlanRunHostView where
  id : ℕ
  planRunId : ℕ
  hostId : String
  phase : String
  epoch : ℤ
  barrierTotal : ℤ
  barrierArrived : ℕ
  barrierEvent : ℕ
  eventsSet : Finset ℕ
  armedForPhase : Option String
  deriving DecidableEq

namespace PlanRunHostView

/-- A new view. -/
def new (id planRunId : ℕ) (hostId : String) : PlanRunHostView :=
  ⟨id, planRunId, hostId, "INIT", 1, 0, 0, 0, ∅, none⟩

/-! ### The epoch -/

/-- Move to the next epoch. -/
def bumpEpoch (v : PlanRunHostView) : PlanRunHostView := { v with epoch := v.epoch + 1 }

/-- Move above an epoch of the control plane. -/
def rebaseEpoch (v : PlanRunHostView) (storedEpoch : ℤ) : PlanRunHostView :=
  { v with epoch := max v.epoch storedEpoch + 1 }

/-! ### The barrier -/

/-- Arm the barrier for a phase; nothing when it is armed for that phase already. -/
def setBarrierTotal (v : PlanRunHostView) (total : ℤ) (forPhase : Option String) :
    PlanRunHostView :=
  if forPhase ≠ none ∧ v.armedForPhase = forPhase then v
  else
    { v with
      armedForPhase := forPhase.or v.armedForPhase
      barrierTotal := total
      barrierArrived := 0
      barrierEvent := v.barrierEvent + 1
      phase := "BARRIER_WAIT" }

/-- Whether as many have arrived as the barrier waits for. -/
def barrierSatisfied (v : PlanRunHostView) : Bool :=
  0 < v.barrierTotal && v.barrierTotal ≤ v.barrierArrived

/-- Count an arrival; whether it was the last one. -/
def arriveAtBarrier (v : PlanRunHostView) : Bool × PlanRunHostView :=
  let v := { v with barrierArrived := v.barrierArrived + 1 }
  if v.barrierSatisfied then (true, { v with eventsSet := insert v.barrierEvent v.eventsSet })
  else (false, v)

/-- The event to wait for; none when the barrier is satisfied already. -/
def waitBarrier (v : PlanRunHostView) : Option ℕ :=
  if v.barrierSatisfied then none else some v.barrierEvent

/-- Record a new phase. -/
def advancePhase (v : PlanRunHostView) (nextPhase : String) : PlanRunHostView :=
  { v with phase := nextPhase }

end PlanRunHostView

end StabilityPlatform
