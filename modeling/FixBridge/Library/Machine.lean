import Mathlib.Logic.Basic

/-! Deterministic machines with outputs: invariants and refinement lift from a step to a run. -/

/-- A machine consumes an input, moves to a next state and produces an output. -/
structure Machine (ι σ ο : Type) where
  /-- The next state and the output. -/
  step : ι → σ → σ × ο

namespace Machine

variable {ι σ τ ο : Type}

/-- Consuming inputs in order, collecting the outputs. -/
def run (machine : Machine ι σ ο) : List ι → σ → σ × List ο
  | [], state => (state, [])
  | input :: rest, state =>
    let (next, output) := machine.step input state
    let (final, outputs) := machine.run rest next
    (final, output :: outputs)

/-- A property kept by every step is kept by every run. -/
theorem run_preserves {machine : Machine ι σ ο} {invariant : σ → Prop}
    (kept : ∀ input state, invariant state → invariant (machine.step input state).1) :
    ∀ inputs state, invariant state → invariant (machine.run inputs state).1 := by
  -- The first step keeps the invariant, and the rest of the run starts from the state it reaches.
  intro inputs
  induction inputs with
  | nil => exact fun _ holds => holds
  | cons input rest ih => exact fun state holds => ih _ (kept input state holds)

/--
A machine refines another one when its steps commute with an abstraction of its states.

The invariant restricts the states on which a step has to commute.
-/
structure Refines (concrete : Machine ι σ ο) (abstract : Machine ι τ ο) (read : σ → τ)
    (invariant : σ → Prop) : Prop where
  /-- Every step keeps the invariant. -/
  kept : ∀ input state, invariant state → invariant (concrete.step input state).1
  /-- The abstract step from the abstraction reaches the abstraction of the next state. -/
  commutes : ∀ input state, invariant state → abstract.step input (read state) =
    (read (concrete.step input state).1, (concrete.step input state).2)

/-- A refining machine produces the abstract outputs and ends in a state that abstracts well. -/
theorem Refines.run {concrete : Machine ι σ ο} {abstract : Machine ι τ ο} {read : σ → τ}
    {invariant : σ → Prop} (refines : Refines concrete abstract read invariant) :
    ∀ inputs state, invariant state → abstract.run inputs (read state) =
      (read (concrete.run inputs state).1, (concrete.run inputs state).2) := by
  intro inputs
  -- The inputs are consumed in order, from any state that satisfies the invariant.
  induction inputs with
  | nil => exact fun _ _ => rfl
  | cons input rest ih =>
    intro state holds
    -- The abstract run starts with the matching step, after which the invariant holds again.
    have later := ih _ (refines.kept input state holds)
    simp only [Machine.run, refines.commutes input state holds, later]

end Machine
