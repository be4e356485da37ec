import Mathlib.Data.List.Infix
import Mathlib.Data.List.Induction

/-! Machines that allow only some actions, and the components of a system that each follow one. -/

namespace Guarded

variable {α σ : Type}

section Machine

variable {step : σ → α → Option σ} {state final : σ} {action : α} {actions rest : List α}

/-- The state that actions lead to, if every one of them is allowed when it is taken. -/
def run (step : σ → α → Option σ) : List α → σ → Option σ
  | [], state => some state
  | action :: rest, state => (step state action).bind (run step rest)

/-- Without actions, nothing changes. -/
@[simp] theorem run_nil : run step [] state = some state := rfl

/-- The first action has to be allowed, and the others where it leads to. -/
@[simp] theorem run_cons :
    run step (action :: rest) state = (step state action).bind (run step rest) := rfl

/-- Actions are allowed one part after the other. -/
theorem run_append :
    run step (actions ++ rest) state = (run step actions state).bind (run step rest) := by
  induction actions generalizing state with
  | nil => rfl
  | cons first actions ih =>
    -- Where the first action is not allowed, neither part is.
    rw [List.cons_append, run_cons, run_cons]
    cases step state first with
    | none => rfl
    | some next => exact ih

/-- A run goes through a state in between, wherever it is cut. -/
theorem run_split (allowed : run step (actions ++ action :: rest) state = some final) :
    ∃ before after, run step actions state = some before ∧ step before action = some after ∧
      run step rest after = some final := by
  -- The run binds the first part to the rest, and the rest begins with the action.
  rw [run_append] at allowed
  obtain ⟨before, first, allowed⟩ := Option.bind_eq_some_iff.mp allowed
  obtain ⟨after, second, third⟩ := Option.bind_eq_some_iff.mp allowed
  exact ⟨before, after, first, second, third⟩

/-- What every allowed action keeps of the actions so far and the state holds at the end of a run. -/
theorem run_records {record : List α → σ → Prop} (initial : record [] state)
    (kept : ∀ {taken before action after}, step before action = some after →
      record taken before → record (taken ++ [action]) after)
    (allowed : run step actions state = some final) : record actions final := by
  -- The actions grow at their end, where the state is the one that the others have led to.
  induction actions using List.reverseRecOn generalizing final with
  | nil =>
    cases allowed
    exact initial
  | append_singleton actions action ih =>
    obtain ⟨before, after, first, taken, last⟩ := run_split allowed
    cases last
    exact kept taken (ih first)

/-- A property of the state that every allowed action keeps holds at the end of a run. -/
theorem run_preserves {invariant : σ → Prop}
    (kept : ∀ {state action next}, step state action = some next → invariant state →
      invariant next)
    (allowed : run step actions state = some final) (holds : invariant state) :
    invariant final :=
  @run_records _ _ step state final actions (fun _ => invariant) holds
    (fun taken before => kept taken before) allowed

/-- A measure that no allowed action decreases is at least as great at the end of a run. -/
theorem run_monotone {measure : σ → Nat}
    (grows : ∀ {state action next}, step state action = some next →
      measure state ≤ measure next)
    (allowed : run step actions state = some final) : measure state ≤ measure final := by
  -- What is kept is the bound from below by the measure of the first state.
  refine @run_preserves _ _ step state final actions (fun reached => measure state ≤ measure reached)
    (fun taken above => ?_) allowed (Nat.le_refl _)
  exact Nat.le_trans above (grows taken)

/-- Actions that need a low measure do not occur once it is higher. -/
theorem notMem_of_measure {measure : σ → Nat} {bound : Nat} {late : α}
    (grows : ∀ {state action next}, step state action = some next →
      measure state ≤ measure next)
    (early : ∀ {state next}, step state late = some next → measure state < bound)
    (allowed : run step actions state = some final) (high : bound ≤ measure state) :
    late ∉ actions := by
  intro member
  obtain ⟨before, after, rfl⟩ := List.append_of_mem member
  obtain ⟨middle, next, first, taken, -⟩ := run_split allowed
  -- The measure has not decreased by the time of the action.
  have above := run_monotone grows first
  have below := early taken
  omega

end Machine

section Components

variable {κ ω : Type}

/-- The actions of a history that concern one component. -/
def trace (concerns : κ → α → Bool) (key : κ) (history : List α) : List α :=
  history.filter (concerns key)

/-- A trace goes on with the actions that are added to the history. -/
theorem trace_append (concerns : κ → α → Bool) (key : κ) (history rest : List α) :
    trace concerns key (history ++ rest) =
      trace concerns key history ++ trace concerns key rest :=
  List.filter_append _ _

/-- A system with a history of actions, and the state of every component. -/
structure System (κ α σ ω : Type) where
  step : σ → α → Option σ
  concerns : κ → α → Bool
  history : ω → List α
  component : κ → ω → σ

variable {system : System κ α σ ω} {first second third : ω}

/-- From the one state of a system to the other, every component has followed its actions. -/
def System.Tracks (system : System κ α σ ω) (first second : ω) : Prop :=
  ∃ rest, system.history second = system.history first ++ rest ∧
    ∀ key, run system.step (trace system.concerns key rest) (system.component key first) =
      some (system.component key second)

namespace System.Tracks

/-- A system that has not moved is tracked. -/
theorem refl (system : System κ α σ ω) (first : ω) : system.Tracks first first :=
  ⟨[], by simp, fun _ => rfl⟩

/-- Where nothing is added and no component changes, the system is tracked. -/
theorem of_eq (same : system.history second = system.history first)
    (unchanged : ∀ key, system.component key second = system.component key first) :
    system.Tracks first second :=
  ⟨[], by simp [same], fun key => by rw [unchanged]; rfl⟩

/-- What is tracked can be tracked further. -/
theorem trans (before : system.Tracks first second) (after : system.Tracks second third) :
    system.Tracks first third := by
  obtain ⟨rest, grown, follows⟩ := before
  obtain ⟨rest', grown', follows'⟩ := after
  refine ⟨rest ++ rest', by rw [grown', grown, List.append_assoc], fun key => ?_⟩
  -- The component follows the first actions, and from there the others.
  rw [trace_append, run_append, follows key]
  exact follows' key

/-- A system is tracked when one component follows what is added, and the others do not change. -/
theorem single [DecidableEq κ] {key : κ} {rest : List α}
    (grown : system.history second = system.history first ++ rest)
    (own : ∀ action ∈ rest, ∀ other, system.concerns other action = decide (other = key))
    (follows : run system.step rest (system.component key first) =
      some (system.component key second))
    (others : ∀ other, other ≠ key →
      system.component other second = system.component other first) :
    system.Tracks first second := by
  refine ⟨rest, grown, fun other => ?_⟩
  by_cases same : other = key
  · subst same
    -- All that is added concerns this component.
    have all : trace system.concerns other rest = rest :=
      List.filter_eq_self.mpr fun action member => by rw [own action member]; simp
    rw [all]
    exact follows
  · have nothing : trace system.concerns other rest = [] :=
      List.filter_eq_nil_iff.mpr fun action member => by rw [own action member]; simp [same]
    rw [nothing, others other same]
    rfl

/-- A component is in the state to which its trace leads, when the history began with nothing. -/
theorem from_nothing (tracks : system.Tracks first second) (nothing : system.history first = [])
    (key : κ) : run system.step (trace system.concerns key (system.history second))
      (system.component key first) = some (system.component key second) := by
  -- Everything that the history holds at the end was added on the way.
  obtain ⟨rest, grown, follows⟩ := tracks
  rw [grown, nothing, List.nil_append]
  exact follows key

end System.Tracks

end Components

end Guarded
