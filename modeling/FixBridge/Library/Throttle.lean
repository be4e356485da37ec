import Mathlib.Algebra.Order.Group.Defs
import Mathlib.Data.List.Induction

/-! Doing something on an event only if enough time has passed since it was done last. -/

namespace Throttle

variable {τ : Type} [AddCommGroup τ] [LinearOrder τ] {period start now : τ} {times rest : List τ}

/-- An event after the time that is due is acted on, and the next one is due a period later. -/
def next (period due now : τ) : τ := if due < now then now + period else due

/-- The time that has to be passed after the events so far. -/
def due (period start : τ) (times : List τ) : τ := times.foldl (next period) start

/-- The events are taken one part after the other. -/
theorem due_append : due period start (times ++ rest) = due period (due period start times) rest :=
  List.foldl_append

/-- The last event is acted on if it is late enough. -/
theorem due_concat :
    due period start (times ++ [now]) = next period (due period start times) now := due_append

/-- What is due is what was due at the beginning, or lies a period behind one of the events. -/
theorem due_cases (period start : τ) (times : List τ) :
    due period start times = start ∨ ∃ now ∈ times, due period start times = now + period := by
  induction times using List.reverseRecOn with
  | nil => exact Or.inl rfl
  | append_singleton times now ih =>
    rw [due_concat, next]
    -- The event sets what is due, or leaves what the events before it have set.
    split
    · exact Or.inr ⟨now, by simp, rfl⟩
    · exact ih.imp_right fun ⟨earlier, member, same⟩ => ⟨earlier, by simp [member], same⟩

/-- An event is acted on if it comes more than a period after all the others. -/
theorem due_lt (first : start < now) (late : ∀ earlier ∈ times, earlier + period < now) :
    due period start times < now := by
  -- It is due at the start, or one period after one of the times.
  rcases due_cases period start times with same | ⟨earlier, member, same⟩
  · rw [same]; exact first
  · rw [same]; exact late earlier member

section Apart

variable [IsOrderedAddMonoid τ]

/-- Time that is due does not come closer. -/
theorem le_due (forward : 0 ≤ period) (start : τ) (times : List τ) :
    start ≤ due period start times := by
  induction times using List.reverseRecOn with
  | nil => exact le_refl start
  | append_singleton times now ih =>
    rw [due_concat, next]
    -- What is due moves behind an event only if the event is later than that.
    split
    next passed => exact (ih.trans passed.le).trans (le_add_of_nonneg_right forward)
    next => exact ih

/-- Two events that are both acted on are more than a period apart. -/
theorem apart (forward : 0 ≤ period) {earlier middle : List τ} {first second : τ}
    (acted : due period start earlier < first)
    (again : due period start (earlier ++ first :: middle) < second) :
    first + period < second := by
  -- From the first event on, the end of its period is what is due, or something later.
  rw [due_append, due, List.foldl_cons, next, if_pos acted] at again
  exact (le_due forward (first + period) middle).trans_lt again

end Apart

end Throttle
