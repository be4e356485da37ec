import Mathlib.Data.List.Basic
import Mathlib.Data.List.Induction

/-! Latches, which keep the first value that they are set to until they are reset. -/

/-- What an entry of a history means to a latch. -/
inductive Latch.Signal (β : Type) where
  | set (value : β)
  | reset
  | idle

namespace Latch

variable {α β : Type} (signal : α → Signal β)

/-- A latch that holds a value is not set to another one. -/
def step (held : Option β) (entry : α) : Option β :=
  match signal entry with
  | .set value => some (held.getD value)
  | .reset => none
  | .idle => held

/-- An entry that meets a condition on what came before it, and after which nothing was reset. -/
def Standing (condition : List α → α → Prop) (history : List α) : Prop :=
  ∃ earlier entry later, history = earlier ++ entry :: later ∧ condition earlier entry ∧
    ∀ other ∈ later, signal other ≠ .reset

/-- A history leaves a latch set: an entry has set it, and it was not reset since then. -/
def IsSet (history : List α) : Prop :=
  Standing signal (fun _ entry => ∃ value, signal entry = .set value) history

/-- A history leaves a latch set to the value of an entry that did not find it set before. -/
def SetTo (value : β) (history : List α) : Prop :=
  Standing signal (fun earlier entry => signal entry = .set value ∧ ¬ IsSet signal earlier) history

/-- A history with one more entry is split at that entry or before it. -/
theorem append_one_eq_iff {history earlier later : List α} {last entry : α} :
    history ++ [last] = earlier ++ entry :: later ↔
      (history = earlier ∧ last = entry ∧ later = []) ∨
        ∃ middle, later = middle ++ [last] ∧ history = earlier ++ entry :: middle := by
  -- What comes later is empty or ends with the entry that was added.
  rcases List.eq_nil_or_concat' later with rfl | ⟨middle, final, rfl⟩
  · rw [List.append_singleton_inj]
    simp
  · have regrouped : earlier ++ entry :: (middle ++ [final]) =
        (earlier ++ entry :: middle) ++ [final] := by simp
    rw [regrouped, List.append_singleton_inj]
    constructor
    · intro same
      obtain ⟨rfl, rfl⟩ := same
      exact Or.inr ⟨middle, rfl, rfl⟩
    · intro split
      rcases split with ⟨-, -, empty⟩ | ⟨other, same, rfl⟩
      · simp at empty
      · rw [List.append_singleton_inj] at same
        obtain ⟨rfl, rfl⟩ := same
        exact ⟨rfl, rfl⟩

/-- Nothing stands before the first entry. -/
@[simp] theorem not_standing_nil (condition : List α → α → Prop) :
    ¬ Standing signal condition [] := by
  -- A signal that stands was given by an entry, and there is none.
  intro standing
  obtain ⟨earlier, entry, later, split, -, -⟩ := standing
  simp at split

/-- The last entry stands, or an earlier one does that the last one has not reset. -/
theorem standing_append_one {condition : List α → α → Prop} {history : List α} {last : α} :
    Standing signal condition (history ++ [last]) ↔
      condition history last ∨ (signal last ≠ .reset ∧ Standing signal condition history) := by
  unfold Standing
  simp only [append_one_eq_iff]
  constructor
  · intro standing
    obtain ⟨earlier, entry, later, split, holds, kept⟩ := standing
    rcases split with ⟨rfl, rfl, -⟩ | ⟨middle, rfl, rfl⟩
    · exact Or.inl holds
    · -- The last entry is one of those that came later.
      obtain ⟨kept, keeps⟩ := List.forall_mem_append.mp kept
      exact Or.inr ⟨keeps last (List.mem_singleton_self last), earlier, entry, middle, rfl, holds,
        kept⟩
  · intro either
    rcases either with holds | ⟨keeps, earlier, entry, later, rfl, holds, kept⟩
    · exact ⟨history, last, [], Or.inl ⟨rfl, rfl, rfl⟩, holds, by simp⟩
    · refine ⟨earlier, entry, later ++ [last], Or.inr ⟨later, rfl, rfl⟩, holds, ?_⟩
      exact List.forall_mem_append.mpr ⟨kept, by simpa using keeps⟩

/-- A latch is set by the last entry, or was set before and is not reset by it. -/
theorem isSet_append_one {history : List α} {last : α} : IsSet signal (history ++ [last]) ↔
    (∃ value, signal last = .set value) ∨ (signal last ≠ .reset ∧ IsSet signal history) :=
  standing_append_one signal

/-- The last entry gives its value to a latch that it does not find set. -/
theorem setTo_append_one {value : β} {history : List α} {last : α} :
    SetTo signal value (history ++ [last]) ↔
      (signal last = .set value ∧ ¬ IsSet signal history) ∨
        (signal last ≠ .reset ∧ SetTo signal value history) :=
  standing_append_one signal

/-- A latch that is not set at first holds what the history has set it to, if anything. -/
theorem foldl_spec (history : List α) :
    (history.foldl (step signal) none = none ↔ ¬ IsSet signal history) ∧
      ∀ value, history.foldl (step signal) none = some value ↔ SetTo signal value history := by
  -- Whether the latch is set is carried along, because the next entry depends on it.
  induction history using List.reverseRecOn with
  | nil => exact ⟨by simp [IsSet], by simp [SetTo]⟩
  | append_singleton history last ih =>
    obtain ⟨unset, setTo⟩ := ih
    simp only [List.foldl_append, List.foldl_cons, List.foldl_nil, isSet_append_one,
      setTo_append_one, ← setTo, step]
    cases signal last with
    | set offered =>
      cases held : history.foldl (step signal) none with
      | none => simp [unset.mp held, eq_comm]
      | some value =>
        have isSet : IsSet signal history := by
          by_contra free
          rw [unset.mpr free] at held
          cases held
        simp [isSet]
    | reset => simp
    | idle => simp [unset]

end Latch
