import Mathlib.Data.List.Infix
import Mathlib.Data.List.Nodup

/-! Groups to which values are published: what a member receives from joining until leaving. -/

namespace Publishing

variable {κ β : Type}

/-- What happens in a group. -/
inductive Event (κ β : Type) where
  | join (key : κ)
  | leave (key : κ)
  | publish (value : β)
  deriving DecidableEq, Repr

/-- The value that is published, if one is. -/
def Event.value? : Event κ β → Option β
  | .publish value => some value
  | _ => none

/-- Who joins, if anybody does. -/
def Event.joins? : Event κ β → Option κ
  | .join key => some key
  | _ => none

/-- All values that have been published, in order. -/
def published (history : List (Event κ β)) : List β := history.filterMap Event.value?

/-- All who have joined, in order. -/
def joined (history : List (Event κ β)) : List κ := history.filterMap Event.joins?

variable {key : κ} {history rest : List (Event κ β)}

/-- Joining publishes nothing. -/
@[simp] theorem published_join : published (.join key :: history) = published history := rfl

/-- Neither does leaving. -/
@[simp] theorem published_leave : published (.leave key :: history) = published history := rfl

variable [DecidableEq κ] {member : Bool}

/-- Whether somebody is a member after an event, if it is known for the time before. -/
def turn (key : κ) (member : Bool) : Event κ β → Bool
  | .join other => member || decide (other = key)
  | .leave other => member && decide (other ≠ key)
  | .publish _ => member

/-- Whether somebody is a member after a history. -/
def after (key : κ) (member : Bool) (history : List (Event κ β)) : Bool :=
  history.foldl (turn key) member

/-- The values that are published while somebody is a member, in order. -/
def received (key : κ) : Bool → List (Event κ β) → List β
  | _, [] => []
  | member, event :: rest =>
    (if member then event.value?.toList else []) ++ received key (turn key member event) rest

/-- Membership is followed through one part of a history after the other. -/
theorem after_append :
    after key member (history ++ rest) = after key (after key member history) rest :=
  List.foldl_append

/-- What is received in one part of a history is followed by what is received in the other. -/
theorem received_append : received key member (history ++ rest) =
    received key member history ++ received key (after key member history) rest := by
  -- Induction on the first part; the second starts from what the member is after it.
  induction history generalizing member with
  | nil => rfl
  | cons event history ih =>
    rw [List.cons_append, received, ih, received, List.append_assoc]
    rfl

/-- Where nothing is published, nothing is received. -/
theorem received_of_silent (silent : published history = []) : received key member history = [] := by
  -- Induction on the history, in which no event has a value.
  induction history generalizing member with
  | nil => rfl
  | cons event history ih =>
    cases event with
    | publish value => simp [published, Event.value?] at silent
    | join other | leave other => simpa [received, Event.value?] using ih silent

/-- Somebody who does not join receives nothing. -/
theorem received_of_outside (outside : key ∉ joined history) : received key false history = [] := by
  induction history with
  | nil => rfl
  | cons event history ih =>
    have later : key ∉ joined history := by
      refine fun member => outside ?_
      cases event with
      | join other => exact List.mem_cons_of_mem _ member
      | leave other | publish value => exact member
    have still : turn key false event = false := by
      cases event with
      | join other =>
        -- Somebody else has joined.
        have different : other ≠ key := by
          rintro rfl
          exact outside List.mem_cons_self
        simp [turn, different]
      | leave other | publish value => rfl
    rw [received, still, ih later]
    rfl

/-- A member who does not join again receives the first of the published values. -/
theorem received_isPrefix (once : key ∉ joined history) :
    received key true history <+: published history := by
  induction history with
  | nil => exact List.prefix_rfl
  | cons event history ih =>
    cases event with
    | publish value => exact (List.prefix_cons_inj value).mpr (ih once)
    | join other => exact ih fun member => once (List.mem_cons_of_mem _ member)
    | leave other =>
      by_cases same : other = key
      · -- After leaving, nothing more is received.
        subst same
        have nothing : received other true (.leave other :: history) = [] := by
          simpa [received, turn, Event.value?] using received_of_outside once
        rw [nothing]
        exact List.nil_prefix
      · simpa [received, turn, Event.value?, same] using ih once

/-- Somebody who joins once receives one stretch of the published values. -/
theorem received_isInfix (once : (joined history).Nodup) :
    received key false history <:+: published history := by
  -- Induction on the history; before the member joins, it receives nothing.
  induction history with
  | nil => exact List.infix_rfl
  | cons event history ih =>
    cases event with
    | publish value => exact (ih once).trans (List.suffix_cons value _).isInfix
    | leave other => exact ih once
    | join other =>
      obtain ⟨unlike, later⟩ := List.nodup_cons.mp once
      -- Once it has joined it does not join again, so that only its leaving matters.
      by_cases same : other = key
      · subst same
        simpa [received, turn, Event.value?] using (received_isPrefix unlike).isInfix
      · simpa [received, turn, Event.value?, same] using ih later

end Publishing
