import Mathlib.Data.List.Forall2

/-! Components that take every step together: the first failure of any of them is everyone's. -/

namespace Lockstep

variable {ι σ ε : Type}

/-- One step of every component, in order. -/
def each (step : ι → σ → Except ε σ) (input : ι) : List σ → Except ε (List σ)
  | [] => .ok []
  | state :: rest => do
    let state ← step input state
    let rest ← each step input rest
    return state :: rest

/-- Steps one after the other. -/
def run (step : ι → σ → Except ε σ) : List ι → σ → Except ε σ
  | [], state => .ok state
  | input :: rest, state => do
    let state ← step input state
    run step rest state

variable {step : ι → σ → Except ε σ}

/-- A run with a first step succeeds through the state after that step. -/
theorem run_cons_eq_ok {input : ι} {rest : List ι} {state later : σ} :
    run step (input :: rest) state = .ok later ↔
      ∃ next, step input state = .ok next ∧ run step rest next = .ok later := by
  -- The first step succeeds or fails, and with a failure the run is over.
  rw [run]
  cases step input state <;> simp [Bind.bind, Except.bind]

/-- The components succeed together if each of them does. -/
theorem each_eq_ok {input : ι} {states later : List σ} :
    each step input states = .ok later ↔
      List.Forall₂ (fun before after => step input before = .ok after) states later := by
  induction states generalizing later with
  | nil => simp [each, eq_comm]
  | cons state rest ih =>
    rw [each, List.forall₂_cons_left_iff]
    cases stepped : step input state with
    | error failure => simp [Bind.bind, Except.bind]
    | ok next =>
      cases others : each step input rest with
      | error failure =>
        -- Nothing corresponds to the rest, of which a component has failed.
        have none_ : ∀ after, ¬ List.Forall₂
            (fun before after => step input before = .ok after) rest after := by
          intro after related
          rw [ih.mpr related] at others
          cases others
        simp [Bind.bind, Except.bind, none_]
      | ok middle =>
        have only : ∀ after, List.Forall₂
            (fun before after => step input before = .ok after) rest after ↔ after = middle := by
          intro after
          rw [← ih, others, Except.ok.injEq, eq_comm]
        simp [Bind.bind, Except.bind, Pure.pure, Except.pure, only, eq_comm]

/-- The components fail together as one of them does. -/
theorem exists_of_each_eq_error {input : ι} {states : List σ} {failure : ε}
    (failed : each step input states = .error failure) :
    ∃ state ∈ states, step input state = .error failure := by
  -- Induction on the states; the first step that fails decides the answer.
  induction states with
  | nil => cases failed
  | cons state rest ih =>
    rw [each] at failed
    cases stepped : step input state with
    | error first =>
      simp only [stepped, Bind.bind, Except.bind, Except.error.injEq] at failed
      exact ⟨state, List.mem_cons_self, by rw [stepped, failed]⟩
    | ok next =>
      cases others : each step input rest with
      | error later =>
        simp only [stepped, others, Bind.bind, Except.bind, Except.error.injEq] at failed
        subst failed
        obtain ⟨other, member, astray⟩ := ih others
        exact ⟨other, List.mem_cons_of_mem _ member, astray⟩
      -- All steps succeed, and then there is no failure to be explained.
      | ok middle => simp [stepped, others, Bind.bind, Except.bind, Pure.pure, Except.pure] at failed

/-- Related lists are related through a list in the middle if their elements are. -/
theorem forall₂_trans {α β γ : Type} {first : α → β → Prop} {second : β → γ → Prop}
    {as : List α} {cs : List γ} :
    (∃ bs, List.Forall₂ first as bs ∧ List.Forall₂ second bs cs) ↔
      List.Forall₂ (fun a c => ∃ b, first a b ∧ second b c) as cs := by
  constructor
  · -- Each state has its own intermediate, read off both lists at once.
    rintro ⟨bs, left, right⟩
    induction left generalizing cs with
    | nil =>
      cases right
      exact .nil
    | cons head _ ih =>
      cases right with
      | cons head' tail' => exact .cons ⟨_, head, head'⟩ (ih tail')
  · -- The intermediates are collected in the order of the list.
    intro related
    induction related with
    | nil => exact ⟨[], .nil, .nil⟩
    | cons head _ ih =>
      obtain ⟨b, left, right⟩ := head
      obtain ⟨bs, lefts, rights⟩ := ih
      exact ⟨b :: bs, .cons left lefts, .cons right rights⟩

/-- A run of all components together is a run of each. -/
theorem run_each_eq_ok {inputs : List ι} {states later : List σ} :
    run (each step) inputs states = .ok later ↔
      List.Forall₂ (fun before after => run step inputs before = .ok after) states later := by
  -- Induction on the inputs, the states being different after each of them.
  induction inputs generalizing states with
  | nil => simp [run, List.forall₂_eq_eq_eq]
  | cons input rest ih =>
    -- One input for all states and then the rest, which is both for each state.
    simp only [run_cons_eq_ok, each_eq_ok, ih]
    exact forall₂_trans

/-- What stands in a related list is related to something. -/
theorem exists_of_mem_right {α β : Type} {related : α → β → Prop} {as : List α} {bs : List β}
    (all : List.Forall₂ related as bs) {b : β} (member : b ∈ bs) : ∃ a ∈ as, related a b := by
  -- Induction along the two lists, to the place where the member stands.
  induction all with
  | nil => cases member
  | cons head _ ih =>
    rcases List.mem_cons.mp member with rfl | member
    · exact ⟨_, List.mem_cons_self, head⟩
    · obtain ⟨a, member', holds⟩ := ih member
      exact ⟨a, List.mem_cons_of_mem _ member', holds⟩

/-- A run of all components together fails as the run of one of them does. -/
theorem exists_of_run_each_eq_error {inputs : List ι} {states : List σ} {failure : ε}
    (failed : run (each step) inputs states = .error failure) :
    ∃ state ∈ states, run step inputs state = .error failure := by
  induction inputs generalizing states with
  | nil => cases failed
  | cons input rest ih =>
    rw [run] at failed
    cases stepped : each step input states with
    | error first =>
      simp only [stepped, Bind.bind, Except.bind, Except.error.injEq] at failed
      subst failed
      obtain ⟨state, member, astray⟩ := exists_of_each_eq_error stepped
      exact ⟨state, member, by rw [run, astray]; rfl⟩
    | ok middle =>
      simp only [stepped, Bind.bind, Except.bind] at failed
      obtain ⟨next, member, astray⟩ := ih failed
      -- The component that fails later has come from one that took the first step.
      obtain ⟨state, member', stepped'⟩ := exists_of_mem_right (each_eq_ok.mp stepped) member
      exact ⟨state, member', by rw [run, stepped']; exact astray⟩

/-- A run of all components together succeeds exactly if the run of each does. -/
theorem run_each_succeeds_iff {inputs : List ι} {states : List σ} :
    (∃ later, run (each step) inputs states = .ok later) ↔
      ∀ state ∈ states, ∃ later, run step inputs state = .ok later := by
  constructor
  · rintro ⟨later, done⟩ state member
    have related : List.Forall₂ (flip fun before after => run step inputs before = .ok after)
        later states := (run_each_eq_ok.mp done).flip
    obtain ⟨after, -, completed⟩ := exists_of_mem_right related member
    exact ⟨after, completed⟩
  · intro succeeds
    -- A failure of all together would be that of one component.
    cases ran : run (each step) inputs states with
    | ok later => exact ⟨later, rfl⟩
    | error failure =>
      obtain ⟨state, member, failed⟩ := exists_of_run_each_eq_error ran
      obtain ⟨later, done⟩ := succeeds state member
      rw [failed] at done
      cases done

end Lockstep
