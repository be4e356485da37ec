import Mathlib.Data.List.Basic

/-! Which inputs a computation accepts, and on which it ends with one particular failure. -/

/-- Elements are taken in order, up to one that goes astray where all before it have passed. -/
def GoesAstray {α : Type} (passes astray : α → Prop) (list : List α) : Prop :=
  ∃ before element after, list = before ++ element :: after ∧
    (∀ earlier ∈ before, passes earlier) ∧ astray element

namespace GoesAstray

variable {α : Type} {passes astray : α → Prop}

/-- Without elements, nothing goes astray. -/
@[simp] theorem nil : ¬ GoesAstray passes astray [] := by
  -- To go astray takes an element to do it at.
  intro goes
  obtain ⟨before, element, after, split, -, -⟩ := goes
  simp at split

/-- The first element goes astray, or it passes and a later one does. -/
@[simp] theorem cons {first : α} {rest : List α} :
    GoesAstray passes astray (first :: rest) ↔
      astray first ∨ (passes first ∧ GoesAstray passes astray rest) := by
  constructor
  · -- What goes astray is the first element, or it has passed and another one does.
    intro goes
    obtain ⟨before, element, after, split, earlier, goesAstray⟩ := goes
    rcases before with _ | ⟨head, before⟩
    · cases split
      exact Or.inl goesAstray
    · cases split
      refine Or.inr ⟨earlier first List.mem_cons_self, before, element, after, rfl, ?_, goesAstray⟩
      exact fun other member => earlier other (List.mem_cons_of_mem _ member)
  · -- The elements before that one are then the first and those before it in the rest.
    intro either
    rcases either with goesAstray | ⟨passed, before, element, after, rfl, earlier, goesAstray⟩
    · exact ⟨[], first, rest, rfl, by simp, goesAstray⟩
    · refine ⟨first :: before, element, after, rfl, ?_, goesAstray⟩
      intro other member
      rcases List.mem_cons.mp member with rfl | member
      · exact passed
      · exact earlier other member

/-- Where no element goes astray, the elements together do not. -/
theorem not_of_forall {list : List α} (never : ∀ element ∈ list, ¬ astray element) :
    ¬ GoesAstray passes astray list := by
  -- The element it would happen at is one of the list.
  intro goes
  obtain ⟨before, element, after, rfl, -, goesAstray⟩ := goes
  exact never element (by simp) goesAstray

end GoesAstray

/-- A computation succeeds on one condition, and ends with one particular failure on another. -/
structure Judged {ε α : Type} (failure : ε) (result : Except ε α) (passes astray : Prop) :
    Prop where
  passes_iff : (∃ value, result = .ok value) ↔ passes
  astray_iff : result = .error failure ↔ astray

namespace Judged

variable {ε α β : Type} {failure : ε} {passes astray : Prop}

/-- A value passes. -/
theorem ok {value : α} (holds : passes) (stays : ¬ astray) :
    Judged failure (.ok value) passes astray :=
  ⟨iff_of_true ⟨value, rfl⟩ holds, iff_of_false (by simp) stays⟩

/-- Another failure neither passes nor goes astray. -/
theorem refused {other : ε} (different : other ≠ failure) (fails : ¬ passes) (stays : ¬ astray) :
    Judged failure (.error other : Except ε α) passes astray :=
  ⟨iff_of_false (by simp) fails, iff_of_false (by simpa using different) stays⟩

/-- The particular failure goes astray. -/
theorem strayed (fails : ¬ passes) (goes : astray) :
    Judged failure (.error failure : Except ε α) passes astray :=
  ⟨iff_of_false (by simp) fails, iff_of_true rfl goes⟩

/-- The conditions can be stated in another way. -/
theorem congr {result : Except ε α} (judged : Judged failure result passes astray)
    {passes' astray' : Prop} (same : passes ↔ passes') (same' : astray ↔ astray') :
    Judged failure result passes' astray' :=
  ⟨judged.passes_iff.trans same, judged.astray_iff.trans same'⟩

/-- A sequence passes when both parts do, and goes astray in the first part or in the second. -/
theorem bind {first : Except ε α} {rest : α → Except ε β}
    (judged : Judged failure first passes astray) {passes' astray' : Prop}
    (judgedRest : ∀ value, first = .ok value → Judged failure (rest value) passes' astray') :
    Judged failure (first >>= rest) (passes ∧ passes') (astray ∨ (passes ∧ astray')) := by
  cases result : first with
  | error other =>
    -- What comes second is not reached.
    subst result
    have fails : ¬ passes := fun holds => by
      obtain ⟨value, same⟩ := judged.passes_iff.mpr holds
      cases same
    refine ⟨iff_of_false ?_ fun both => fails both.1, ?_⟩
    · intro succeeds
      obtain ⟨value, same⟩ := succeeds
      cases same
    · simpa [fails, Bind.bind, Except.bind] using judged.astray_iff
  | ok value =>
    have second := judgedRest value result
    subst result
    have holds : passes := judged.passes_iff.mp ⟨value, rfl⟩
    have stays : ¬ astray := fun goes => nomatch judged.astray_iff.mpr goes
    refine ⟨?_, ?_⟩
    · simpa [holds, Bind.bind, Except.bind] using second.passes_iff
    · simpa [holds, stays, Bind.bind, Except.bind] using second.astray_iff

/-- A sequence in which nothing goes astray passes when both parts do. -/
theorem bind_never {first : Except ε α} {rest : α → Except ε β}
    (judged : Judged failure first passes False) {passes' : Prop}
    (judgedRest : ∀ value, first = .ok value → Judged failure (rest value) passes' False) :
    Judged failure (first >>= rest) (passes ∧ passes') False :=
  (judged.bind judgedRest).congr Iff.rfl (by rw [and_false, or_false])

/-- What is returned after a computation passes when the computation does. -/
theorem map {first : Except ε α} (judged : Judged failure first passes astray)
    (returned : α → β) :
    Judged failure (first >>= fun value => .ok (returned value)) passes astray :=
  (judged.bind fun _ _ => ok trivial not_false).congr (by rw [and_true])
    (by rw [and_false, or_false])

/--
A loop passes when all elements do, and goes astray at the first of them that does.

Each element is judged together with whatever the rest of the loop does in any state.
-/
theorem loop {σ : Type} {loop : List α → σ → Except ε β} {passes astray : α → Prop}
    {list : List α} (nil : ∀ state, ∃ value, loop [] state = .ok value)
    (cons : ∀ first ∈ list, ∀ rest state {passes' astray' : Prop},
      (∀ state, Judged failure (loop rest state) passes' astray') →
        Judged failure (loop (first :: rest) state) (passes first ∧ passes')
          (astray first ∨ (passes first ∧ astray'))) (state : σ) :
    Judged failure (loop list state) (∀ element ∈ list, passes element)
      (GoesAstray passes astray list) := by
  -- Induction on the list; the state is whatever the elements before have left.
  induction list generalizing state with
  | nil =>
    obtain ⟨value, done⟩ := nil state
    rw [done]
    exact ok (by simp) (by simp)
  | cons first rest ih =>
    -- The rest is judged in every state, so the verdict on the first element can be used.
    have later := ih fun element member => cons element (List.mem_cons_of_mem first member)
    refine (cons first List.mem_cons_self rest state later).congr ?_ ?_
    · rw [List.forall_mem_cons]
    · rw [GoesAstray.cons]

end Judged
