import Mathlib.Data.Set.Insert

/-! Joining two keyed collections: the pairs of entries that share a key. -/

namespace Join

variable {κ α β : Type}

/-- The pairs whose left and right entries are filed under a common key. -/
def pairs (left : Set (κ × α)) (right : Set (κ × β)) : Set (α × β) :=
  {pair | ∃ key, (key, pair.1) ∈ left ∧ (key, pair.2) ∈ right}

/-- A pair is joined when some key files both of its entries. -/
@[simp] theorem mem_pairs {left : Set (κ × α)} {right : Set (κ × β)} {a : α} {b : β} :
    (a, b) ∈ pairs left right ↔ ∃ key, (key, a) ∈ left ∧ (key, b) ∈ right :=
  Iff.rfl

/-- A new left entry is paired with the right entries that are already filed under its key. -/
theorem pairs_insert_left (key : κ) (a : α) (left : Set (κ × α)) (right : Set (κ × β)) :
    pairs (insert (key, a) left) right =
      pairs left right ∪ {pair | pair.1 = a ∧ (key, pair.2) ∈ right} := by
  -- A pair uses the new entry on its left side or an entry that was there.
  ext ⟨first, second⟩
  -- Every pair of the longer collection is an old pair, or is built on the new entry.
  constructor
  · rintro ⟨shared, inLeft | inLeft, inRight⟩
    · cases inLeft
      exact Or.inr ⟨rfl, inRight⟩
    · exact Or.inl ⟨shared, inLeft, inRight⟩
  · -- Conversely, both kinds of pairs are joined in the longer collection.
    rintro (⟨shared, inLeft, inRight⟩ | ⟨same, inRight⟩)
    · exact ⟨shared, Or.inr inLeft, inRight⟩
    · exact ⟨key, Or.inl (Prod.ext rfl same), inRight⟩

/-- A new right entry is paired with the left entries that are already filed under its key. -/
theorem pairs_insert_right (key : κ) (b : β) (left : Set (κ × α)) (right : Set (κ × β)) :
    pairs left (insert (key, b) right) =
      pairs left right ∪ {pair | pair.2 = b ∧ (key, pair.1) ∈ left} := by
  ext ⟨first, second⟩
  constructor
  · -- The same two cases as on the left side, with the roles of the sides exchanged.
    rintro ⟨shared, inLeft, inRight | inRight⟩
    · cases inRight
      exact Or.inr ⟨rfl, inLeft⟩
    · exact Or.inl ⟨shared, inLeft, inRight⟩
  · rintro (⟨shared, inLeft, inRight⟩ | ⟨same, inLeft⟩)
    · exact ⟨shared, inLeft, Or.inr inRight⟩
    · exact ⟨key, inLeft, Or.inl (Prod.ext rfl same)⟩

end Join
