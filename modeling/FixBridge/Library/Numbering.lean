import Mathlib.Data.List.Range
import Mathlib.Data.List.Pairwise

/-! Numbers that count a list, and what is left of them when some entries are dropped. -/

namespace Numbering

variable {α : Type} (number : α → Nat) (kept : α → Bool)

/-- The entries of a list carry consecutive numbers. -/
def Counts (start : Nat) (entries : List α) : Prop :=
  entries.map number = List.range' start entries.length

/-- An entry in front carries the first number. -/
theorem counts_cons {start : Nat} {first : α} {rest : List α} :
    Counts number start (first :: rest) ↔
      number first = start ∧ Counts number (start + 1) rest := by
  simp [Counts, List.range'_succ]

/-- No entry carries a number before the first one. -/
theorem Counts.le {start : Nat} {entries : List α} (counts : Counts number start entries)
    {entry : α} (member : entry ∈ entries) : start ≤ number entry := by
  -- The number is one of those that are counted, and counting goes upwards.
  have listed : number entry ∈ List.range' start entries.length := by
    rw [← counts]
    exact List.mem_map_of_mem member
  exact (List.mem_range'_1.mp listed).1

/-- An entry at the end carries the next number. -/
theorem Counts.concat {start : Nat} {entries : List α} (counts : Counts number start entries)
    {last : α} (next : number last = start + entries.length) :
    Counts number start (entries ++ [last]) := by
  -- The entry takes the number that the counting would give next.
  rw [Counts, List.map_append, counts, List.length_append, List.range'_append_1.symm]
  simp [next]

/--
The kept entries of a counted list carry consecutive numbers exactly if no kept entry comes after
one that was dropped.
-/
theorem counts_filter {start : Nat} {entries : List α} (counts : Counts number start entries) :
    Counts number start (entries.filter kept) ↔
      entries.Pairwise fun earlier later => kept later = true → kept earlier = true := by
  -- The first entry is counted, and what is kept of the rest is judged from the next number on.
  induction entries generalizing start with
  | nil => simp [Counts]
  | cons first rest ih =>
    obtain ⟨here, counts⟩ := (counts_cons number).mp counts
    -- A kept first entry comes before all others, and counting goes on behind it.
    rw [List.pairwise_cons]
    by_cases keeps : kept first = true
    · rw [List.filter_cons_of_pos keeps, counts_cons]
      -- A dropped first entry leaves a gap, which only an empty remainder does not show.
      simp [here, keeps, ih counts]
    · rw [List.filter_cons_of_neg keeps]
      cases left : rest.filter kept with
      | nil =>
        -- Nothing is kept, so nothing is counted and nothing comes after a dropped entry.
        have dropped : ∀ entry ∈ rest, kept entry ≠ true := List.filter_eq_nil_iff.mp left
        refine iff_of_true rfl ⟨fun entry member holds => absurd holds (dropped entry member), ?_⟩
        exact List.Pairwise.imp_of_mem (fun _ member _ holds => absurd holds (dropped _ member))
          (List.pairwise_of_forall fun _ _ => trivial)
      | cons next more =>
        have found : next ∈ rest.filter kept := by simp [left]
        obtain ⟨member, holds⟩ := List.mem_filter.mp found
        -- A kept entry behind the gap carries a number that is too large to be the first.
        have later := counts.le number member
        refine iff_of_false (fun counted => ?_) fun pairwise => keeps (pairwise.1 next member holds)
        have same := ((counts_cons number).mp counted).1
        omega

end Numbering
