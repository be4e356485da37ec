import Mathlib.Data.List.Nodup
import Mathlib.Data.Nat.ModEq

/-! Numbers that are given out one after the other by a counter of bounded size. -/

namespace Wrapping

/-- The numbers that are given out to so many takers; the first of them is one. -/
def numbers (size count : Nat) : List Nat :=
  (List.range count).map fun index => (index + 1) % size

variable {size count : Nat}

/-- A number that is given out is that of some taker. -/
theorem mem_numbers {number : Nat} :
    number ∈ numbers size count ↔ ∃ index < count, (index + 1) % size = number := by
  simp [numbers]

/-- The numbers differ exactly as long as the counter has not come around. -/
theorem nodup_iff (positive : 0 < size) : (numbers size count).Nodup ↔ count ≤ size := by
  rw [numbers, List.nodup_map_iff_inj_on List.nodup_range]
  simp only [List.mem_range]
  constructor
  · intro distinct
    by_contra more
    -- The first number is given out again when the counter has come around.
    have same := distinct 0 (by omega) size (by omega) (by simp)
    omega
  · intro few first before second before' same
    have congruent : first ≡ second [MOD size] := Nat.ModEq.add_right_cancel' 1 same
    exact congruent.eq_of_lt_of_lt (by omega) (by omega)

/-- The number zero is not given out exactly as long as the counter has not wrapped around. -/
theorem zero_notMem_iff (positive : 0 < size) : 0 ∉ numbers size count ↔ count < size := by
  rw [mem_numbers]
  constructor
  · intro never
    by_contra more
    -- The taker with the greatest number of all is given zero.
    exact never ⟨size - 1, by omega, by rw [Nat.sub_add_cancel positive, Nat.mod_self]⟩
  · rintro few ⟨index, before, zero⟩
    rw [Nat.mod_eq_of_lt (by omega)] at zero
    omega

end Wrapping
