import Mathlib.Algebra.BigOperators.Group.List.Basic
import Mathlib.Order.Interval.Finset.Nat
import Mathlib.Tactic.Abel

/-! Watching the numbers of arriving messages, and reporting where they jump. -/

namespace Supervision

variable {τ : Type}

/-- What is reported about a number that is not the next one. -/
inductive Report (τ : Type) where
  /-- The number is too great, and `distance` is how far it is from the one before. -/
  | gap (current previous distance : τ)
  /-- The number has been passed already, and `distance` is how far it lies back. -/
  | replay (current previous distance : τ)
  deriving DecidableEq, Repr

variable [AddCommGroup τ] [One τ] [LT τ] [DecidableLT τ] [DecidableEq τ]

/-- How far a report says that the numbers have jumped, beyond the step that was due. -/
def Report.jump : Report τ → τ
  | .gap _ _ distance => distance - 1
  | .replay _ _ distance => -(distance + 1)

/-- A number is compared with the one that should come after the previous one. -/
def inspect (previous current : τ) : Option (Report τ) :=
  if current = previous + 1 then none
  else if previous + 1 < current then some (.gap current previous (current - previous))
  else some (.replay current previous (previous - current))

/-- The reports about a sequence of numbers, each of which is compared with the one before. -/
def reports : τ → List τ → List (Report τ)
  | _, [] => []
  | previous, current :: rest => (inspect previous current).toList ++ reports current rest

/-- The last number, which is the previous one at the beginning. -/
def last (previous : τ) (numbers : List τ) : τ := numbers.getLast?.getD previous

omit [AddCommGroup τ] [One τ] [LT τ] [DecidableLT τ] [DecidableEq τ] in
/-- Behind a first number, the last number is that of the rest. -/
@[simp] theorem last_cons (previous current : τ) (rest : List τ) :
    last previous (current :: rest) = last current rest := by
  -- The number that comes first takes the place of the one before.
  rw [last, List.getLast?_cons]
  rfl

/-- A number is compared with the last one before it. -/
theorem reports_concat (previous current : τ) (numbers : List τ) :
    reports previous (numbers ++ [current]) =
      reports previous numbers ++ (inspect (last previous numbers) current).toList := by
  -- Induction on the numbers; the last one is compared with the one before it.
  induction numbers generalizing previous with
  | nil => simp [reports, last]
  | cons first rest ih => rw [List.cons_append, reports, ih, reports, List.append_assoc, last_cons]

/-- A number is not reported if it is the next one. -/
theorem inspect_eq_none {previous current : τ} :
    inspect previous current = none ↔ current = previous + 1 := by
  -- The only number without a report is the next one.
  unfold inspect
  split
  · simp_all
  · split <;> simp_all

/-- The jump that is reported is how far the number is from the one that was due. -/
theorem inspect_jump {previous current : τ} {report : Report τ}
    (reported : inspect previous current = some report) :
    report.jump = current - (previous + 1) := by
  unfold inspect at reported
  split at reported
  · cases reported
  · split at reported
    -- Either way, the jump is what the distance leaves beyond the step that was due.
    all_goals
      cases reported
      rw [Report.jump]
      abel

/-- The last number counts the numbers, up to the jumps that are reported. -/
theorem last_eq (previous : τ) (numbers : List τ) :
    last previous numbers =
      previous + numbers.length • (1 : τ) + ((reports previous numbers).map Report.jump).sum := by
  induction numbers generalizing previous with
  | nil => simp [last, reports]
  | cons current rest ih =>
    rw [last_cons, ih, reports, List.map_append, List.sum_append, List.length_cons, succ_nsmul]
    -- The first number is the one that was due, up to the jump that is reported about it.
    cases seen : inspect previous current with
    | none =>
      obtain rfl := inspect_eq_none.mp seen
      simp only [Option.toList_none, List.map_nil, List.sum_nil]
      abel
    | some report =>
      simp only [Option.toList_some, List.map_cons, List.map_nil, List.sum_cons, List.sum_nil,
        inspect_jump seen]
      abel

/-- Nothing is reported exactly if the numbers go up one by one. -/
theorem reports_eq_nil {previous : τ} {numbers : List τ} :
    reports previous numbers = [] ↔
      numbers = (List.range numbers.length).map fun index => previous + (index + 1) • (1 : τ) := by
  induction numbers generalizing previous with
  | nil => simp [reports]
  | cons current rest ih =>
    rw [reports, List.append_eq_nil_iff, Option.toList_eq_nil_iff, inspect_eq_none, ih,
      List.length_cons, List.range_succ_eq_map, List.map_cons, List.map_map, List.cons.injEq,
      zero_add, one_nsmul]
    refine and_congr_right fun next => ?_
    -- What is due after the first number is what is due later after the previous one.
    subst next
    refine Eq.congr_right (List.map_congr_left fun index _ => ?_)
    simp only [Function.comp_apply, Nat.succ_eq_add_one, succ_nsmul]
    abel

/-- Numbers of bounded size, whose arithmetic is that of their values until it wraps around. -/
structure Counts (value : τ → Nat) : Prop where
  injective : Function.Injective value
  lt_iff : ∀ {first second : τ}, first < second ↔ value first < value second
  succ : ∀ {first second : τ}, value first < value second → value (first + 1) = value first + 1
  sub : ∀ {first second : τ}, value first ≤ value second →
    value (second - first) = value second - value first

section Increasing

variable {value : τ → Nat}

/-- How many numbers a report says were left out. -/
def Report.missing (value : τ → Nat) : Report τ → Nat
  | .gap _ _ distance => value distance - 1
  | .replay _ _ _ => 0

/-- A number that is greater than the previous one is the next one, or a gap is reported. -/
theorem inspect_of_lt (counts : Counts value) {previous current : τ}
    (greater : value previous < value current) :
    (inspect previous current = none ∧ value current = value previous + 1) ∨
      inspect previous current = some (.gap current previous (current - previous)) := by
  have due := counts.succ greater
  unfold inspect
  split
  next next => exact Or.inl ⟨rfl, by rw [next, due]⟩
  next other =>
    -- The number is not the next one, so it is beyond it.
    have differs : value current ≠ value (previous + 1) := fun same => other (counts.injective same)
    rw [if_pos (counts.lt_iff.mpr (by omega))]
    exact Or.inr rfl

/-- Numbers that go up are never reported as replayed, and the gaps say how many were left out. -/
theorem reports_of_increasing (counts : Counts value) {previous : τ} {numbers : List τ}
    (increasing : (value previous :: numbers.map value).Pairwise (· < ·)) :
    (∀ report ∈ reports previous numbers, ∃ current before distance,
      report = .gap current before distance) ∧
    value (last previous numbers) = value previous + numbers.length +
      ((reports previous numbers).map (Report.missing value)).sum := by
  induction numbers generalizing previous with
  | nil => simp [reports, last]
  | cons current rest ih =>
    rw [List.map_cons, List.pairwise_cons] at increasing
    obtain ⟨above, increasing⟩ := increasing
    have greater : value previous < value current := above _ (by simp)
    obtain ⟨gaps, total⟩ := ih increasing
    rw [last_cons, total, reports, List.length_cons]
    -- Without a report the numbers go up by one, and a gap accounts for the rest of the step.
    rcases inspect_of_lt counts greater with ⟨silent, next⟩ | reported
    · rw [silent]
      refine ⟨by simpa using gaps, ?_⟩
      simp only [Option.toList_none, List.nil_append]
      omega
    · rw [reported]
      refine ⟨?_, ?_⟩
      · intro report member
        rcases List.mem_append.mp member with first | later
        · exact ⟨_, _, _, by simpa using first⟩
        · exact gaps report later
      · have distance := counts.sub greater.le
        simp only [Option.toList_some, List.map_append, List.map_cons, List.map_nil,
          List.sum_append, List.sum_cons, List.sum_nil, Report.missing, distance]
        omega

omit [AddCommGroup τ] [One τ] [LT τ] [DecidableLT τ] [DecidableEq τ] in
/-- The last of the numbers that go up is the greatest. -/
theorem le_last {previous : τ} {numbers : List τ}
    (ordered : (numbers.map value).Pairwise (· < ·)) {number : Nat}
    (member : number ∈ numbers.map value) : number ≤ value (last previous numbers) := by
  rcases List.eq_nil_or_concat' numbers with rfl | ⟨earlier, final, rfl⟩
  · cases member
  · rw [List.map_append, List.pairwise_append] at ordered
    rw [List.map_append, List.mem_append] at member
    have final_ : last previous (earlier ++ [final]) = final := by simp [last]
    rw [final_]
    -- The number stands before the last one, or it is the last one.
    rcases member with before | same
    · exact (ordered.2.2 number before (value final) (by simp)).le
    · exact (List.mem_singleton.mp same).le

/-- The numbers up to the last one that have not arrived are as many as the gaps report. -/
theorem missing_of_increasing (counts : Counts value) {previous : τ} {numbers : List τ}
    (increasing : (value previous :: numbers.map value).Pairwise (· < ·)) :
    (Finset.Ioc (value previous) (value (last previous numbers)) \
      (numbers.map value).toFinset).card =
        ((reports previous numbers).map (Report.missing value)).sum := by
  have total := (reports_of_increasing counts increasing).2
  obtain ⟨above, ordered⟩ := List.pairwise_cons.mp increasing
  have distinct : (numbers.map value).Nodup := ordered.imp fun less => Nat.ne_of_lt less
  -- Every number lies between the previous one and the last.
  have within : (numbers.map value).toFinset ⊆
      Finset.Ioc (value previous) (value (last previous numbers)) := by
    intro number member
    have listed := List.mem_toFinset.mp member
    exact Finset.mem_Ioc.mpr ⟨above number listed, le_last ordered listed⟩
  rw [Finset.card_sdiff_of_subset within, Nat.card_Ioc, List.toFinset_card_of_nodup distinct,
    List.length_map]
  omega

end Increasing

end Supervision
