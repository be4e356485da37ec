import Mathlib.Logic.Relation
import Mathlib.Data.List.Induction
import Mathlib.Data.List.Infix

/-! Histories that grow at their end, and invariants of chains of steps. -/

namespace History

variable {α σ : Type}

/-- Every entry of a history satisfies a property that may mention the entries before it. -/
def Each (property : List α → α → Prop) (history : List α) : Prop :=
  ∀ earlier entry later, history = earlier ++ entry :: later → property earlier entry

/-- An empty history has no entries. -/
@[simp] theorem each_nil (property : List α → α → Prop) : Each property [] := by
  intro earlier entry later split
  -- An entry would make the history non-empty.
  simp at split

/-- A first entry has nothing before it and stands before all others. -/
@[simp] theorem each_cons {property : List α → α → Prop} {first : α} {history : List α} :
    Each property (first :: history) ↔
      property [] first ∧ Each (fun earlier => property (first :: earlier)) history := by
  constructor
  · intro each
    -- The first entry has nothing before it; the others are split off one place further on.
    refine ⟨each [] first history rfl, fun earlier entry later split => ?_⟩
    exact each (first :: earlier) entry later (by simp [split])
  · intro both earlier entry later split
    obtain ⟨initial, each⟩ := both
    -- A split of the longer history is at its first entry or inside the rest.
    rcases earlier with _ | ⟨first', earlier⟩
    · cases split
      exact initial
    · cases split
      exact each earlier entry later rfl

/-- Appended entries are judged by the history that they extend. -/
@[simp] theorem each_append {property : List α → α → Prop} {history rest : List α} :
    Each property (history ++ rest) ↔
      Each property history ∧ Each (fun earlier => property (history ++ earlier)) rest := by
  induction history generalizing property with
  | nil => simp
  -- The first entry moves into the prefix that the property has seen.
  | cons first history ih => simp [ih, and_assoc]

/-- A history grows by entries of one kind. -/
def Extends (kind : α → Prop) (history extended : List α) : Prop :=
  ∃ rest, extended = history ++ rest ∧ ∀ entry ∈ rest, kind entry

namespace Extends

variable {kind other : α → Prop} {history middle extended : List α}

/-- A history need not grow. -/
@[refl] theorem refl (kind : α → Prop) (history : List α) : Extends kind history history :=
  ⟨[], by simp, by simp⟩

/-- A history grows by one entry. -/
theorem single {entry : α} (holds : kind entry) : Extends kind history (history ++ [entry]) :=
  ⟨[entry], rfl, by simpa using holds⟩

/-- A history continues to grow. -/
theorem trans (first : Extends kind history middle) (second : Extends kind middle extended) :
    Extends kind history extended := by
  obtain ⟨rest, rfl, all⟩ := first
  obtain ⟨rest', rfl, all'⟩ := second
  -- The two extensions follow each other, and an entry is in one of them.
  refine ⟨rest ++ rest', by simp, fun entry member => ?_⟩
  rcases List.mem_append.mp member with member | member
  · exact all entry member
  · exact all' entry member

/-- The kind of the entries can be described less precisely. -/
theorem mono (extends_ : Extends kind history extended)
    (weaker : ∀ entry, kind entry → other entry) : Extends other history extended := by
  -- The same entries are added, and each is of the weaker kind as well.
  obtain ⟨rest, grown, all⟩ := extends_
  exact ⟨rest, grown, fun entry member => weaker entry (all entry member)⟩

/-- What was there stays at the front. -/
theorem isPrefix (extends_ : Extends kind history extended) : history <+: extended := by
  -- What was added stands behind the older entries.
  obtain ⟨rest, rfl, -⟩ := extends_
  exact List.prefix_append history rest

/-- An entry was there or is of the kind by which the history grew. -/
theorem mem (extends_ : Extends kind history extended) {entry : α} (member : entry ∈ extended) :
    entry ∈ history ∨ kind entry := by
  -- What is there at the end was there before, or it was added.
  obtain ⟨rest, rfl, all⟩ := extends_
  exact (List.mem_append.mp member).imp_right (all entry)

/-- A property that all entries of the kind have still holds of each entry. -/
theorem each (extends_ : Extends kind history extended) {property : List α → α → Prop}
    (holds : Each property history) (all : ∀ earlier entry, kind entry → property earlier entry) :
    Each property extended := by
  obtain ⟨rest, rfl, kinds⟩ := extends_
  refine each_append.mpr ⟨holds, fun earlier entry later split => ?_⟩
  -- Whatever stands before it, an added entry is of the kind.
  exact all _ entry (kinds entry (by simp [split]))

/-- Entries of another kind are not counted. -/
theorem countP (extends_ : Extends kind history extended) {counted : α → Bool}
    (others : ∀ entry, kind entry → counted entry = false) :
    extended.countP counted = history.countP counted := by
  obtain ⟨rest, rfl, kinds⟩ := extends_
  -- No added entry is counted, so the count is that of the old history.
  have none_ : rest.countP counted = 0 :=
    List.countP_eq_zero.mpr fun entry member => by simp [others entry (kinds entry member)]
  rw [List.countP_append, none_, Nat.add_zero]

/-- Entries of another kind are filtered out. -/
theorem filterMap {β : Type} (extends_ : Extends kind history extended) {select : α → Option β}
    (others : ∀ entry, kind entry → select entry = none) :
    extended.filterMap select = history.filterMap select := by
  obtain ⟨rest, rfl, kinds⟩ := extends_
  -- No added entry is selected either.
  have none_ : rest.filterMap select = [] :=
    List.filterMap_eq_nil_iff.mpr fun entry member => others entry (kinds entry member)
  rw [List.filterMap_append, none_, List.append_nil]

end Extends

/-- A history grows, and the entries that it gains have a property exactly under a condition. -/
def ExtendsIff (property : α → Prop) (condition : Prop) (history extended : List α) : Prop :=
  ∃ rest, extended = history ++ rest ∧ ((∀ entry ∈ rest, property entry) ↔ condition)

namespace ExtendsIff

variable {property : α → Prop} {condition other : Prop} {history middle extended : List α}

/-- A history that gains nothing meets every property. -/
theorem refl (property : α → Prop) (history : List α) :
    ExtendsIff property True history history :=
  ⟨[], by simp, by simp⟩

/-- Entries that have the property anyway need no condition. -/
theorem of_extends (extends_ : Extends property history extended) :
    ExtendsIff property True history extended := by
  -- Every added entry has the property, so that it decides nothing.
  obtain ⟨rest, grown, all⟩ := extends_
  exact ⟨rest, grown, iff_of_true all trivial⟩

/-- One entry has the property exactly under its condition. -/
theorem single {entry : α} (decides : property entry ↔ condition) :
    ExtendsIff property condition history (history ++ [entry]) :=
  ⟨[entry], rfl, by simpa using decides⟩

/-- The conditions of two extensions that follow each other are both needed. -/
theorem trans (first : ExtendsIff property condition history middle)
    (second : ExtendsIff property other middle extended) :
    ExtendsIff property (condition ∧ other) history extended := by
  obtain ⟨rest, rfl, decides⟩ := first
  obtain ⟨rest', rfl, decides'⟩ := second
  -- An entry that was gained belongs to one of the two.
  refine ⟨rest ++ rest', by simp, ?_⟩
  rw [List.forall_mem_append, decides, decides']

/-- A condition can be replaced by an equivalent one. -/
theorem congr (extends_ : ExtendsIff property condition history extended)
    (same : condition ↔ other) : ExtendsIff property other history extended := by
  -- The added entries stay the same; only what they decide is said in other words.
  obtain ⟨rest, grown, decides⟩ := extends_
  exact ⟨rest, grown, decides.trans same⟩

/-- What was there stays at the front. -/
theorem isPrefix (extends_ : ExtendsIff property condition history extended) :
    history <+: extended := by
  -- What was added stands behind the older entries, whatever it decides.
  obtain ⟨rest, rfl, -⟩ := extends_
  exact List.prefix_append history rest

/-- All entries have the property if the old ones have it and the condition holds. -/
theorem all_iff (extends_ : ExtendsIff property condition history extended) :
    (∀ entry ∈ extended, property entry) ↔ (∀ entry ∈ history, property entry) ∧ condition := by
  -- The older entries and the added ones are asked separately.
  obtain ⟨rest, rfl, decides⟩ := extends_
  rw [List.forall_mem_append, decides]

end ExtendsIff

/-- A property that every step keeps holds along a chain of steps. -/
theorem chain_preserves {step : σ → σ → Prop} (invariant : σ → Prop)
    (kept : ∀ {first second}, step first second → invariant first → invariant second)
    {first last : σ} (chain : Relation.ReflTransGen step first last) (holds : invariant first) :
    invariant last := by
  -- Along the chain, the invariant is handed from step to step.
  induction chain with
  | refl => exact holds
  | tail _ next ih => exact kept next ih

/-- The last of the entries of a history that are relevant. -/
def latest (relevant : α → Bool) (history : List α) : Option α :=
  (history.filter relevant).getLast?

/-- An entry that is added is the latest one if it is relevant. -/
theorem latest_append_one (relevant : α → Bool) (history : List α) (entry : α) :
    latest relevant (history ++ [entry]) =
      if relevant entry = true then some entry else latest relevant history := by
  unfold latest
  rw [List.filter_append]
  -- The entry is either appended to the relevant ones or dropped.
  split
  · next holds => simp [holds]
  · next fails => simp [fails]

/-- Entries that are not relevant can be left out before the latest one is looked for. -/
theorem latest_filter {relevant wider : α → Bool}
    (included : ∀ entry, relevant entry = true → wider entry = true) (history : List α) :
    latest relevant (history.filter wider) = latest relevant history := by
  unfold latest
  rw [List.filter_filter]
  -- What is relevant in the narrower sense is relevant in both.
  have same : (fun entry => relevant entry && wider entry) = relevant := by
    funext entry
    cases holds : relevant entry with
    | false => rfl
    | true => rw [included entry holds, Bool.and_self]
  rw [same]

/--
A view of a state that relevant entries overwrite is what the latest of them has written.

The invariant is there for views that only behave like this in sound states.
-/
theorem foldl_latest {β : Type} {step : σ → α → σ} {relevant : α → Bool} {written : α → β}
    (view : σ → β) (invariant : σ → Prop)
    (kept : ∀ state entry, invariant state → invariant (step state entry))
    (overwrites : ∀ state entry, invariant state →
      view (step state entry) = if relevant entry = true then written entry else view state)
    (history : List α) {first : σ} (holds : invariant first) :
    invariant (history.foldl step first) ∧
      view (history.foldl step first) =
        ((latest relevant history).map written).getD (view first) := by
  -- The history grows at its end, where the latest entry is.
  induction history using List.reverseRecOn with
  | nil => exact ⟨holds, rfl⟩
  | append_singleton history entry ih =>
    obtain ⟨sound, seen⟩ := ih
    rw [List.foldl_append, List.foldl_cons, List.foldl_nil]
    refine ⟨kept _ _ sound, ?_⟩
    rw [overwrites _ _ sound, seen, latest_append_one]
    split
    · rfl
    · rfl

end History
