import Mathlib.Data.List.Basic
import Mathlib.Data.List.Nodup

/-! Documents: trees of tables, arrays and scalars, and the paths that lead into them. -/

namespace Document

/-- A value that is neither a table, an array nor a string. -/
inductive Scalar where
  | integer (value : Int64)
  /-- A floating-point number, by its bits. -/
  | floatingPoint (bits : UInt64)
  | boolean (value : Bool)
  | date (text : String)
  | time (text : String)
  | dateTime (text : String)
  deriving DecidableEq, Repr

/-- A value of a document; the entries of a table are in the order in which it is walked. -/
inductive Node where
  | table (entries : List (String × Node))
  | array (elements : List Node)
  | string (value : String)
  | scalar (value : Scalar)

/-- The entries of a table. -/
abbrev Entries := List (String × Node)

/-- A node in which no table repeats a key. -/
inductive Node.Keyed : Node → Prop where
  | table {entries : Entries} (nodup : (entries.map Prod.fst).Nodup)
      (each : ∀ entry ∈ entries, entry.2.Keyed) : Node.Keyed (.table entries)
  | array {elements : List Node} (each : ∀ element ∈ elements, element.Keyed) :
      Node.Keyed (.array elements)
  | string (value : String) : Node.Keyed (.string value)
  | scalar (value : Scalar) : Node.Keyed (.scalar value)

mutual

/-- Whether no table of a node repeats a key. -/
def Node.keyed : Node → Bool
  | .table entries => decide (entries.map Prod.fst).Nodup && keyedEntries entries
  | .array elements => keyedElements elements
  | .string _ => true
  | .scalar _ => true

/-- Whether no table under the entries of a table repeats a key. -/
def keyedEntries : Entries → Bool
  | [] => true
  | (_, node) :: rest => node.keyed && keyedEntries rest

/-- Whether no table under the elements of an array repeats a key. -/
def keyedElements : List Node → Bool
  | [] => true
  | node :: rest => node.keyed && keyedElements rest

end

mutual

/-- The check is right about nodes. -/
theorem Node.keyed_sound : ∀ {node : Node}, node.keyed = true → node.Keyed
  | .table entries, checked => by
    -- The keys of a table are checked first, and then what stands under them.
    simp only [Node.keyed, Bool.and_eq_true, decide_eq_true_eq] at checked
    exact .table checked.1 (keyedEntries_sound checked.2)
  | .array elements, checked => .array (keyedElements_sound checked)
  | .string value, _ => .string value
  | .scalar value, _ => .scalar value

/-- The check is right about the entries of a table. -/
theorem keyedEntries_sound : ∀ {entries : Entries}, keyedEntries entries = true →
    ∀ entry ∈ entries, entry.2.Keyed
  | [], _, _, member => nomatch member
  | (key, node) :: rest, checked, entry, member => by
    simp only [keyedEntries, Bool.and_eq_true] at checked
    -- The first entry was checked itself, and the rest by the recursion.
    rcases List.mem_cons.mp member with same | later
    · rw [same]
      exact Node.keyed_sound checked.1
    · exact keyedEntries_sound checked.2 entry later

/-- The check is right about the elements of an array. -/
theorem keyedElements_sound : ∀ {elements : List Node}, keyedElements elements = true →
    ∀ element ∈ elements, element.Keyed
  | [], _, _, member => nomatch member
  | node :: rest, checked, element, member => by
    simp only [keyedElements, Bool.and_eq_true] at checked
    -- The first element was checked itself, and the rest by the recursion.
    rcases List.mem_cons.mp member with same | later
    · rw [same]
      exact Node.keyed_sound checked.1
    · exact keyedElements_sound checked.2 element later

end

/-- A whole document, which is a table. -/
structure Root where
  entries : Entries
  /-- No table of the document repeats a key. -/
  keyed : (Node.table entries).Keyed

/-- The string that a node is. -/
def Node.string? : Node → Option String
  | .string value => some value
  | _ => none

/-- The node at a path of keys. -/
def Node.at? : List String → Node → Option Node
  | [], node => some node
  | key :: path, .table entries => (entries.lookup key).bind (Node.at? path)
  | _ :: _, _ => none

/-- A string is listed by a node that is the string, or an array that has it as an element. -/
def Node.Lists (node : Node) (value : String) : Prop :=
  node = .string value ∨ ∃ elements, node = .array elements ∧ Node.string value ∈ elements

/-- A node that is a string, or an array of nothing but strings. -/
def Node.IsStrings (node : Node) : Prop :=
  (∃ value, node = .string value) ∨
    ∃ elements, node = .array elements ∧ ∀ element ∈ elements, ∃ value, element = .string value

/-- A table every entry of which is allowed under its key. -/
def Node.Fields (allowed : String → Node → Prop) (node : Node) : Prop :=
  ∃ entries, node = .table entries ∧ ∀ entry ∈ entries, allowed entry.1 entry.2

/-- The entries that remain when a key is erased. -/
def remove (key : String) (entries : Entries) : Entries :=
  entries.filter fun entry => entry.1 ≠ key

/-- Erasing a key leaves the entries of the other keys. -/
@[simp] theorem mem_remove {key : String} {entries : Entries} {entry : String × Node} :
    entry ∈ remove key entries ↔ entry ∈ entries ∧ entry.1 ≠ key := by
  simp [remove]

/-- Erasing a key does not repeat any other. -/
theorem nodup_remove {key : String} {entries : Entries}
    (nodup : (entries.map Prod.fst).Nodup) : ((remove key entries).map Prod.fst).Nodup :=
  nodup.sublist (List.filter_sublist.map _)

/-- Erasing a key does not affect what the other keys lead to. -/
theorem lookup_remove {key other : String} (different : other ≠ key) (entries : Entries) :
    (remove key entries).lookup other = entries.lookup other := by
  -- An entry that is dropped has another key than the one that is looked for.
  induction entries with
  | nil => rfl
  | cons entry rest ih =>
    obtain ⟨first, node⟩ := entry
    by_cases dropped : first = key
    · have skipped : remove key ((first, node) :: rest) = remove key rest := by
        simp [remove, dropped]
      have missed : (other == first) = false := by simp [dropped, different]
      rw [skipped, ih, List.lookup_cons, missed]
    · have kept : remove key ((first, node) :: rest) = (first, node) :: remove key rest := by
        simp [remove, dropped]
      rw [kept, List.lookup_cons, List.lookup_cons, ih]

/-- What a key leads to is an entry. -/
theorem mem_of_lookup {key : String} {node : Node} {entries : Entries}
    (found : entries.lookup key = some node) : (key, node) ∈ entries := by
  -- A lookup finds the first entry of its key, which is an entry.
  obtain ⟨before, after, split, -⟩ := List.lookup_eq_some_iff.mp found
  simp [split]

/-- When no key repeats, every entry is what its key leads to. -/
theorem lookup_of_mem {key : String} {node : Node} {entries : Entries}
    (nodup : (entries.map Prod.fst).Nodup) (member : (key, node) ∈ entries) :
    entries.lookup key = some node := by
  induction entries with
  | nil => cases member
  | cons entry rest ih =>
    obtain ⟨first, other⟩ := entry
    obtain ⟨unlike, nodup⟩ := List.nodup_cons.mp nodup
    rw [List.lookup_cons]
    -- The first entry is the one that is looked for unless its key is another.
    rcases List.mem_cons.mp member with same | later
    · cases same
      simp
    · have different : key ≠ first := by
        intro same
        subst same
        exact unlike (List.mem_map.mpr ⟨_, later, rfl⟩)
      rw [beq_eq_false_iff_ne.mpr different]
      exact ih nodup later

/-- A key without an entry leads nowhere. -/
theorem lookup_eq_none {key : String} {entries : Entries} :
    entries.lookup key = none ↔ ∀ entry ∈ entries, entry.1 ≠ key := by
  rw [List.lookup_eq_none_iff]
  -- Being unequal is written the other way round.
  refine forall_congr' fun entry => forall_congr' fun _ => ?_
  rw [bne_iff_ne, ne_comm]

/-- Nothing is left when keys are erased exactly if there were no other keys. -/
theorem foldl_remove_eq_nil (keys : List String) (entries : Entries) :
    keys.foldl (fun rest key => remove key rest) entries = [] ↔
      ∀ entry ∈ entries, entry.1 ∈ keys := by
  induction keys generalizing entries with
  | nil => simp [List.eq_nil_iff_forall_not_mem]
  | cons key keys ih =>
    rw [List.foldl_cons, ih]
    -- An entry of another key than the first is still there.
    constructor
    · intro later entry member
      by_cases same : entry.1 = key
      · exact List.mem_cons.mpr (Or.inl same)
      · exact List.mem_cons_of_mem key (later entry (mem_remove.mpr ⟨member, same⟩))
    · intro each entry member
      obtain ⟨inside, other⟩ := mem_remove.mp member
      exact (List.mem_cons.mp (each entry inside)).resolve_left other

/-- One entry is left besides the default value exactly if no other key was there. -/
theorem remove_eq_singleton {fields : Entries} {key required : String}
    (nodup : (fields.map Prod.fst).Nodup) (present : (fields.lookup required).isSome)
    (different : required ≠ key) :
    (∃ entry, remove key fields = [entry]) ↔
      ∀ entry ∈ fields, entry.1 = required ∨ entry.1 = key := by
  obtain ⟨node, found⟩ := Option.isSome_iff_exists.mp present
  have kept : (required, node) ∈ remove key fields :=
    mem_remove.mpr ⟨mem_of_lookup found, different⟩
  constructor
  · intro single entry member
    obtain ⟨only, single⟩ := single
    rw [single, List.mem_singleton] at kept
    by_cases same : entry.1 = key
    · exact Or.inr same
    · have remains : entry ∈ remove key fields := mem_remove.mpr ⟨member, same⟩
      rw [single, List.mem_singleton, ← kept] at remains
      exact Or.inl (remains ▸ rfl)
  · intro keys
    -- All that remains has the required key, which is not repeated.
    have only : ∀ entry ∈ remove key fields, entry = (required, node) := by
      intro entry member
      obtain ⟨inside, other⟩ := mem_remove.mp member
      have same := (keys entry inside).resolve_right other
      have located := lookup_of_mem nodup (show (entry.1, entry.2) ∈ fields from inside)
      rw [same, found] at located
      exact Prod.ext same (Option.some.inj located).symm
    have once : (remove key fields).Nodup := (nodup_remove nodup).of_map Prod.fst
    refine ⟨(required, node), List.perm_singleton.mp
      ((List.perm_ext_iff_of_nodup once (List.nodup_singleton _)).mpr fun entry => ?_)⟩
    rw [List.mem_singleton]
    exact ⟨only entry, fun same => same ▸ kept⟩

/-- The keys of a table do not repeat. -/
theorem Node.Keyed.nodup {entries : Entries} (keyed : (Node.table entries).Keyed) :
    (entries.map Prod.fst).Nodup := by
  -- Only one constructor makes a table, and it asks for this.
  cases keyed with
  | table nodup each => exact nodup

/-- What a key of a table leads to has no repeated key either. -/
theorem Node.Keyed.of_mem {entries : Entries} (keyed : (Node.table entries).Keyed)
    {entry : String × Node} (member : entry ∈ entries) : entry.2.Keyed := by
  -- Only one constructor makes a table, and it asks for this of every entry.
  cases keyed with
  | table nodup each => exact each entry member

end Document
