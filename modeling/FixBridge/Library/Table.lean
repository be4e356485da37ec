import Mathlib.Data.List.AList
import Mathlib.Data.List.Dedup

/-! Hash tables and hash sets as association lists in which no key repeats. -/

/-- A hash table, holding at most one value for each key. -/
abbrev Table (κ ν : Type) := AList fun _ : κ => ν

/-- A hash set is a hash table whose values carry nothing. -/
abbrev KeySet (κ : Type) := Table κ Unit

namespace AList

variable {κ ν : Type} [DecidableEq κ]

/-- Erasing keys one after the other. -/
def eraseAll (keys : List κ) (table : Table κ ν) : Table κ ν :=
  keys.foldl (fun remaining key => remaining.erase key) table

/-- Insertion that leaves an existing entry alone and reports whether it inserted. -/
def emplace (key : κ) (value : ν) (table : Table κ ν) : Table κ ν × Bool :=
  if key ∈ table then (table, false) else (table.insert key value, true)

/-- Inserting a key into a set reports whether the key is new. -/
def add (key : κ) (set : KeySet κ) : KeySet κ × Bool :=
  set.emplace key ()

/-- The entry a subscript finds, which is the default value for a missing key. -/
def at_ [Inhabited ν] (key : κ) (table : Table κ ν) : ν :=
  (table.lookup key).getD default

/-- Assignment through a reference to an existing entry. -/
def modify (key : κ) (change : ν → ν) (table : Table κ ν) : Table κ ν :=
  match table.lookup key with
  | none => table
  | some value => table.replace key (change value)

/-- Only a missing key is inserted. -/
@[simp] theorem emplace_snd (key : κ) (value : ν) (table : Table κ ν) :
    (table.emplace key value).2 = decide (key ∉ table) := by
  -- Whether the key is present decides both components of the result.
  unfold emplace
  split <;> simp_all

/-- An existing entry survives an insertion at its key. -/
theorem emplace_of_mem {key : κ} {table : Table κ ν} (present : key ∈ table) (value : ν) :
    table.emplace key value = (table, false) := by
  simp [emplace, present]

/-- A missing key receives the inserted value. -/
theorem emplace_of_notMem {key : κ} {table : Table κ ν} (absent : key ∉ table) (value : ν) :
    table.emplace key value = (table.insert key value, true) := by
  simp [emplace, absent]

/-- The keys after an insertion are the old keys and the inserted one. -/
@[simp] theorem mem_emplace {key other : κ} {value : ν} {table : Table κ ν} :
    other ∈ (table.emplace key value).1 ↔ other = key ∨ other ∈ table := by
  unfold emplace
  -- An insertion that is refused leaves the keys as they are, one of which is the key itself.
  split
  · -- The key is present, so naming it again adds nothing.
    constructor
    · exact Or.inr
    · rintro (rfl | member) <;> assumption
  · exact mem_insert table

/-- An insertion changes what is found at its own key only, and only where nothing was found. -/
theorem lookup_emplace (key other : κ) (value : ν) (table : Table κ ν) :
    (table.emplace key value).1.lookup other =
      if other = key then some ((table.lookup key).getD value) else table.lookup other := by
  unfold emplace
  -- A present key keeps its value, which is what `getD` finds.
  by_cases present : key ∈ table
  · obtain ⟨found, located⟩ := Option.isSome_iff_exists.mp (lookup_isSome.mpr present)
    -- The key itself is read as it was, and so is every other one.
    by_cases same : other = key
    · subst same; simp [present, located]
    · simp [present, same]
  · -- A missing key receives the value, and the others are read as before.
    by_cases same : other = key
    · subst same; simp [present, lookup_eq_none.mpr present]
    · simp [present, same]

/-- A set's members after an insertion are the old members and the inserted one. -/
@[simp] theorem mem_add {key other : κ} {set : KeySet κ} :
    other ∈ (set.add key).1 ↔ other = key ∨ other ∈ set :=
  mem_emplace

/-- Inserting into a set succeeds exactly for a new member. -/
@[simp] theorem add_snd (key : κ) (set : KeySet κ) : (set.add key).2 = decide (key ∉ set) :=
  emplace_snd key () set

/-- A subscript finds the default value when the table is empty. -/
@[simp] theorem at_empty [Inhabited ν] (key : κ) : (∅ : Table κ ν).at_ key = default := by
  simp [at_]

/-- A subscript reads what the last assignment to its key wrote. -/
@[simp] theorem at_insert [Inhabited ν] (key other : κ) (value : ν) (table : Table κ ν) :
    (table.insert key value).at_ other = if other = key then value else table.at_ other := by
  -- Only the subscript with the assigned key sees the assignment.
  by_cases same : other = key
  · subst same; simp [at_]
  · simp [at_, same]

/-- Erasing a key leaves the default value behind for subscripts. -/
@[simp] theorem at_erase [Inhabited ν] (key other : κ) (table : Table κ ν) :
    (table.erase key).at_ other = if other = key then default else table.at_ other := by
  -- The erased key has no entry, so that its subscript falls back to the default.
  by_cases same : other = key
  · subst same; simp [at_]
  · simp [at_, same]

/-- Erasing a key removes what is found there and nothing else. -/
theorem lookup_erase_eq (key other : κ) (table : Table κ ν) :
    (table.erase key).lookup other = if other = key then none else table.lookup other := by
  -- The other entries are found where they were.
  by_cases same : other = key
  · subst same; simp
  · simp [same]

/-- Erasing several keys removes what is found at them and nothing else. -/
theorem lookup_eraseAll (keys : List κ) (key : κ) (table : Table κ ν) :
    (table.eraseAll keys).lookup key = if key ∈ keys then none else table.lookup key := by
  -- The table shrinks with every erased key, so it stays general.
  induction keys generalizing table with
  | nil => simp [eraseAll]
  | cons first rest ih =>
    have step : table.eraseAll (first :: rest) = (table.erase first).eraseAll rest := rfl
    -- Erasing the first key and then the rest covers a key in either of two ways.
    rw [step, ih, lookup_erase_eq]
    by_cases later : key ∈ rest <;> by_cases same : key = first <;> simp [later, same]

/-- Assigning to a key changes what is found there and nothing else. -/
theorem lookup_insert_eq (key other : κ) (value : ν) (table : Table κ ν) :
    (table.insert key value).lookup other =
      if other = key then some value else table.lookup other := by
  -- A lookup of another key does not see the assignment.
  by_cases same : other = key
  · subst same; simp
  · simp [same]

/-- Replacing the value of an existing key is seen by a lookup of that key only. -/
theorem lookup_replace {key : κ} {table : Table κ ν} (present : key ∈ table) (other : κ)
    (value : ν) :
    (table.replace key value).lookup other =
      if other = key then some value else table.lookup other := by
  -- The walk is about the entries alone; that their keys are unique plays no part in it.
  obtain ⟨entries, nodup⟩ := table
  simp only [replace, lookup]
  change key ∈ entries.keys at present
  clear nodup
  -- The replacement walks the entries until it meets the key, as the lookup does.
  induction entries with
  | nil => simp at present
  | cons entry rest ih =>
    obtain ⟨first, held⟩ := entry
    -- Either the first entry is the one to replace, or the walk goes on behind it.
    by_cases here : key = first
    · subst here
      have step : List.kreplace key value (⟨key, held⟩ :: rest) = ⟨key, value⟩ :: rest :=
        List.lookmap_cons_some _ _ (by simp)
      rw [step]
      by_cases same : other = key
      · subst same; simp
      · simp [same]
    · -- The first entry keeps its value, and the key must be found further on.
      have later : key ∈ List.keys rest := by simpa [here] using present
      have step : List.kreplace key value (⟨first, held⟩ :: rest) =
          ⟨first, held⟩ :: List.kreplace key value rest :=
        List.lookmap_cons_none _ _ (by simp [here])
      rw [step]
      -- A lookup that stops at the first entry does not see the replacement.
      by_cases same : other = first
      · subst same; simp [Ne.symm here]
      · have skip : ∀ tail : List (Sigma fun _ : κ => ν),
            List.dlookup other (⟨first, held⟩ :: tail) = List.dlookup other tail :=
          fun _ => dif_neg (Ne.symm same)
        rw [skip, skip]
        exact ih later

/-- Assignment through a reference adds and removes no key. -/
@[simp] theorem keys_modify (key : κ) (change : ν → ν) (table : Table κ ν) :
    (table.modify key change).keys = table.keys := by
  -- A missing key changes nothing, and a present one keeps its place.
  unfold modify
  split <;> simp

/-- Assignment through a reference changes the entry it refers to. -/
theorem lookup_modify (key other : κ) (change : ν → ν) (table : Table κ ν) :
    (table.modify key change).lookup other =
      if other = key then (table.lookup key).map change else table.lookup other := by
  unfold modify
  -- The assignment happens only where the lookup finds something.
  cases located : table.lookup key with
  | none =>
    by_cases same : other = key
    · subst same; simpa using located
    · simp [same]
  | some value =>
    have present : key ∈ table := lookup_isSome.mp (by simp [located])
    simp [lookup_replace present]

end AList

/-! The order in which a hash table is walked is its own; `order` ranks the keys arbitrarily. -/

section Visit

variable {κ : Type} [DecidableEq κ]

/-- Every key once: first those that `order` names, in its order, then the remaining ones. -/
def visit (order keys : List κ) : List κ :=
  order.dedup.filter (· ∈ keys) ++ keys.filter (· ∉ order)

/-- A walk meets exactly the keys of the table. -/
@[simp] theorem mem_visit {order keys : List κ} {key : κ} :
    key ∈ visit order keys ↔ key ∈ keys := by
  -- Whether the order names the key decides in which part of the walk it comes.
  by_cases named : key ∈ order <;> simp [visit, named]

/-- A walk meets no key twice. -/
theorem visit_nodup (order : List κ) {keys : List κ} (nodup : keys.Nodup) :
    (visit order keys).Nodup := by
  refine List.Nodup.append ((List.nodup_dedup order).filter _) (nodup.filter _) ?_
  -- The first part holds keys that the order names, the second part those it does not.
  intro key first second
  simp only [List.mem_filter, List.mem_dedup, decide_eq_true_eq] at first second
  exact second.2 first.1

variable {ν : Type}

/-- The entries of a table in the order in which it is walked. -/
def AList.walk (order : List κ) (table : Table κ ν) : List (κ × ν) :=
  (visit order table.keys).filterMap fun key => (table.lookup key).map fun value => (key, value)

/-- A walk meets exactly the entries of the table. -/
@[simp] theorem AList.mem_walk {order : List κ} {table : Table κ ν} {key : κ} {value : ν} :
    (key, value) ∈ table.walk order ↔ table.lookup key = some value := by
  simp only [walk, List.mem_filterMap, mem_visit, Option.map_eq_some_iff, Prod.mk.injEq]
  constructor
  · intro met
    obtain ⟨other, -, found, located, rfl, rfl⟩ := met
    exact located
  · intro located
    -- A key that leads to a value is one of the table's keys.
    have present : key ∈ table := AList.lookup_isSome.mp (by simp [located])
    exact ⟨key, AList.mem_keys.mp present, value, located, rfl, rfl⟩

/-- The keys of a walk are the keys of the table. -/
theorem AList.map_fst_walk (order : List κ) (table : Table κ ν) :
    (table.walk order).map Prod.fst = visit order table.keys := by
  -- Every key that is visited leads to a value.
  have present : ∀ key ∈ visit order table.keys, key ∈ table := by
    intro key met
    exact AList.mem_keys.mpr (mem_visit.mp met)
  unfold walk
  generalize visit order table.keys = keys at present ⊢
  induction keys with
  | nil => rfl
  | cons key rest ih =>
    obtain ⟨value, located⟩ := Option.isSome_iff_exists.mp
      (AList.lookup_isSome.mpr (present key List.mem_cons_self))
    rw [List.filterMap_cons_some (by rw [located]; rfl), List.map_cons,
      ih fun other member => present other (List.mem_cons_of_mem _ member)]

/-- A walk meets no key twice. -/
theorem AList.nodup_walk (order : List κ) (table : Table κ ν) :
    ((table.walk order).map Prod.fst).Nodup := by
  -- The walk visits keys, and no key is visited twice.
  rw [AList.map_fst_walk]
  exact visit_nodup order table.nodupKeys

/-- The values of a table, in no particular order. -/
def AList.values (table : Table κ ν) : List ν :=
  table.entries.map fun entry => entry.2

/-- A walk meets every value as often as the table holds it. -/
theorem AList.walk_values_perm (order : List κ) (table : Table κ ν) :
    ((table.walk order).map Prod.snd).Perm table.values := by
  -- The walk and the entries have the same pairs, none of them twice.
  have pairs : (table.walk order).Perm (table.entries.map fun entry => (entry.1, entry.2)) := by
    rw [List.perm_ext_iff_of_nodup]
    · intro pair
      obtain ⟨key, value⟩ := pair
      rw [AList.mem_walk, ← Option.mem_def, AList.mem_lookup_iff, List.mem_map]
      constructor
      · exact fun member => ⟨_, member, rfl⟩
      · intro found
        obtain ⟨⟨other, held⟩, member, same⟩ := found
        cases same
        exact member
    · exact List.Nodup.of_map _ (AList.nodup_walk order table)
    · refine List.Nodup.of_map Prod.fst ?_
      rw [List.map_map]
      exact table.nodupKeys
  have values := pairs.map Prod.snd
  rw [List.map_map] at values
  exact values

/-- Emplacing under a new key adds the value. -/
theorem AList.values_emplace {key : κ} {table : Table κ ν} (absent : key ∉ table) (value : ν) :
    (table.emplace key value).1.values = value :: table.values := by
  -- A new key is inserted in front of the entries.
  simp only [AList.values, AList.emplace_of_notMem absent, AList.entries_insert_of_notMem absent,
    List.map_cons]

end Visit
