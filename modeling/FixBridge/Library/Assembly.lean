import FixBridge.Library.Table

/-! Tables that are assembled from a list of entries, in which keys may repeat. -/

namespace AList

variable {κ ν : Type} [DecidableEq κ]

/-- Emplacing entries one after the other. -/
def emplaceAll (entries : List (κ × ν)) (table : Table κ ν) : Table κ ν :=
  entries.foldl (fun table entry => (table.emplace entry.1 entry.2).1) table

/-- Assigning entries one after the other. -/
def insertAll (entries : List (κ × ν)) (table : Table κ ν) : Table κ ν :=
  entries.foldl (fun table entry => table.insert entry.1 entry.2) table

/-- Entries are emplaced one part after the other. -/
theorem emplaceAll_append (entries rest : List (κ × ν)) (table : Table κ ν) :
    table.emplaceAll (entries ++ rest) = (table.emplaceAll entries).emplaceAll rest :=
  List.foldl_append

/-- Of the entries that are emplaced under one key the first stays, unless there was one before. -/
theorem lookup_emplaceAll (key : κ) (entries : List (κ × ν)) (table : Table κ ν) :
    (table.emplaceAll entries).lookup key = (table.lookup key).or (entries.lookup key) := by
  induction entries generalizing table with
  | nil => simp [emplaceAll]
  | cons entry rest ih =>
    have step : table.emplaceAll (entry :: rest) = (table.emplace entry.1 entry.2).1.emplaceAll rest :=
      rfl
    rw [step, ih, lookup_emplace, List.lookup_cons]
    -- An entry matters if it has this key, and if nothing has been filed under it before.
    by_cases same : key = entry.1
    · subst same
      cases table.lookup entry.1 <;> simp
    · simp [beq_eq_false_iff_ne.mpr same, same]

/-- Of the entries that are assigned under one key the last stays. -/
theorem lookup_insertAll (key : κ) (entries : List (κ × ν)) (table : Table κ ν) :
    (table.insertAll entries).lookup key = (entries.reverse.lookup key).or (table.lookup key) := by
  induction entries generalizing table with
  | nil => simp [insertAll]
  | cons entry rest ih =>
    have step : table.insertAll (entry :: rest) = (table.insert entry.1 entry.2).insertAll rest := rfl
    rw [step, ih, lookup_insert_eq, List.reverse_cons, List.lookup_append, Option.or_assoc,
      List.lookup_cons, List.lookup_nil]
    -- An entry with this key counts unless there is a later one.
    by_cases same : key = entry.1
    · simp [same]
    · simp [beq_eq_false_iff_ne.mpr same, same]

/-- What a key leads to in a list of entries is one of them. -/
theorem mem_of_lookup_eq {key : κ} {value : ν} {entries : List (κ × ν)}
    (found : entries.lookup key = some value) : (key, value) ∈ entries := by
  -- A lookup finds the first entry of its key, which is an entry.
  obtain ⟨before, after, rfl, -⟩ := List.lookup_eq_some_iff.mp found
  simp

/-- Where no key repeats, every entry is what its key leads to. -/
theorem lookup_eq_some_iff_mem {key : κ} {value : ν} {entries : List (κ × ν)}
    (nodup : (entries.map Prod.fst).Nodup) :
    entries.lookup key = some value ↔ (key, value) ∈ entries := by
  refine ⟨mem_of_lookup_eq, fun member => ?_⟩
  obtain ⟨before, after, rfl⟩ := List.append_of_mem member
  refine List.lookup_eq_some_iff.mpr ⟨before, after, rfl, fun entry earlier => ?_⟩
  rw [List.map_append, List.map_cons] at nodup
  have apart := (List.nodup_middle.mp nodup).notMem
  -- An earlier entry with the same key would repeat it.
  refine bne_iff_ne.mpr fun same => apart (List.mem_append_left _ ?_)
  exact List.mem_map.mpr ⟨entry, earlier, same.symm⟩

/-- A walk over emplaced entries meets the first of those with one key. -/
theorem mem_walk_emplaceAll {key : κ} {value : ν} {entries : List (κ × ν)} {order : List κ} :
    (key, value) ∈ ((∅ : Table κ ν).emplaceAll entries).walk order ↔
      entries.lookup key = some value := by
  rw [mem_walk, lookup_emplaceAll, lookup_empty, Option.none_or]

/-- A walk over assigned entries meets the last of those with one key. -/
theorem mem_walk_insertAll {key : κ} {value : ν} {entries : List (κ × ν)} {order : List κ} :
    (key, value) ∈ ((∅ : Table κ ν).insertAll entries).walk order ↔
      entries.reverse.lookup key = some value := by
  rw [mem_walk, lookup_insertAll, lookup_empty, Option.or_none]

/-- A table that is assembled from entries without repeated keys is walked through these entries. -/
theorem walk_emplaceAll_perm {entries : List (κ × ν)} (nodup : (entries.map Prod.fst).Nodup)
    (order : List κ) : (((∅ : Table κ ν).emplaceAll entries).walk order).Perm entries := by
  -- Neither list has an entry twice, so that it is enough to compare the entries.
  refine (List.perm_ext_iff_of_nodup (.of_map _ (nodup_walk order _)) (.of_map _ nodup)).mpr ?_
  intro entry
  rw [mem_walk_emplaceAll, lookup_eq_some_iff_mem nodup]

end AList
