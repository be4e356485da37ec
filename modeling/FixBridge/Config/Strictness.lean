import FixBridge.Config.Grammar

/-! Nothing in a careful document is ignored: it is grammatical, or else it is refused. -/

namespace FixBridge

namespace Config

open Document

/-- A user's table that has been read is of its shape, apart from its accounts. -/
theorem ReadsUser.fields {settings : Settings} {libraries : Libraries} {entries : Entries}
    (nodup : (entries.map Prod.fst).Nodup) (reads : ReadsUser settings libraries entries)
    (accounts : settings.omsRouteByStrategy = false →
      ∀ node, entries.lookup "accounts" = some node → node.IsStrings) :
    (Node.table entries).Fields (UserField libraries) := by
  refine ⟨entries, rfl, fun entry member => ?_⟩
  obtain ⟨key, node⟩ := entry
  -- The entry is what its key leads to, and the key is one of those that were read.
  have found := lookup_of_mem nodup member
  have known := reads.keys _ member
  simp only [userKeys, List.mem_cons, List.not_mem_nil, or_false] at known
  rcases known with rfl | rfl | rfl | rfl | rfl | rfl | rfl
  · have component := reads.component
    rw [found] at component
    exact component
  · have username := reads.username
    rw [found] at username
    exact username
  · exact reads.password node found
  · exact reads.strategyId node found
  · exact reads.account node found
  · rcases reads.accounts node found with strings | byAccount
    · exact strings
    · exact accounts byAccount node found
  · exact reads.symbols node found

/-- The table of a statistics type that passes is of its shape. -/
theorem FitsStatistics.fields {settings : Settings} {libraries : Libraries} {entries : Entries}
    (nodup : (entries.map Prod.fst).Nodup) (fits : FitsStatistics settings libraries entries) :
    (Node.table entries).Fields (StatisticsField libraries) := by
  -- Only the two keys of a statistics section occur, each with a node that can be read.
  refine ⟨entries, rfl, fun entry member => ?_⟩
  obtain ⟨key, node⟩ := entry
  have found := lookup_of_mem nodup member
  -- The type it is mapped to is always read, the default value only when it is there.
  rcases fits.keys _ member with rfl | rfl
  · have mapped := fits.remapped.isSome
    rw [found] at mapped
    exact mapped
  · exact (fits.defaultValue node found).2

/-- The table of a broadcast that passes is of its shape. -/
theorem FitsBroadcast.fields {entries : Entries} (nodup : (entries.map Prod.fst).Nodup)
    (fits : FitsBroadcast entries) : (Node.table entries).Fields BroadcastField := by
  -- Only the three keys of a broadcast occur, and the first two are read as non-empty strings.
  refine ⟨entries, rfl, fun entry member => ?_⟩
  obtain ⟨key, node⟩ := entry
  have found := lookup_of_mem nodup member
  have known := fits.keys _ member
  simp only [List.mem_cons, List.not_mem_nil, or_false] at known
  rcases known with rfl | rfl | rfl
  · have exchange := isSome_of_readString fits.exchange
    rw [found] at exchange
    exact exchange
  · have sourceRegex := isSome_of_readString fits.sourceRegex
    rw [found] at sourceRegex
    exact sourceRegex
  · -- The targets are strings themselves, in an array or as one string.
    exact fits.targetsRegex node found

/-- The table of an error that passes is of its shape. -/
theorem FitsError.fields {libraries : Libraries} {entries : Entries}
    (fits : FitsError libraries entries) : (Node.table entries).Fields (ErrorField libraries) := by
  -- The loop accepts nothing but a reason, whose node is a number.
  refine ⟨entries, rfl, fun entry member => ?_⟩
  obtain ⟨key, node⟩ := entry
  obtain ⟨named, value, read, -⟩ := fits _ member
  cases named
  show (libraries.uint32? node).isSome
  simp [read]

/-- A section that passes is a table of entries that pass. -/
theorem FitsSection.table {settings : Settings} {libraries : Libraries} {key : String}
    {node : Node} (fits : FitsSection settings libraries key (some node)) :
    ∃ entries, node = .table entries ∧
      ∀ entry ∈ entries, FitsEntry settings libraries key entry := by
  -- A section that is no table never fits, whatever its key.
  cases node with
  | table entries => exact ⟨entries, rfl, fits⟩
  | _ => exact fits.elim

/-- An acceptable document that is careful is grammatical. -/
theorem Acceptable.grammatical {settings : Settings} {libraries : Libraries} {document : Root}
    (acceptable : Acceptable settings libraries document) (careful : Careful settings document) :
    Grammatical libraries document := by
  refine ⟨document.entries, rfl, fun entry member => ?_⟩
  obtain ⟨key, node⟩ := entry
  have found := lookup_of_mem document.keyed.nodup member
  have keyed : node.Keyed := document.keyed.of_mem member
  have known := acceptable.keys _ member
  have fits := acceptable.sections key known
  rw [found] at fits
  obtain ⟨entries, rfl, each⟩ := fits.table
  simp only [sectionKeys, List.mem_cons, List.not_mem_nil, or_false] at known
  -- Each section has entries of its own kind.
  rcases known with rfl | rfl | rfl | rfl | rfl
  · refine ⟨entries, rfl, fun gateway inside => ?_⟩
    rcases each gateway inside with ⟨fields, value, table, regex, strings⟩ | regex
    · -- The only key of a gateway's table is the one that is read.
      obtain ⟨name, child⟩ := gateway
      cases table
      refine Or.inl ⟨fields, rfl, fun field within => ?_⟩
      obtain ⟨fieldKey, fieldNode⟩ := field
      have only : fieldKey = "regex" := careful.gateways entries found name fields inside _ within
      subst only
      have fieldsKeyed : (Node.table fields).Keyed := keyed.of_mem inside
      rw [lookup_of_mem fieldsKeyed.nodup within] at regex
      cases regex
      exact strings
    · exact Or.inr regex
  · refine ⟨entries, rfl, fun user inside => ?_⟩
    obtain ⟨fields, table, fitsUser⟩ := each user inside
    obtain ⟨name, child⟩ := user
    cases table
    have fieldsKeyed : (Node.table fields).Keyed := keyed.of_mem inside
    exact fitsUser.fields fieldsKeyed.nodup fun byAccount value located =>
      careful.accounts byAccount entries found name fields inside value located
  · refine ⟨entries, rfl, fun type inside => ?_⟩
    obtain ⟨-, fields, table, fitsStatistics⟩ := each type inside
    have fieldsKeyed := keyed.of_mem inside
    rw [table] at fieldsKeyed ⊢
    exact fitsStatistics.fields fieldsKeyed.nodup
  · refine ⟨entries, rfl, fun broadcast inside => ?_⟩
    obtain ⟨fields, table, fitsBroadcast⟩ := each broadcast inside
    have fieldsKeyed := keyed.of_mem inside
    rw [table] at fieldsKeyed ⊢
    exact fitsBroadcast.fields fieldsKeyed.nodup
  · refine ⟨entries, rfl, fun error inside => ?_⟩
    obtain ⟨-, fields, table, fitsError⟩ := each error inside
    rw [table]
    exact fitsError.fields

/-- A construction that ends in `log::fatal` or an exception. -/
def Refused {α : Type} (result : Except Failure α) : Prop :=
  (∃ text, result = .error (.fatal text)) ∨ ∃ text, result = .error (.exception text)

/-- What is neither a value nor undefined has been refused. -/
theorem refused_of_ends {α : Type} {result : Except Failure α} {passes astray : Prop}
    (ends : Ends result passes astray) (fails : ¬ passes) (stays : ¬ astray) :
    Refused result := by
  -- A result passes and undefined behaviour strays, so that only the two refusals are left.
  cases result with
  | ok value => exact absurd (ends.passes_iff.mp ⟨value, rfl⟩) fails
  | error failure =>
    cases failure with
    | fatal text => exact Or.inl ⟨text, rfl⟩
    | exception text => exact Or.inr ⟨text, rfl⟩
    | undefined => exact absurd (ends.astray_iff.mp rfl) stays

/--
Nothing in a document is ignored exactly if nothing in it is dereferenced as what it is not, and it
is a careful document in case that it is acceptable.
-/
theorem create_strict_iff (settings : Settings) (libraries : Libraries) (order : List String)
    (document : Root) :
    let result := create settings libraries order document
    ((∀ config, result = .ok config → Grammatical libraries document) ∧
      (¬ Grammatical libraries document → Refused result)) ↔
    (¬ Strays settings libraries document ∧
      (Acceptable settings libraries document → Careful settings document)) := by
  intro result
  have ends : Ends result (Acceptable settings libraries document)
      (Strays settings libraries document) := create_ends settings libraries order document
  constructor
  · intro strict
    obtain ⟨accepted, refused⟩ := strict
    refine ⟨fun strays => ?_, fun acceptable => ?_⟩
    · -- What strays is not refused, but what is grammatical does not stray.
      by_cases grammatical : Grammatical libraries document
      · exact grammatical.not_strays settings strays
      · have undefined := ends.astray_iff.mpr strays
        rcases refused grammatical with ⟨text, failed⟩ | ⟨text, failed⟩
        · cases undefined.symm.trans failed
        · cases undefined.symm.trans failed
    · obtain ⟨config, created⟩ := ends.passes_iff.mpr acceptable
      exact (accepted config created).careful settings
  · intro sound
    obtain ⟨stays, careful⟩ := sound
    refine ⟨fun config created => ?_, fun ungrammatical => ?_⟩
    · have acceptable := ends.passes_iff.mp ⟨config, created⟩
      exact acceptable.grammatical (careful acceptable)
    · -- An acceptable document would be grammatical.
      exact refused_of_ends ends
        (fun acceptable => ungrammatical (acceptable.grammatical (careful acceptable))) stays

/-- The two users' document with a misspelt key beside the patterns of the gateway. -/
def misspelt : Root where
  entries := [
    ("symbols", .table [("deribit", .table [("regex", .string "BTC-.*"),
      ("regx", .string "ETH-.*")])]),
    ("users", .table (usersOf twoUsers))]
  keyed := Node.keyed_sound (by decide)

/-- The misspelt key is ignored without notice. -/
theorem create_misspelt :
    (∃ config, create byAccount plainLibraries [] misspelt = .ok config) ∧
      ¬ Grammatical plainLibraries misspelt := by
  refine ⟨⟨_, rfl⟩, fun grammatical => ?_⟩
  have careful := grammatical.careful byAccount
  -- A grammatical document would have no such key.
  have only := careful.gateways _ rfl "deribit" _ List.mem_cons_self ("regx", .string "ETH-.*")
    (List.mem_cons_of_mem _ (List.mem_singleton_self _))
  exact absurd only (by decide)

end Config

end FixBridge
