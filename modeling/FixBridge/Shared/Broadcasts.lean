import FixBridge.Config.Contents
import FixBridge.Library.Lockstep
import FixBridge.Tools.MappingAborts
import FixBridge.Tools.MappingExchanges

/-! Broadcasts, from the sections of the configuration to the markets that receive them. -/

namespace FixBridge

namespace Mapping

/-- The addition of a symbol of an exchange, of which the result is dropped. -/
def give (assertions : Bool) (call : String × String) (mapping : Mapping) :
    Except Abort Mapping := do
  let (mapping, _) ← mapping.add assertions call.1 call.2
  return mapping

/-- An update gives the symbol to all mappings in lockstep. -/
theorem updateBroadcastTable_eq_each (assertions : Bool) (exchange symbol : String)
    (mappings : List Mapping) : updateBroadcastTable assertions exchange symbol mappings =
      Lockstep.each (give assertions) (exchange, symbol) mappings := by
  -- Induction on the mappings; a failure of one of them ends both loops.
  induction mappings with
  | nil => rfl
  | cons mapping rest ih =>
    rw [updateBroadcastTable, Lockstep.each, ih, give]
    cases mapping.add assertions exchange symbol <;> rfl

/-- Updates are a run of all mappings in lockstep. -/
theorem updateAll_eq_run (assertions : Bool) (adds : List (String × String))
    (mappings : List Mapping) : updateAll assertions adds mappings =
      Lockstep.run (Lockstep.each (give assertions)) adds mappings := by
  -- Induction on the additions, each of which is made to all mappings.
  induction adds generalizing mappings with
  | nil => rfl
  | cons call rest ih =>
    rw [updateAll, Lockstep.run, updateBroadcastTable_eq_each]
    exact bind_congr fun middle => ih middle

/-- Additions are a run of one mapping. -/
theorem addAll_eq_run (assertions : Bool) (adds : List (String × String)) (mapping : Mapping) :
    addAll assertions adds mapping = Lockstep.run (give assertions) adds mapping := by
  -- Induction on the additions to the one mapping.
  induction adds generalizing mapping with
  | nil => rfl
  | cons call rest ih =>
    rw [addAll, Lockstep.run, give]
    cases mapping.add assertions call.1 call.2 with
    | error abort => rfl
    | ok next => exact ih next.1

/-- The markets that are broadcast to are those of all dispatches that there are. -/
theorem broadcast_fst (hasMarket : String → String → Bool) (exchange symbol : String)
    (mappings : List Mapping) : (broadcast hasMarket exchange symbol mappings).1 =
      (mappings.flatMap fun mapping => (mapping.dispatch exchange symbol).1).filter
        fun market => hasMarket market.1 market.2 := by
  -- Induction on the mappings, whose dispatches are appended and filtered.
  induction mappings with
  | nil => rfl
  | cons mapping rest ih => rw [List.flatMap_cons, List.filter_append, ← ih]; rfl

/-- The result of a broadcast is whether there was a market. -/
theorem broadcast_snd (hasMarket : String → String → Bool) (exchange symbol : String)
    (mappings : List Mapping) : (broadcast hasMarket exchange symbol mappings).2 = true ↔
      (broadcast hasMarket exchange symbol mappings).1 ≠ [] := by
  -- Induction on the mappings; the flag is set where a market has been reached.
  induction mappings with
  | nil => simp [broadcast]
  | cons mapping rest ih =>
    simp only [broadcast, Bool.or_eq_true, Bool.not_eq_true', List.isEmpty_eq_false_iff, ih,
      ne_eq, List.append_eq_nil_iff, not_and_or]

end Mapping

namespace Shared

open Config Document Mapping

/-- What becomes of an expression when `utils::regex::Pattern` is constructed from it. -/
structure Regexes where
  /-- What is thrown, if the expression is malformed. -/
  malformed : String → Option String
  /-- The pattern, if it is not. -/
  compile : String → Pattern

/-- The constructor of `utils::regex::Pattern`. -/
def createPattern (regexes : Regexes) (regex : String) : Except Failure Pattern :=
  match regexes.malformed regex with
  | some text => .error (.exception text)
  | none => .ok (regexes.compile regex)

/-- `create_regex`, for a list of expressions. -/
def createRegex (regexes : Regexes) : List String → Except Failure (List Pattern)
  | [] => .ok []
  | regex :: rest => do
    let pattern ← createPattern regexes regex
    let patterns ← createRegex regexes rest
    return pattern :: patterns

/-- The loop of `extract_broadcast_mappings`, with the constructor of `tools::Mapping`. -/
def createMappings (regexes : Regexes) : List (String × Broadcast) → Except Failure (List Mapping)
  | [] => .ok []
  | (name, described) :: rest => do
    let sourceRegex ← createPattern regexes described.sourceRegex
    let targetsRegex ← createRegex regexes described.targetsRegex
    let mappings ← createMappings regexes rest
    return Mapping.create name described.exchange sourceRegex targetsRegex :: mappings

/-- `extract_broadcast_mappings`: a mapping for every broadcast, in the order of a walk. -/
def extractBroadcastMappings (regexes : Regexes) (order : List String) (config : Config) :
    Except Failure (List Mapping) :=
  createMappings regexes (config.broadcast.walk order)

/-- All expressions of a broadcast are well formed. -/
def Compiles (regexes : Regexes) (described : Broadcast) : Prop :=
  ∀ regex ∈ described.sourceRegex :: described.targetsRegex, regexes.malformed regex = none

/-- The mapping that is made of a broadcast. -/
def mappingOf (regexes : Regexes) (entry : String × Broadcast) : Mapping :=
  Mapping.create entry.1 entry.2.exchange (regexes.compile entry.2.sourceRegex)
    (entry.2.targetsRegex.map regexes.compile)

/-- Expressions become patterns if they are well formed, and otherwise something is thrown. -/
theorem createRegex_cases (regexes : Regexes) (expressions : List String) :
    ((∀ regex ∈ expressions, regexes.malformed regex = none) ∧
      createRegex regexes expressions = .ok (expressions.map regexes.compile)) ∨
    ((¬ ∀ regex ∈ expressions, regexes.malformed regex = none) ∧
      ∃ text, createRegex regexes expressions = .error (.exception text)) := by
  -- Induction on the expressions; the first malformed one throws.
  induction expressions with
  | nil => exact Or.inl ⟨List.forall_mem_nil _, rfl⟩
  | cons regex rest ih =>
    rw [createRegex, createPattern, List.forall_mem_cons]
    cases thrown : regexes.malformed regex with
    | some text => exact Or.inr ⟨fun both => (by cases both.1), text, rfl⟩
    | none =>
      rcases ih with ⟨formed, done⟩ | ⟨malformed, text, failed⟩
      · exact Or.inl ⟨⟨rfl, formed⟩, by rw [done]; rfl⟩
      · exact Or.inr ⟨fun both => malformed both.2, text, by rw [failed]; rfl⟩

/-- Broadcasts become mappings if they compile, and otherwise something is thrown. -/
theorem createMappings_cases (regexes : Regexes) (entries : List (String × Broadcast)) :
    ((∀ entry ∈ entries, Compiles regexes entry.2) ∧
      createMappings regexes entries = .ok (entries.map (mappingOf regexes))) ∨
    ((¬ ∀ entry ∈ entries, Compiles regexes entry.2) ∧
      ∃ text, createMappings regexes entries = .error (.exception text)) := by
  -- Induction on the entries, each with its source first and its targets then.
  induction entries with
  | nil => exact Or.inl ⟨List.forall_mem_nil _, rfl⟩
  | cons entry rest ih =>
    obtain ⟨name, described⟩ := entry
    rw [createMappings, createPattern, List.forall_mem_cons, Compiles, List.forall_mem_cons]
    cases thrown : regexes.malformed described.sourceRegex with
    | some text => exact Or.inr ⟨fun both => (by cases both.1.1), text, rfl⟩
    | none =>
      rcases createRegex_cases regexes described.targetsRegex with
        ⟨formed, first⟩ | ⟨malformed, text, first⟩
      · -- This entry compiles, and then the others matter.
        rcases ih with ⟨others, second⟩ | ⟨others, text, second⟩
        · exact Or.inl ⟨⟨⟨rfl, formed⟩, others⟩, by rw [first, second]; rfl⟩
        · exact Or.inr ⟨fun both => others both.2, text, by rw [first, second]; rfl⟩
      · exact Or.inr ⟨fun both => malformed both.1.2, text, by rw [first]; rfl⟩

/-- Where broadcasts have become mappings, these are theirs. -/
theorem extractBroadcastMappings_ok {regexes : Regexes} {order : List String} {config : Config}
    {mappings : List Mapping}
    (done : extractBroadcastMappings regexes order config = .ok mappings) :
    mappings = (config.broadcast.walk order).map (mappingOf regexes) := by
  -- It has succeeded, so that everything compiles.
  rcases createMappings_cases regexes (config.broadcast.walk order) with
    ⟨-, made⟩ | ⟨-, text, failed⟩
  · exact Except.ok.inj (done.symm.trans made)
  · cases failed.symm.trans done

/-- A broadcast is in no conflict with the symbols of its exchange, or they with each other. -/
def Accepts (regexes : Regexes) (adds : List (String × String))
    (described : Broadcast) : Prop :=
  let symbols := addedFor described.exchange adds
  symbols.Pairwise (Compatible (regexes.compile described.sourceRegex)) ∧
    ∀ symbol ∈ symbols, Separate (described.targetsRegex.map regexes.compile) symbol

/-- A broadcast takes a symbol to a market, once the symbols have been added. -/
def Leads (regexes : Regexes) (adds : List (String × String)) (symbol : String)
    (market : String × String) (described : Broadcast) : Prop :=
  market.1 = described.exchange ∧ Broadcasts (regexes.compile described.sourceRegex)
    (described.targetsRegex.map regexes.compile) (symbolsOf described.exchange adds) symbol market.2

/-- A new mapping refuses additions exactly if they are in conflict with its broadcast. -/
theorem addAll_create_decided (regexes : Regexes) (assertions : Bool)
    (adds : List (String × String)) (entry : String × Broadcast) :
    Decided (Accepts regexes adds entry.2) (addAll assertions adds
      (mappingOf regexes entry)) := by
  have decided := addAll_decided assertions adds (create_holds entry.1 entry.2.exchange
    (regexes.compile entry.2.sourceRegex) (entry.2.targetsRegex.map regexes.compile))
  -- Nothing was added before.
  simp only [Set.mem_empty_iff_false, false_implies, implies_true, true_and] at decided
  exact decided

/-- A mapping that has been given the symbols calls a market once if its broadcast leads there. -/
theorem count_dispatch (regexes : Regexes) {assertions : Bool}
    {adds : List (String × String)} {entry : String × Broadcast} {mapping : Mapping}
    (done : addAll assertions adds (mappingOf regexes entry) = .ok mapping)
    (exchange symbol : String) (market : String × String)
    [Decidable (Leads regexes adds symbol market entry.2)] :
    (mapping.dispatch exchange symbol).1.count market =
      if Leads regexes adds symbol market entry.2 then 1 else 0 := by
  obtain ⟨holds, -, sameExchange, sameSource, sameTargets⟩ :=
    addAll_holds (create_holds _ _ _ _) done
  rw [Set.empty_union] at holds
  obtain ⟨nodup, members, -⟩ := dispatch_spec holds.joined exchange symbol
  -- The mapping still has the exchange and the patterns of the broadcast.
  have called : market ∈ (mapping.dispatch exchange symbol).1 ↔
      Leads regexes adds symbol market entry.2 := by
    rw [members market.1 market.2, holds.mem_links, sameExchange, sameSource, sameTargets]
    rfl
  rw [nodup.count]
  exact if_congr called rfl rfl

/-- Mappings that have been given the symbols call a market once for each that leads there. -/
theorem count_flatMap_dispatch (regexes : Regexes) {assertions : Bool}
    {adds : List (String × String)} {entries : List (String × Broadcast)}
    {mappings : List Mapping} (done : List.Forall₂ (fun entry mapping => addAll assertions adds
      (mappingOf regexes entry) = .ok mapping) entries mappings)
    (exchange symbol : String) (market : String × String)
    [DecidablePred (Leads regexes adds symbol market)] :
    (mappings.flatMap fun mapping => (mapping.dispatch exchange symbol).1).count market =
      entries.countP fun entry => Leads regexes adds symbol market entry.2 := by
  -- Induction along the entries and their mappings, each of which adds at most one.
  induction done with
  | nil => rfl
  | cons head _ ih =>
    rw [List.flatMap_cons, List.count_append, ih, count_dispatch regexes head, List.countP_cons,
      Nat.add_comm]
    simp only [decide_eq_true_eq]

/-- The mappings of broadcasts refuse additions together exactly if one broadcast is in conflict. -/
theorem updateAll_decided (regexes : Regexes) (assertions : Bool) (adds : List (String × String))
    (entries : List (String × Broadcast)) :
    Decided (∀ entry ∈ entries, Accepts regexes adds entry.2)
      (updateAll assertions adds (entries.map (mappingOf regexes))) := by
  have decides (entry : String × Broadcast) := addAll_create_decided regexes assertions adds entry
  rw [updateAll_eq_run]
  refine ⟨fun accepted => ?_, fun refused => ?_⟩
  · -- Every mapping takes all symbols, and so they do together.
    refine Lockstep.run_each_succeeds_iff.mpr fun mapping member => ?_
    obtain ⟨entry, walks, rfl⟩ := List.mem_map.mp member
    rw [← addAll_eq_run]
    exact (decides entry).1 (accepted entry walks)
  · cases ran : Lockstep.run (Lockstep.each (give assertions)) adds
        (entries.map (mappingOf regexes)) with
    | ok mappings =>
      -- Had all symbols been taken, there would be no conflict.
      refine absurd (fun entry walks => ?_) refused
      obtain ⟨mapping, done⟩ := Lockstep.run_each_succeeds_iff.mp ⟨mappings, ran⟩ _
        (List.mem_map_of_mem walks)
      rw [← addAll_eq_run] at done
      by_contra conflict
      obtain ⟨abort, failed, -⟩ := (decides entry).2 conflict
      rw [done] at failed
      cases failed
    | error abort =>
      -- The failure is that of one mapping, which is fatal.
      obtain ⟨mapping, member, failed⟩ := Lockstep.exists_of_run_each_eq_error ran
      obtain ⟨entry, walks, rfl⟩ := List.mem_map.mp member
      rw [← addAll_eq_run] at failed
      have conflict : ¬ Accepts regexes adds entry.2 := by
        intro accepted
        obtain ⟨mapping, done⟩ := (decides entry).1 accepted
        rw [done] at failed
        cases failed
      obtain ⟨abort', failed', fatal⟩ := (decides entry).2 conflict
      rw [failed] at failed'
      cases failed'
      exact ⟨abort, rfl, fatal⟩

/-- A market receives a symbol once for each broadcast that leads there, if there is the market. -/
theorem count_broadcast (regexes : Regexes) {assertions : Bool} {adds : List (String × String)}
    {entries : List (String × Broadcast)} {mappings : List Mapping}
    (done : updateAll assertions adds (entries.map (mappingOf regexes)) = .ok mappings)
    (hasMarket : String → String → Bool) (exchange symbol : String) (market : String × String)
    [DecidablePred (Leads regexes adds symbol market)] :
    (Mapping.broadcast hasMarket exchange symbol mappings).1.count market =
      if hasMarket market.1 market.2 then
        entries.countP fun entry => Leads regexes adds symbol market entry.2 else 0 := by
  rw [updateAll_eq_run, Lockstep.run_each_eq_ok, List.forall₂_map_left_iff] at done
  simp only [← addAll_eq_run] at done
  rw [broadcast_fst]
  split
  · next present =>
    have kept (calls : List (String × String)) : (calls.filter fun called =>
        hasMarket called.1 called.2).count market = calls.count market :=
      List.count_filter present
    rw [kept, count_flatMap_dispatch regexes done]
  · next absent =>
    -- Markets that there are not are filtered out.
    refine List.count_eq_zero.mpr fun member => absent ?_
    exact (List.mem_filter.mp member).2

/-- The broadcasts of a section have the keys of their tables, and no key twice. -/
theorem nodup_readBroadcast (document : Root) :
    (((sectionOf "broadcast" document).filterMap readBroadcast).map Prod.fst).Nodup := by
  have keys : ((sectionOf "broadcast" document).map Prod.fst).Nodup := by
    unfold sectionOf
    split
    · next entries found => exact (document.keyed.of_mem (mem_of_lookup found)).nodup
    · exact List.nodup_nil
  -- Only entries that are tables become broadcasts, each under its own key.
  refine keys.sublist ?_
  generalize sectionOf "broadcast" document = entries
  induction entries with
  | nil => exact .slnil
  | cons entry rest ih =>
    obtain ⟨key, node⟩ := entry
    cases node with
    | table fields => exact ih.cons_cons key
    | _ => exact ih.cons key

open Classical in
/--
Updates of the broadcasts that a document describes end in `log::fatal` exactly for a conflict.

Otherwise each market receives a symbol as often as there are broadcasts of the market's exchange
that lead from the symbol to it, wherever the symbol has come from.
-/
theorem broadcast_described {settings : Config.Settings} {libraries : Config.Libraries} {order : List String}
    {document : Root} {config : Config}
    (created : Config.create settings libraries order document = .ok config)
    {regexes : Regexes} {walk : List String} {fresh : List Mapping}
    (extracted : extractBroadcastMappings regexes walk config = .ok fresh) (assertions : Bool)
    (adds : List (String × String)) :
    let described := ((sectionOf "broadcast" document).filterMap readBroadcast).map Prod.snd
    let updated := updateAll assertions adds fresh
    Decided (∀ broadcast ∈ described, Accepts regexes adds broadcast) updated ∧
      ∀ mappings, updated = .ok mappings → ∀ hasMarket exchange symbol,
        let result := Mapping.broadcast hasMarket exchange symbol mappings
        (∀ market, result.1.count market = if hasMarket market.1 market.2 then
          described.countP (Leads regexes adds symbol market ·) else 0) ∧
        (result.2 = true ↔ result.1 ≠ []) := by
  intro described updated
  have contents := contents_of_create created
  -- The mappings are made in the order of some walk over the described broadcasts.
  have walked : ((config.broadcast.walk walk).map Prod.snd).Perm described := by
    rw [contents.broadcast]
    exact (AList.walk_emplaceAll_perm (nodup_readBroadcast document) walk).map Prod.snd
  obtain rfl := extractBroadcastMappings_ok extracted
  have same : (∀ entry ∈ config.broadcast.walk walk, Accepts regexes adds entry.2) ↔
      ∀ broadcast ∈ described, Accepts regexes adds broadcast := by
    simp only [← walked.mem_iff, List.forall_mem_map]
  refine ⟨?_, fun mappings done hasMarket exchange symbol => ⟨fun market => ?_,
    broadcast_snd hasMarket exchange symbol mappings⟩⟩
  · rw [← same]
    exact updateAll_decided regexes assertions adds _
  · rw [count_broadcast regexes done, ← walked.countP_eq, List.countP_map]
    rfl

/-- A document with one broadcast, of an index to the perpetuals of the same exchange. -/
def indexBroadcast : Root where
  entries := [
    ("broadcast", .table [("combo", .table [("exchange", .string "deribit"),
      ("source_regex", .string "(.*)-DERIBIT-INDEX"),
      ("targets_regex", .string "(.*)-PERPETUAL")])]),
    ("symbols", .table [("regex", .string ".*")]),
    ("users", .table (usersOf twoUsers))]
  keyed := Node.keyed_sound (by decide)

/-- Expressions of one group in front of a suffix. -/
def beforeSuffix : Regexes where
  malformed _ := none
  compile regex := Pattern.mk fun symbol =>
    let suffix := regex.toList.drop 4
    if suffix.isSuffixOf symbol.toList then
      (true, String.ofList (symbol.toList.take (symbol.toList.length - suffix.length)))
    else (false, "")

/-- The index reaches the perpetual once, though it comes from another exchange. -/
theorem broadcast_described_index :
    ∃ config, Config.create ⟨false, false, true⟩ caselessLibraries [] indexBroadcast = .ok config ∧
      ∃ fresh, extractBroadcastMappings beforeSuffix [] config = .ok fresh ∧
      ∃ mappings, updateAll true deribitSymbols fresh = .ok mappings ∧
        (Mapping.broadcast (fun _ _ => true) "other" "BTC-DERIBIT-INDEX" mappings).1.count
          ("deribit", "BTC-PERPETUAL") = 1 := by
  -- The document is accepted, its one mapping is made, and two symbols are added to it.
  have accepted : ∃ config,
      Config.create ⟨false, false, true⟩ caselessLibraries [] indexBroadcast = .ok config ∧
      ∃ fresh, extractBroadcastMappings beforeSuffix [] config = .ok fresh ∧
      ∃ mappings, updateAll true deribitSymbols fresh = .ok mappings :=
    ⟨_, rfl, _, rfl, _, rfl⟩
  obtain ⟨config, created, fresh, extracted, mappings, done⟩ := accepted
  obtain ⟨-, reaches⟩ := broadcast_described created extracted true deribitSymbols
  obtain ⟨counts, -⟩ := reaches mappings done (fun _ _ => true) "other" "BTC-DERIBIT-INDEX"
  have described : ((sectionOf "broadcast" indexBroadcast).filterMap readBroadcast).map Prod.snd =
      [⟨"deribit", "(.*)-DERIBIT-INDEX", ["(.*)-PERPETUAL"]⟩] := by
    decide +kernel
  -- The index leads to the perpetual: both are filed under the same key.
  have leads : Leads beforeSuffix deribitSymbols "BTC-DERIBIT-INDEX"
      ("deribit", "BTC-PERPETUAL") ⟨"deribit", "(.*)-DERIBIT-INDEX", ["(.*)-PERPETUAL"]⟩ :=
    ⟨rfl, by simp [symbolsOf, deribitSymbols], by simp [symbolsOf, deribitSymbols], "BTC",
      by decide +kernel, beforeSuffix.compile "(.*)-PERPETUAL", List.mem_singleton_self _,
      by decide +kernel⟩
  refine ⟨config, created, fresh, extracted, mappings, done, (counts _).trans ?_⟩
  rw [if_pos rfl, described]
  simp [leads]

end Shared

end FixBridge
