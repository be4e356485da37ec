import FixBridge.Tools.MappingBroadcast

/-! Which exchange a symbol was received from matters to the additions, but not to the dispatch. -/

namespace FixBridge

namespace Mapping

/-- `Shared::update_broadcast_table`: every mapping is given the symbol. -/
def updateBroadcastTable (assertions : Bool) (exchange symbol : String) :
    List Mapping → Except Abort (List Mapping)
  | [] => .ok []
  | mapping :: rest => do
    let (mapping, _) ← mapping.add assertions exchange symbol
    let rest ← updateBroadcastTable assertions exchange symbol rest
    return mapping :: rest

/-- A sequence of updates, each with an exchange and a symbol. -/
def updateAll (assertions : Bool) :
    List (String × String) → List Mapping → Except Abort (List Mapping)
  | [], mappings => .ok mappings
  | (exchange, symbol) :: rest, mappings => do
    let mappings ← updateBroadcastTable assertions exchange symbol mappings
    updateAll assertions rest mappings

/--
`Shared::broadcast`: the markets that are given to the callback, in order, and the result.

A market is found by its exchange and symbol, if there is one.
-/
def broadcast (hasMarket : String → String → Bool) (exchange symbol : String) :
    List Mapping → List (String × String) × Bool
  | [] => ([], false)
  | mapping :: rest =>
    let found := (mapping.dispatch exchange symbol).1.filter fun called =>
      hasMarket called.1 called.2
    let (markets, result) := broadcast hasMarket exchange symbol rest
    (found ++ markets, !found.isEmpty || result)

/-- The mapping has come about by these additions. -/
def Built (mapping : Mapping) (adds : List (String × String)) : Prop :=
  ∃ assertions, addAll assertions adds
    (create mapping.name mapping.exchange mapping.sourceRegex mapping.targetsRegex) = .ok mapping

/-- A mapping broadcasts a symbol of its exchange to some target, after these additions. -/
def HasTargets (mapping : Mapping) (adds : List (String × String)) (symbol : String) : Prop :=
  ∃ target, Broadcasts mapping.sourceRegex mapping.targetsRegex (symbolsOf mapping.exchange adds)
    symbol target

/-- A symbol that was received from an exchange does not reach the others. -/
structure Apart (hasMarket : String → String → Bool) (exchange symbol : String)
    (mappings : List Mapping) : Prop where
  /-- The mappings of other exchanges make no callback and return false. -/
  dispatches : ∀ mapping ∈ mappings, mapping.exchange ≠ exchange →
    mapping.dispatch exchange symbol = ([], false)
  /-- No market of another exchange is broadcast to. -/
  broadcasts : ∀ market ∈ (broadcast hasMarket exchange symbol mappings).1, market.1 = exchange

/-- An update that completes leaves mappings that have been given the symbol. -/
theorem updateBroadcastTable_ok {assertions : Bool} {exchange symbol : String}
    {mappings later : List Mapping}
    (done : updateBroadcastTable assertions exchange symbol mappings = .ok later) :
    ∀ after ∈ later, ∃ before ∈ mappings, ∃ result,
      before.add assertions exchange symbol = .ok (after, result) := by
  induction mappings generalizing later with
  | nil =>
    cases done
    exact List.forall_mem_nil _
  | cons mapping rest ih =>
    rw [updateBroadcastTable] at done
    -- The update completes only if the mapping and all others take the symbol.
    cases added : mapping.add assertions exchange symbol with
    | error abort => simp [added, Bind.bind, Except.bind] at done
    | ok next =>
      cases updated : updateBroadcastTable assertions exchange symbol rest with
      | error abort => simp [added, updated, Bind.bind, Except.bind] at done
      | ok others =>
        simp only [added, updated, Bind.bind, Except.bind, Pure.pure, Except.pure] at done
        cases done
        intro after member
        rcases List.mem_cons.mp member with rfl | member
        · exact ⟨mapping, List.mem_cons_self, next.2, added⟩
        · obtain ⟨before, member', completed⟩ := ih updated after member
          exact ⟨before, List.mem_cons_of_mem _ member', completed⟩

/-- A sequence of updates is a sequence of additions for each mapping. -/
theorem updateAll_ok {assertions : Bool} {adds : List (String × String)}
    {mappings later : List Mapping} (done : updateAll assertions adds mappings = .ok later) :
    ∀ after ∈ later, ∃ before ∈ mappings, addAll assertions adds before = .ok after := by
  induction adds generalizing mappings with
  | nil =>
    cases done
    exact fun after member => ⟨after, member, rfl⟩
  | cons call rest ih =>
    obtain ⟨exchange, symbol⟩ := call
    rw [updateAll] at done
    cases updated : updateBroadcastTable assertions exchange symbol mappings with
    | error abort => simp [updated, Bind.bind, Except.bind] at done
    | ok middle =>
      simp only [updated, Bind.bind, Except.bind] at done
      intro after member
      -- The first addition of a mapping is followed by its others.
      obtain ⟨next, member', others⟩ := ih done after member
      obtain ⟨before, member'', result, added⟩ := updateBroadcastTable_ok updated next member'
      refine ⟨before, member'', ?_⟩
      rw [addAll, added]
      exact others

/-- Mappings that are updated from the beginning have come about by the same additions. -/
theorem updateAll_built {assertions : Bool} {adds : List (String × String)}
    {mappings later : List Mapping} (fresh : ∀ mapping ∈ mappings,
      mapping = create mapping.name mapping.exchange mapping.sourceRegex mapping.targetsRegex)
    (done : updateAll assertions adds mappings = .ok later) :
    ∀ mapping ∈ later, Built mapping adds := by
  intro mapping member
  obtain ⟨before, member', completed⟩ := updateAll_ok done mapping member
  have same := fresh before member'
  rw [same] at completed
  -- The additions have changed neither the name, nor the exchange, nor the patterns.
  obtain ⟨-, name, exchange, sourceRegex, targetsRegex⟩ :=
    addAll_holds (create_holds _ _ _ _) completed
  refine ⟨assertions, ?_⟩
  rw [name, exchange, sourceRegex, targetsRegex]
  exact completed

/-- What has come about by additions holds the symbols of its exchange. -/
theorem Built.holds {mapping : Mapping} {adds : List (String × String)}
    (built : Built mapping adds) : mapping.Holds (symbolsOf mapping.exchange adds) := by
  -- A mapping starts with no symbols, and holds what is added to it.
  obtain ⟨assertions, done⟩ := built
  have holds := (addAll_holds (create_holds _ _ _ _) done).1
  rw [Set.empty_union] at holds
  exact holds

/-- A dispatch that is asked about any exchange finds nothing exactly if there are no targets. -/
theorem Built.dispatch_eq_iff {mapping : Mapping} {adds : List (String × String)}
    (built : Built mapping adds) (exchange symbol : String) :
    mapping.dispatch exchange symbol = ([], false) ↔ ¬ HasTargets mapping adds symbol := by
  obtain ⟨-, members, answered⟩ := dispatch_spec built.holds.joined exchange symbol
  constructor
  · intro nothing targeted
    obtain ⟨target, broadcasts⟩ := targeted
    have called := (members mapping.exchange target).mpr
      ⟨rfl, (built.holds.mem_links symbol target).mpr broadcasts⟩
    rw [nothing] at called
    cases called
  · intro untargeted
    -- A callback would be for a target.
    have none_ : (mapping.dispatch exchange symbol).1 = [] := by
      refine List.eq_nil_iff_forall_not_mem.mpr fun called member => untargeted ?_
      obtain ⟨-, linked⟩ := (members called.1 called.2).mp member
      exact ⟨called.2, (built.holds.mem_links symbol called.2).mp linked⟩
    refine Prod.ext none_ (Bool.eq_false_iff.mpr fun answer => ?_)
    exact answered.mp answer none_

/-- Only a mapping that dispatches to a market broadcasts to it. -/
theorem exists_of_mem_broadcast {hasMarket : String → String → Bool} {exchange symbol : String}
    {mappings : List Mapping} {market : String × String}
    (reached : market ∈ (broadcast hasMarket exchange symbol mappings).1) :
    ∃ mapping ∈ mappings, market ∈ (mapping.dispatch exchange symbol).1 := by
  -- Induction on the mappings, to the one whose dispatch has the market.
  induction mappings with
  | nil => cases reached
  | cons mapping rest ih =>
    rcases List.mem_append.mp reached with found | later
    · exact ⟨mapping, List.mem_cons_self, List.mem_of_mem_filter found⟩
    · obtain ⟨other, member, called⟩ := ih later
      exact ⟨other, List.mem_cons_of_mem _ member, called⟩

/-- The callbacks of a dispatch are for markets of the mapping's exchange. -/
theorem exchange_of_mem_dispatch {mapping : Mapping} {exchange symbol : String}
    {market : String × String} (called : market ∈ (mapping.dispatch exchange symbol).1) :
    market.1 = mapping.exchange := by
  -- Every target is called with the exchange of the mapping.
  unfold dispatch at called
  split at called
  · cases called
  · obtain ⟨target, -, rfl⟩ := List.mem_map.mp called
    rfl

/--
A symbol that was received from an exchange does not reach the others exactly if no mapping of
another exchange has targets for a symbol of the same name.
-/
theorem apart_iff (hasMarket : String → String → Bool) (exchange symbol : String)
    {items : List (Mapping × List (String × String))}
    (built : ∀ item ∈ items, Built item.1 item.2) :
    Apart hasMarket exchange symbol (items.map Prod.fst) ↔
      ∀ item ∈ items, item.1.exchange ≠ exchange → ¬ HasTargets item.1 item.2 symbol := by
  constructor
  · intro apart item member foreign
    rw [← (built item member).dispatch_eq_iff exchange symbol]
    exact apart.dispatches item.1 (List.mem_map_of_mem member) foreign
  · intro untargeted
    have dispatches : ∀ mapping ∈ items.map Prod.fst, mapping.exchange ≠ exchange →
        mapping.dispatch exchange symbol = ([], false) := by
      intro mapping member foreign
      obtain ⟨item, listed, rfl⟩ := List.mem_map.mp member
      exact ((built item listed).dispatch_eq_iff exchange symbol).mpr
        (untargeted item listed foreign)
    refine ⟨dispatches, fun market reached => ?_⟩
    obtain ⟨mapping, member, called⟩ := exists_of_mem_broadcast reached
    -- A mapping of another exchange would have made no callback.
    by_contra foreign
    rw [exchange_of_mem_dispatch called] at foreign
    rw [dispatches mapping member foreign] at called
    cases called

/-- The symbols of an exchange: an index, and the perpetual that it is to be broadcast to. -/
def deribitSymbols : List (String × String) :=
  [("deribit", "BTC-PERPETUAL"), ("deribit", "BTC-DERIBIT-INDEX")]

/-- A mapping of the index to the perpetual, after the broadcast table was updated. -/
theorem built_deribit : ∃ mapping : Mapping, Built mapping deribitSymbols ∧
    mapping.exchange = "deribit" ∧
    mapping.dispatch "other" "BTC-DERIBIT-INDEX" = ([("deribit", "BTC-PERPETUAL")], true) := by
  -- Both symbols are added through the loop that the process runs.
  have completes : ∃ mapping : Mapping, updateAll true deribitSymbols
      [create "test" "deribit" (single "BTC-DERIBIT-INDEX" "BTC")
        [single "BTC-PERPETUAL" "BTC"]] = .ok [mapping] ∧ mapping.exchange = "deribit" ∧
      mapping.dispatch "other" "BTC-DERIBIT-INDEX" = ([("deribit", "BTC-PERPETUAL")], true) :=
    ⟨_, rfl, rfl, rfl⟩
  obtain ⟨mapping, done, exchange, dispatched⟩ := completes
  refine ⟨mapping, updateAll_built ?_ done mapping (List.mem_singleton_self _), exchange,
    dispatched⟩
  intro fresh member
  rw [List.mem_singleton.mp member]
  rfl

/-- The exchanges are not kept apart for the index, which has a target. -/
theorem apart_iff_deribit : ∃ mapping : Mapping, Built mapping deribitSymbols ∧
    (Apart (fun _ _ => true) "other" "BTC-DERIBIT-INDEX" [mapping] ↔
      ∀ item ∈ [(mapping, deribitSymbols)], item.1.exchange ≠ "other" →
        ¬ HasTargets item.1 item.2 "BTC-DERIBIT-INDEX") := by
  -- The one mapping is built, which is all that the theorem asks for.
  obtain ⟨mapping, built, -, -⟩ := built_deribit
  exact ⟨mapping, built, @apart_iff (fun _ _ => true) "other" "BTC-DERIBIT-INDEX"
    [(mapping, deribitSymbols)] (by simpa using built)⟩

/-- An index of the same name that was received from another exchange reaches the perpetual. -/
theorem not_apart : ∃ mapping : Mapping, Built mapping deribitSymbols ∧
    mapping.exchange ≠ "other" ∧
    mapping.dispatch "other" "BTC-DERIBIT-INDEX" ≠ ([], false) ∧
    ∀ hasMarket : String → String → Bool, hasMarket "deribit" "BTC-PERPETUAL" = true →
      ("deribit", "BTC-PERPETUAL") ∈
        (broadcast hasMarket "other" "BTC-DERIBIT-INDEX" [mapping]).1 := by
  -- The mapping belongs to another exchange and calls back all the same.
  obtain ⟨mapping, built, exchange, dispatched⟩ := built_deribit
  refine ⟨mapping, built, by rw [exchange]; decide, by rw [dispatched]; decide, ?_⟩
  intro hasMarket present
  simp [broadcast, dispatched, present]

end Mapping

end FixBridge
