import FixBridge.Config.Usernames

/-! The subscriptions that an accepted configuration dispatches are those its document lists. -/

namespace FixBridge

namespace Config

open Document

/-- The section of symbols lists a pattern for a gateway, or for all of them under the empty name. -/
def ListsPattern (gateways : Entries) (gateway regex : String) : Prop :=
  (∃ inner node, (gateway, Node.table inner) ∈ gateways ∧
    inner.lookup "regex" = some node ∧ node.Lists regex) ∨
  (gateway = "" ∧ ∃ node, ("regex", node) ∈ gateways ∧ node.Lists regex)

/-- Subscribing a gateway adds its patterns and leaves the other gateways alone. -/
theorem mem_subscribe {gateway other regex : String} {regexes : List String} {symbols : Symbols} :
    regex ∈ (subscribe gateway regexes symbols).at_ other ↔
      regex ∈ symbols.at_ other ∨ (other = gateway ∧ regex ∈ regexes) := by
  -- The patterns are emplaced one after the other.
  induction regexes generalizing symbols with
  | nil => simp [subscribe]
  | cons first rest ih =>
    rw [subscribe, ih, AList.at_insert]
    by_cases same : other = gateway
    · subst same
      simp only [if_true, AList.mem_add, true_and, List.mem_cons]
      tauto
    · simp [same]

/-- The patterns that are read from a node are those that it lists. -/
theorem mem_subscribe_read {failure : Failure} {node : Node} {regexes : List String}
    (read : strings (.error failure) node = .ok regexes) {gateway other regex : String}
    {symbols : Symbols} :
    regex ∈ (subscribe gateway regexes symbols).at_ other ↔
      regex ∈ symbols.at_ other ∨ (other = gateway ∧ node.Lists regex) := by
  -- What was read is the list of the node, so that the general membership applies.
  obtain ⟨-, rfl⟩ := strings_ok_of_error read
  rw [mem_subscribe, mem_listed]

/-- A table lists no string itself. -/
theorem not_lists_table {entries : Entries} {value : String} :
    ¬ (Node.table entries).Lists value := by
  simp [Node.Lists]

/-- An entry of the section adds the patterns that it lists. -/
theorem parseGateway_ok {gateway : String} {node : Node} {symbols after : Symbols}
    (done : parseGateway gateway node symbols = .ok after) (other regex : String) :
    regex ∈ after.at_ other ↔
      regex ∈ symbols.at_ other ∨ ListsPattern [(gateway, node)] other regex := by
  unfold parseGateway at done
  split at done
  · next entries =>
    -- A table stands for a gateway and must have the key.
    cases found : entries.lookup "regex" with
    | none => simp [found] at done
    | some value =>
      simp only [found, bind_eq_ok, pure_eq_ok] at done
      obtain ⟨regexes, read, rfl⟩ := done
      rw [mem_subscribe_read read]
      refine or_congr_right ?_
      constructor
      · intro subscribed
        obtain ⟨rfl, lists⟩ := subscribed
        exact Or.inl ⟨entries, value, List.mem_singleton_self _, found, lists⟩
      · intro listed
        rcases listed with ⟨inner, node, member, located, lists⟩ | ⟨-, node, member, lists⟩
        · cases List.mem_singleton.mp member
          rw [found] at located
          cases located
          exact ⟨rfl, lists⟩
        · cases List.mem_singleton.mp member
          exact absurd lists not_lists_table
  · next notTable =>
    split at done
    · next named =>
      subst named
      simp only [bind_eq_ok, pure_eq_ok] at done
      obtain ⟨regexes, read, rfl⟩ := done
      rw [mem_subscribe_read read]
      refine or_congr_right ?_
      constructor
      · intro subscribed
        exact Or.inr ⟨subscribed.1, node, List.mem_singleton_self _, subscribed.2⟩
      · intro listed
        rcases listed with ⟨inner, found, member, -, -⟩ | ⟨empty, found, member, lists⟩
        · cases List.mem_singleton.mp member
          exact absurd rfl (notTable inner)
        · cases List.mem_singleton.mp member
          exact ⟨empty, lists⟩
    · cases done

/-- The section of symbols adds the patterns that its entries list. -/
theorem parseGateways_ok {gateways : Entries} {symbols after : Symbols}
    (done : parseGateways gateways symbols = .ok after) (gateway regex : String) :
    regex ∈ after.at_ gateway ↔
      regex ∈ symbols.at_ gateway ∨ ListsPattern gateways gateway regex := by
  -- What the section lists is what its first entry lists and what the others do.
  induction gateways generalizing symbols with
  | nil =>
    cases done
    simp [ListsPattern]
  | cons entry rest ih =>
    obtain ⟨first, node⟩ := entry
    simp only [parseGateways, bind_eq_ok] at done
    obtain ⟨next, parsed, looped⟩ := done
    rw [ih looped, parseGateway_ok parsed, or_assoc]
    refine or_congr_right ?_
    simp only [ListsPattern, List.mem_cons, List.not_mem_nil, or_false]
    constructor
    · intro either
      rcases either with (⟨inner, found, member, lists⟩ | ⟨empty, found, member, lists⟩) |
        (⟨inner, found, member, lists⟩ | ⟨empty, found, member, lists⟩)
      · exact Or.inl ⟨inner, found, Or.inl member, lists⟩
      · exact Or.inr ⟨empty, found, Or.inl member, lists⟩
      · exact Or.inl ⟨inner, found, Or.inr member, lists⟩
      · exact Or.inr ⟨empty, found, Or.inr member, lists⟩
    · intro either
      rcases either with ⟨inner, found, member | member, lists⟩ |
        ⟨empty, found, member | member, lists⟩
      · exact Or.inl (Or.inl ⟨inner, found, member, lists⟩)
      · exact Or.inr (Or.inl ⟨inner, found, member, lists⟩)
      · exact Or.inl (Or.inr ⟨empty, found, member, lists⟩)
      · exact Or.inr (Or.inr ⟨empty, found, member, lists⟩)

/-- The document lists a pattern for a gateway, or for all of them under the empty name. -/
def Subscribed (document : Root) (gateway regex : String) : Prop :=
  (∃ node, (Node.table document.entries).at? ["symbols", gateway, "regex"] = some node ∧
    node.Lists regex) ∨
  (gateway = "" ∧ ∃ node, (Node.table document.entries).at? ["symbols", "regex"] = some node ∧
    node.Lists regex)

/-- What the section of symbols lists is found by following the paths of the document. -/
theorem subscribed_iff {document : Root} {gateways : Entries}
    (found : document.entries.lookup "symbols" = some (.table gateways))
    (gateway regex : String) :
    Subscribed document gateway regex ↔ ListsPattern gateways gateway regex := by
  -- No key of the section repeats, so that its entries are what its keys lead to.
  have nodup : (gateways.map Prod.fst).Nodup :=
    (document.keyed.of_mem (mem_of_lookup found)).nodup
  unfold Subscribed ListsPattern
  simp only [Node.at?, found, Option.bind_some, Option.bind_eq_some_iff]
  refine or_congr ?_ (and_congr_right fun _ => ?_)
  · constructor
    · intro path
      obtain ⟨node, ⟨outer, located, inside⟩, lists⟩ := path
      -- Only a table leads further.
      cases outer with
      | table inner =>
        simp only [Node.at?, Option.bind_eq_some_iff, Option.some_inj] at inside
        obtain ⟨value, led, rfl⟩ := inside
        exact ⟨inner, value, mem_of_lookup located, led, lists⟩
      | _ => cases inside
    · intro entry
      obtain ⟨inner, node, member, led, lists⟩ := entry
      refine ⟨node, ⟨.table inner, lookup_of_mem nodup member, ?_⟩, lists⟩
      simp [Node.at?, led]
  · constructor
    · intro path
      obtain ⟨node, ⟨value, located, same⟩, lists⟩ := path
      cases same
      exact ⟨_, mem_of_lookup located, lists⟩
    · intro entry
      obtain ⟨node, member, lists⟩ := entry
      exact ⟨node, ⟨node, lookup_of_mem nodup member, rfl⟩, lists⟩

/-- A symbol is dispatched for every pattern of a gateway. -/
theorem mem_dispatchSymbols {order : WalkOrder} {config : Config} {call : Dispatched} :
    call ∈ config.dispatchSymbols order ↔ ∃ gateway regex,
      call = .symbol regex gateway ∧ regex ∈ config.symbols.at_ gateway := by
  simp only [dispatchSymbols, List.mem_flatMap, List.mem_map, mem_visit, Prod.exists,
    AList.mem_walk]
  constructor
  · intro walked
    obtain ⟨gateway, regexes, located, regex, member, rfl⟩ := walked
    exact ⟨gateway, regex, rfl, by simpa [AList.at_, located, AList.mem_keys] using member⟩
  · intro subscribed
    obtain ⟨gateway, regex, rfl, member⟩ := subscribed
    -- A gateway without an entry has no patterns.
    cases located : config.symbols.lookup gateway with
    | none => simp [AList.at_, located, default] at member
    | some regexes =>
      refine ⟨gateway, regexes, located, regex, ?_, rfl⟩
      simpa [AList.at_, located, AList.mem_keys] using member

/-- No symbol is dispatched twice. -/
theorem nodup_dispatchSymbols (order : WalkOrder) (config : Config) :
    (config.dispatchSymbols order).Nodup := by
  unfold dispatchSymbols
  rw [List.nodup_flatMap]
  constructor
  · -- The patterns of one gateway differ from each other.
    intro entry member
    refine (visit_nodup _ entry.2.nodupKeys).map fun first second same => ?_
    cases same
    rfl
  · -- The symbols of two gateways differ in the gateway.
    have keys := AList.nodup_walk order.symbols config.symbols
    rw [List.Nodup, List.pairwise_map] at keys
    refine keys.imp fun {first second} different => ?_
    intro call left right
    simp only [List.mem_map] at left right
    obtain ⟨regex, -, rfl⟩ := left
    obtain ⟨other, -, same⟩ := right
    exact different (Dispatched.symbol.inj same).2.symm

/-- One account is dispatched for every user with one. -/
theorem dispatchAccounts_perm {settings : Settings} {libraries : Libraries} {document : Root}
    {config : Config} (accepted : Accepted settings libraries document config)
    (order : WalkOrder) :
    (config.dispatchAccounts order).Perm
      ((((describedUsers libraries document).map User.account).filter fun account =>
        account ≠ "").map .account) := by
  have walked : ((config.users.walk order.users).map Prod.snd).Perm
      (describedUsers libraries document) :=
    (AList.walk_values_perm order.users config.users).trans accepted.values
  -- The loop skips the users without an account, which a filter does as well.
  have filtered : ∀ entries : List (String × User),
      (entries.filterMap fun entry =>
        if entry.2.account = "" then none else some (Dispatched.account entry.2.account)) =
      (((entries.map Prod.snd).map User.account).filter fun account => account ≠ "").map
        .account := by
    intro entries
    induction entries with
    | nil => rfl
    | cons entry rest ih =>
      by_cases empty : entry.2.account = ""
      · simpa [List.filterMap_cons, empty] using ih
      · simpa [List.filterMap_cons, empty] using ih
  rw [dispatchAccounts, filtered]
  exact ((walked.map User.account).filter _).map _

/--
An accepted configuration dispatches its settings, the listed patterns and the users' accounts.

Every listed pattern is dispatched once for its gateway, and every account once.
-/
theorem dispatch_described {settings : Settings} {libraries : Libraries} {order : List String}
    {document : Root} {config : Config}
    (created : create settings libraries order document = .ok config) (walk : WalkOrder) :
    ∃ symbols accounts,
      config.dispatch walk =
        .settings (getOrderCancelPolicy settings) .fix :: (symbols ++ accounts) ∧
      symbols.Nodup ∧
      (∀ call, call ∈ symbols ↔ ∃ gateway regex,
        call = .symbol regex gateway ∧ Subscribed document gateway regex) ∧
      accounts.Perm ((((describedUsers libraries document).map User.account).filter
        fun account => account ≠ "").map .account) ∧
      accounts.Nodup ∧
      (settings.omsRouteByStrategy = true → accounts = []) := by
  have known := create_ok created
  have accepted := known.accepted
  have perm := dispatchAccounts_perm accepted walk
  -- When routing by strategy, the users have no accounts at all.
  have nobody : settings.omsRouteByStrategy = true →
      ((describedUsers libraries document).map User.account).filter
        (fun account => account ≠ "") = [] := by
    intro byStrategy
    rw [List.filter_eq_nil_iff]
    intro account member
    obtain ⟨user, described, rfl⟩ := List.mem_map.mp member
    simp [accepted.unaccounted byStrategy user described]
  refine ⟨config.dispatchSymbols walk, config.dispatchAccounts walk, ?_,
    nodup_dispatchSymbols walk config, fun call => ?_, perm, ?_, fun byStrategy => ?_⟩
  · rw [dispatch, known.policy]
  · -- The configuration holds the patterns that the section of symbols lists.
    obtain ⟨gateways, found, parsed⟩ := known.symbols
    rw [mem_dispatchSymbols]
    refine exists_congr fun gateway => exists_congr fun regex => and_congr_right fun _ => ?_
    rw [parseGateways_ok parsed, subscribed_iff found]
    simp [default]
  · -- The accounts are distinct when routing by account, and there are none by strategy.
    refine perm.nodup_iff.mpr (List.Nodup.map (fun first second same => ?_) ?_)
    · exact Dispatched.account.inj same
    · cases routed : settings.omsRouteByStrategy with
      | true =>
        rw [nobody routed]
        exact List.nodup_nil
      | false => exact accepted.accounts routed
  · have empty := perm
    rw [nobody byStrategy] at empty
    exact empty.eq_nil

/-- The patterns of two users' document are dispatched, that without a gateway included. -/
theorem dispatch_described_twoUsers :
    ∃ config, create byAccount plainLibraries [] twoUsers = .ok config ∧
      ∃ symbols accounts,
        config.dispatch ⟨[], fun _ => [], []⟩ =
          .settings .undefined .fix :: (symbols ++ accounts) ∧
        Dispatched.symbol ".*" "" ∈ symbols ∧ Dispatched.symbol "ETH-.*" "deribit" ∈ symbols ∧
        accounts.Perm [.account "A1", .account "A2"] := by
  -- The two users are accepted, and the handler is called as the document describes.
  obtain ⟨config, created⟩ := create_twoUsers
  obtain ⟨symbols, accounts, dispatched, -, members, perm, -, -⟩ :=
    dispatch_described created ⟨[], fun _ => [], []⟩
  refine ⟨config, created, symbols, accounts, dispatched, ?_, ?_, perm⟩
  · -- Expressions beside the gateways are listed under the empty name.
    exact (members _).mpr ⟨"", ".*", rfl, Or.inr ⟨rfl, _, rfl, Or.inl rfl⟩⟩
  · -- A table under a gateway names its expressions in `regex`.
    refine (members _).mpr ⟨"deribit", "ETH-.*", rfl, Or.inl ⟨_, rfl, Or.inr ⟨_, rfl, ?_⟩⟩⟩
    exact List.mem_cons_of_mem _ (List.mem_singleton_self _)

end Config

end FixBridge
