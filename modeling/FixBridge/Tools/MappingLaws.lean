import FixBridge.Library.Join
import Mathlib.Data.Set.Lattice
import Mathlib.Tactic.Convert
import FixBridge.Tools.Mapping

/-! The incrementally maintained broadcast table is the join of the sources with the targets. -/

namespace FixBridge

namespace Mapping

/-- The source table read as filed symbols. -/
def sources (mapping : Mapping) : Set (String × String) :=
  {filed | mapping.source.lookup filed.1 = some filed.2}

/-- The target table read as filed symbols. -/
def targets (mapping : Mapping) : Set (String × String) :=
  {filed | filed.2 ∈ mapping.target.at_ filed.1}

/-- The outbound table read as pairs of a source and a target symbol. -/
def links (mapping : Mapping) : Set (String × String) :=
  {link | link.2 ∈ mapping.outbound.at_ link.1}

/-- A symbol is filed as a source under the key that leads to it. -/
@[simp] theorem mem_sources {mapping : Mapping} {key symbol : String} :
    (key, symbol) ∈ mapping.sources ↔ mapping.source.lookup key = some symbol :=
  Iff.rfl

/-- A symbol is filed as a target under the keys whose sets hold it. -/
@[simp] theorem mem_targets {mapping : Mapping} {key symbol : String} :
    (key, symbol) ∈ mapping.targets ↔ symbol ∈ mapping.target.at_ key :=
  Iff.rfl

/-- A target is linked from the sources whose sets hold it. -/
@[simp] theorem mem_links {mapping : Mapping} {source target : String} :
    (source, target) ∈ mapping.links ↔ target ∈ mapping.outbound.at_ source :=
  Iff.rfl

/-- No entry of a table is an empty set. -/
def Filled (table : Table String (KeySet String)) : Prop :=
  ∀ key symbols, table.lookup key = some symbols → ∃ symbol, symbol ∈ symbols

/-- The outbound table is the join of the other two tables, and only matched keys have entries. -/
structure Joined (mapping : Mapping) : Prop where
  /-- The links are the symbols that share a key. -/
  links_eq : mapping.links = Join.pairs mapping.sources mapping.targets
  /-- A key is present only for the sake of some target. -/
  targetFilled : Filled mapping.target
  /-- A source is present only for the sake of some target. -/
  outboundFilled : Filled mapping.outbound

/-- Nothing is joined before the first symbol. -/
theorem create_joined (name exchange : String) (sourceRegex : Pattern)
    (targetsRegex : List Pattern) : (create name exchange sourceRegex targetsRegex).Joined where
  links_eq := by
    -- All three tables are empty, and so are the links.
    ext ⟨first, second⟩
    simp [links, sources, create, default]
  targetFilled := by simp [Filled, create]
  outboundFilled := by simp [Filled, create]

/-- Overwriting an entry with a nonempty set leaves no empty entry. -/
theorem Filled.insert {table : Table String (KeySet String)} (filled : Filled table)
    {key symbol : String} {symbols : KeySet String} (member : symbol ∈ symbols) :
    Filled (table.insert key symbols) := by
  -- The entry that is overwritten is nonempty now, and the others were before.
  intro other found located
  rw [AList.lookup_insert_eq] at located
  split at located
  · cases located
    exact ⟨symbol, member⟩
  · exact filled other found located

/-- A subscript that finds a member has found an entry. -/
theorem at_of_lookup {table : Table String (KeySet String)} {key : String}
    {symbols : KeySet String} (located : table.lookup key = some symbols) :
    table.at_ key = symbols := by
  simp [AList.at_, located]

/-- The loop over waiting targets adds exactly these targets. -/
theorem mem_emplaceAll {assertions : Bool} {waiting : List String} {before after : KeySet String}
    (done : emplaceAll assertions waiting before = .ok after) (symbol : String) :
    symbol ∈ after ↔ symbol ∈ before ∨ symbol ∈ waiting := by
  -- The loop consumes the waiting targets one by one and may stop at any of them.
  induction waiting generalizing before with
  | nil =>
    simp only [emplaceAll, Except.ok.injEq] at done
    simp [done]
  | cons target rest ih =>
    simp only [emplaceAll] at done
    -- The assertion either passes or ends the loop with an error.
    cases checked : assert assertions (before.add target).2 with
    | error abort => simp only [checked, Bind.bind, Except.bind, reduceCtorEq] at done
    | ok _ =>
      simp only [checked, Bind.bind, Except.bind] at done
      rw [ih done, AList.mem_add]
      simp only [List.mem_cons]
      tauto

/-- A source is added under a key that has none, and only two tables change. -/
theorem addSource_ok {assertions : Bool} {key symbol : String} {mapping after : Mapping}
    (done : mapping.addSource assertions key symbol = .ok after) :
    key ∉ mapping.source ∧ ∃ outbound,
      after = { mapping with source := mapping.source.insert key symbol, outbound } ∧
      ((mapping.target.lookup key = none ∧ outbound = mapping.outbound) ∨
        ∃ symbols joined, mapping.target.lookup key = some symbols ∧
          emplaceAll assertions symbols.keys (mapping.outbound.at_ symbol) = .ok joined ∧
          outbound = mapping.outbound.insert symbol joined) := by
  -- A key with a source is refused with an error, so that it cannot be present.
  unfold addSource at done
  by_cases present : key ∈ mapping.source
  · simp [AList.emplace_of_mem present, Bind.bind, Except.bind, throw, throwThe,
      MonadExceptOf.throw] at done
  · refine ⟨present, ?_⟩
    -- The rest depends on whether targets are waiting for the key.
    simp only [AList.emplace_of_notMem present, Bool.not_true, Bool.false_eq_true, if_false,
      Bind.bind, Except.bind, Pure.pure, Except.pure] at done
    cases located : mapping.target.lookup key with
    | none =>
      simp only [located, Except.ok.injEq] at done
      exact ⟨mapping.outbound, done.symm, Or.inl ⟨rfl, rfl⟩⟩
    | some symbols =>
      simp only [located] at done
      -- The loop over them must have completed, because the call did.
      cases looped : emplaceAll assertions symbols.keys (mapping.outbound.at_ symbol) with
      | error abort => simp [looped] at done
      | ok joined =>
        simp only [looped, Except.ok.injEq] at done
        exact ⟨_, done.symm, Or.inr ⟨symbols, joined, rfl, looped, rfl⟩⟩

/-- A target is added once under a key, and only two tables change. -/
theorem addTarget_ok {assertions : Bool} {key symbol : String} {mapping after : Mapping}
    (done : mapping.addTarget assertions key symbol = .ok after) :
    symbol ∉ mapping.target.at_ key ∧ ∃ outbound,
      after = { mapping with
        target := mapping.target.insert key ((mapping.target.at_ key).add symbol).1, outbound } ∧
      ((mapping.source.lookup key = none ∧ outbound = mapping.outbound) ∨
        ∃ source, mapping.source.lookup key = some source ∧
          outbound = mapping.outbound.insert source
            ((mapping.outbound.at_ source).add symbol).1) := by
  -- A symbol that is filed already is refused with an error.
  unfold addTarget at done
  by_cases present : symbol ∈ mapping.target.at_ key
  · simp [present, Bind.bind, Except.bind, throw, throwThe, MonadExceptOf.throw] at done
  · refine ⟨present, ?_⟩
    -- The rest depends on whether a source was filed under the key before.
    simp only [AList.add_snd, present, not_false_eq_true, decide_true, Bool.not_true,
      Bool.false_eq_true, if_false, Bind.bind, Except.bind, Pure.pure, Except.pure] at done
    cases located : mapping.source.lookup key with
    | none =>
      simp only [located, Except.ok.injEq] at done
      exact ⟨mapping.outbound, done.symm, Or.inl ⟨rfl, rfl⟩⟩
    | some source =>
      simp only [located] at done
      -- The assertion cannot have failed, because the call completed.
      split at done
      · simp at done
      · simp only [Except.ok.injEq] at done
        exact ⟨_, done.symm, Or.inr ⟨source, rfl, rfl⟩⟩

/-- Adding a source files it and joins it with the targets that came before it. -/
theorem addSource_joined {assertions : Bool} {key symbol : String} {mapping after : Mapping}
    (joined : mapping.Joined) (done : mapping.addSource assertions key symbol = .ok after) :
    after.Joined ∧ after.sources = insert (key, symbol) mapping.sources ∧
      ∃ source outbound, after = { mapping with source, outbound } := by
  obtain ⟨absent, outbound, rfl, effect⟩ := addSource_ok done
  -- The source table gains one entry, under a key that had none.
  have filed : ({ mapping with source := mapping.source.insert key symbol, outbound } :
      Mapping).sources = insert (key, symbol) mapping.sources := by
    ext ⟨other, found⟩
    have nobody : mapping.source.lookup key = none := AList.lookup_eq_none.mpr absent
    by_cases same : other = key
    · subst same
      simp [sources, nobody, eq_comm]
    · simp [sources, same]
  refine ⟨?_, filed, _, _, rfl⟩
  -- Either no target was waiting for the key, or the loop has linked all that were.
  rcases effect with ⟨unmatched, rfl⟩ | ⟨symbols, extended, matched, looped, rfl⟩
  · refine ⟨?_, joined.targetFilled, joined.outboundFilled⟩
    -- No target is filed under the key, so the new source is joined with nothing.
    have nothing : {pair : String × String | pair.1 = symbol ∧ (key, pair.2) ∈
        mapping.targets} = ∅ := by
      ext pair
      simp [AList.at_, unmatched, default]
    rw [filed, Join.pairs_insert_left]
    show mapping.links = Join.pairs mapping.sources mapping.targets ∪
      {pair | pair.1 = symbol ∧ (key, pair.2) ∈ mapping.targets}
    rw [nothing, Set.union_empty, joined.links_eq]
  · obtain ⟨target, member⟩ := joined.targetFilled key symbols matched
    have extends_ := mem_emplaceAll looped
    refine ⟨?_, joined.targetFilled,
      joined.outboundFilled.insert ((extends_ target).mpr (Or.inr member))⟩
    -- The new source is linked with the targets of its key, which are those that waited.
    rw [filed, Join.pairs_insert_left]
    show _ = Join.pairs mapping.sources mapping.targets ∪
      {pair | pair.1 = symbol ∧ (key, pair.2) ∈ mapping.targets}
    rw [← joined.links_eq]
    ext ⟨first, second⟩
    by_cases same : first = symbol
    · subst same
      simp [extends_ second, at_of_lookup matched, AList.mem_keys]
    · simp [same]

/-- Adding a target files it and joins it with the source that came before it. -/
theorem addTarget_joined {assertions : Bool} {key symbol : String} {mapping after : Mapping}
    (joined : mapping.Joined) (done : mapping.addTarget assertions key symbol = .ok after) :
    after.Joined ∧ after.targets = insert (key, symbol) mapping.targets ∧
      ∃ target outbound, after = { mapping with target, outbound } := by
  obtain ⟨absent, outbound, rfl, effect⟩ := addTarget_ok done
  -- The target's key keeps what it had and gains the symbol.
  have filed : ({ mapping with
      target := mapping.target.insert key ((mapping.target.at_ key).add symbol).1, outbound } :
      Mapping).targets = insert (key, symbol) mapping.targets := by
    ext ⟨other, found⟩
    by_cases same : other = key
    · subst same
      simp [targets]
    · simp [targets, same]
  refine ⟨?_, filed, _, _, rfl⟩
  -- Neither table that is written to receives an empty set.
  have added : ∀ symbols : KeySet String, symbol ∈ (symbols.add symbol).1 := by simp
  have targetFilled : Filled
      (mapping.target.insert key ((mapping.target.at_ key).add symbol).1) :=
    joined.targetFilled.insert (added _)
  rcases effect with ⟨unmatched, rfl⟩ | ⟨source, matched, rfl⟩
  · refine ⟨?_, targetFilled, joined.outboundFilled⟩
    -- No source is filed under the key, so the new target is joined with nothing.
    have nothing : {pair : String × String | pair.2 = symbol ∧ (key, pair.1) ∈
        mapping.sources} = ∅ := by
      ext pair
      simp [unmatched]
    rw [filed, Join.pairs_insert_right]
    show mapping.links = Join.pairs mapping.sources mapping.targets ∪
      {pair | pair.2 = symbol ∧ (key, pair.1) ∈ mapping.sources}
    rw [nothing, Set.union_empty, joined.links_eq]
  · refine ⟨?_, targetFilled, joined.outboundFilled.insert (added _)⟩
    -- The new target is linked with the one source of its key.
    rw [filed, Join.pairs_insert_right]
    show _ = Join.pairs mapping.sources mapping.targets ∪
      {pair | pair.2 = symbol ∧ (key, pair.1) ∈ mapping.sources}
    rw [← joined.links_eq]
    ext ⟨first, second⟩
    by_cases same : first = source
    · subst same
      simp [matched, or_comm]
    · simp [same, matched, Ne.symm same]

/-- The keys that a pattern extracts from the symbols of a set, filed with the symbols. -/
def filedBy (regex : Pattern) (symbols : Set String) : Set (String × String) :=
  {filed | filed.2 ∈ symbols ∧ regex.extract filed.2 = (true, filed.1)}

/-- The source half of an addition files the symbol under its extracted key. -/
theorem matchSource_joined {assertions : Bool} {symbol : String} {mapping after : Mapping}
    {result : Bool} (joined : mapping.Joined)
    (done : matchSource assertions symbol mapping = .ok (after, result)) :
    after.Joined ∧ after.sources = mapping.sources ∪ filedBy mapping.sourceRegex {symbol} ∧
      ∃ source outbound, after = { mapping with source, outbound } := by
  unfold matchSource at done
  -- Whether the pattern matches decides whether anything is filed.
  rcases extracted : mapping.sourceRegex.extract symbol with ⟨whole, key⟩
  cases whole with
  | false =>
    simp only [extracted, Bool.false_eq_true, if_false, Pure.pure, Except.pure, Except.ok.injEq,
      Prod.mk.injEq] at done
    obtain ⟨rfl, -⟩ := done
    refine ⟨joined, ?_, _, _, rfl⟩
    -- A symbol that does not match is filed under no key.
    ext ⟨other, found⟩
    simp only [filedBy, Set.mem_union, Set.mem_ofPred_eq, Set.mem_singleton_iff]
    constructor
    · exact Or.inl
    · rintro (member | ⟨rfl, matched⟩)
      · exact member
      · simp [extracted] at matched
  | true =>
    simp only [extracted, if_true] at done
    cases added : mapping.addSource assertions key symbol with
    | error abort => simp [added, Bind.bind, Except.bind] at done
    | ok next =>
      simp only [added, Bind.bind, Except.bind, Pure.pure, Except.pure, Except.ok.injEq,
        Prod.mk.injEq] at done
      obtain ⟨rfl, -⟩ := done
      obtain ⟨kept, filed, same⟩ := addSource_joined joined added
      refine ⟨kept, filed.trans ?_, same⟩
      -- A symbol that matches is filed under the key that was extracted, and under no other.
      ext ⟨other, found⟩
      simp only [filedBy, Set.mem_insert_iff, Set.mem_union, Set.mem_ofPred_eq,
        Set.mem_singleton_iff, Prod.mk.injEq]
      constructor
      · rintro (⟨rfl, rfl⟩ | member)
        · exact Or.inr ⟨rfl, extracted⟩
        · exact Or.inl member
      · rintro (member | ⟨rfl, matched⟩)
        · exact Or.inr member
        · rw [extracted, Prod.mk.injEq] at matched
          exact Or.inl ⟨matched.2.symm, rfl⟩

/-- The target half of an addition files the symbol under every extracted key. -/
theorem matchTargets_joined {assertions : Bool} {symbol : String} {regexes : List Pattern}
    {mapping after : Mapping} {start result : Bool} (joined : mapping.Joined)
    (done : matchTargets assertions symbol regexes mapping start = .ok (after, result)) :
    after.Joined ∧
      after.targets = mapping.targets ∪ (⋃ regex ∈ regexes, filedBy regex {symbol}) ∧
      ∃ target outbound, after = { mapping with target, outbound } := by
  -- The patterns are tried in order, and the tables fit together after each of them.
  induction regexes generalizing mapping start with
  | nil =>
    simp only [matchTargets, Except.ok.injEq, Prod.mk.injEq] at done
    obtain ⟨rfl, -⟩ := done
    exact ⟨joined, by simp, _, _, rfl⟩
  | cons regex rest ih =>
    simp only [matchTargets] at done
    -- A pattern that matches files the symbol and then leaves the rest to the other patterns.
    rcases extracted : regex.extract symbol with ⟨whole, key⟩
    cases whole with
    | false =>
      simp only [extracted, Bool.false_eq_true, if_false] at done
      obtain ⟨kept, filed, same⟩ := ih joined done
      refine ⟨kept, filed.trans ?_, same⟩
      -- A pattern that does not match files nothing.
      have nothing : filedBy regex {symbol} = ∅ := by
        ext ⟨other, found⟩
        simp only [filedBy, Set.mem_ofPred_eq, Set.mem_singleton_iff, Set.mem_empty_iff_false,
          iff_false, not_and]
        rintro rfl
        simp [extracted]
      simp [nothing]
    | true =>
      simp only [extracted, if_true] at done
      cases added : mapping.addTarget assertions key symbol with
      | error abort => simp [added, Bind.bind, Except.bind] at done
      | ok next =>
        simp only [added, Bind.bind, Except.bind] at done
        obtain ⟨keptNext, filedNext, targetNext, outboundNext, rfl⟩ :=
          addTarget_joined joined added
        obtain ⟨kept, filed, target, outbound, rfl⟩ := ih keptNext done
        refine ⟨kept, ?_, _, _, rfl⟩
        -- A pattern that matches files the symbol under a single key.
        have one : filedBy regex {symbol} = {(key, symbol)} := by
          ext ⟨other, found⟩
          simp only [filedBy, Set.mem_ofPred_eq, Set.mem_singleton_iff, Prod.mk.injEq]
          constructor
          · rintro ⟨rfl, matched⟩
            rw [extracted, Prod.mk.injEq] at matched
            exact ⟨matched.2.symm, rfl⟩
          · rintro ⟨rfl, rfl⟩
            exact ⟨rfl, extracted⟩
        rw [filed, filedNext]
        simp only [List.mem_cons, Set.iUnion_iUnion_eq_or_left, one, ← Set.union_assoc]
        rw [Set.union_singleton]

/-- A mapping holds the symbols of a set when its tables file exactly what the patterns extract. -/
structure Holds (mapping : Mapping) (symbols : Set String) : Prop where
  /-- The tables fit together. -/
  joined : mapping.Joined
  /-- The processed symbols are those of the set. -/
  processed : ∀ symbol, symbol ∈ mapping.processed ↔ symbol ∈ symbols
  /-- The source pattern files the sources. -/
  sources : mapping.sources = filedBy mapping.sourceRegex symbols
  /-- Every target pattern files its targets. -/
  targets : mapping.targets = ⋃ regex ∈ mapping.targetsRegex, filedBy regex symbols

/-- The symbols of two sets are filed side by side. -/
theorem filedBy_union (regex : Pattern) (first second : Set String) :
    filedBy regex (first ∪ second) = filedBy regex first ∪ filedBy regex second := by
  -- A key is filed for a symbol of the first set or for one of the second.
  ext filed
  simp [filedBy, or_and_right]

/-- The mapping's name, exchange and patterns never change. -/
def SamePatterns (mapping after : Mapping) : Prop :=
  after.name = mapping.name ∧ after.exchange = mapping.exchange ∧
    after.sourceRegex = mapping.sourceRegex ∧ after.targetsRegex = mapping.targetsRegex

/-- A symbol of another exchange is ignored. -/
theorem add_of_ne {assertions : Bool} {exchange : String} {mapping : Mapping}
    (foreign : mapping.exchange ≠ exchange) (symbol : String) :
    mapping.add assertions exchange symbol = .ok (mapping, false) := by
  simp [add, foreign, Pure.pure, Except.pure]

/-- An addition that completes leaves the mapping holding one more symbol. -/
theorem add_holds {assertions : Bool} {symbol : String} {mapping after : Mapping} {result : Bool}
    {symbols : Set String} (holds : mapping.Holds symbols)
    (done : mapping.add assertions mapping.exchange symbol = .ok (after, result)) :
    symbol ∉ symbols ∧ after.Holds (symbols ∪ {symbol}) ∧ SamePatterns mapping after := by
  -- A symbol that was processed before is fatal, so it is a new one.
  unfold add at done
  simp only [ne_eq, not_true_eq_false, if_false] at done
  by_cases present : symbol ∈ mapping.processed
  · simp [present, Bind.bind, Except.bind, throw, throwThe, MonadExceptOf.throw] at done
  refine ⟨(holds.processed symbol).not.mp present, ?_⟩
  simp only [AList.add_snd, present, not_false_eq_true, decide_true, Bool.not_true,
    Bool.false_eq_true, if_false, Bind.bind, Except.bind] at done
  cases matched : matchSource assertions symbol
      { mapping with processed := (mapping.processed.add symbol).1 } with
  | error abort => simp [matched] at done
  | ok middle =>
    obtain ⟨next, found⟩ := middle
    simp only [matched] at done
    -- Noting the symbol as processed does not touch the tables that are joined.
    have started : ({ mapping with processed := (mapping.processed.add symbol).1 } :
        Mapping).Joined := ⟨holds.joined.links_eq, holds.joined.targetFilled,
          holds.joined.outboundFilled⟩
    obtain ⟨keptNext, filedSources, source, outboundNext, rfl⟩ :=
      matchSource_joined started matched
    obtain ⟨kept, filedTargets, target, outbound, rfl⟩ := matchTargets_joined keptNext done
    refine ⟨⟨kept, ?_, ?_, ?_⟩, rfl, rfl, rfl, rfl⟩
    · -- The processed symbols, the sources and the targets each gain what the symbol contributes.
      intro other
      simp [holds.processed other]
    · rw [filedBy_union, ← holds.sources]
      exact filedSources
    · simp only [filedBy_union, Set.iUnion_union_distrib]
      rw [← holds.targets]
      exact filedTargets

/-- The symbols that a sequence of additions gives to one exchange. -/
def symbolsOf (exchange : String) (adds : List (String × String)) : Set String :=
  {symbol | (exchange, symbol) ∈ adds}

/-- A completed sequence of additions leaves the mapping holding the symbols of its exchange. -/
theorem addAll_holds {assertions : Bool} {adds : List (String × String)}
    {mapping after : Mapping} {symbols : Set String} (holds : mapping.Holds symbols)
    (done : addAll assertions adds mapping = .ok after) :
    after.Holds (symbols ∪ symbolsOf mapping.exchange adds) ∧ SamePatterns mapping after := by
  -- The symbols that the mapping holds grow with every addition for its own exchange.
  induction adds generalizing mapping symbols with
  | nil =>
    simp only [addAll, Except.ok.injEq] at done
    subst done
    simpa [symbolsOf, SamePatterns] using holds
  | cons call rest ih =>
    obtain ⟨exchange, symbol⟩ := call
    simp only [addAll] at done
    cases added : mapping.add assertions exchange symbol with
    | error abort => simp [added, Bind.bind, Except.bind] at done
    | ok next =>
      simp only [added, Bind.bind, Except.bind] at done
      -- Only additions for the mapping's own exchange contribute.
      by_cases own : mapping.exchange = exchange
      · subst own
        obtain ⟨-, held, sameName, sameExchange, sameSource, sameTargets⟩ :=
          add_holds holds added
        obtain ⟨final, finalName, finalExchange, finalSource, finalTargets⟩ := ih held done
        refine ⟨?_, finalName.trans sameName, finalExchange.trans sameExchange,
          finalSource.trans sameSource, finalTargets.trans sameTargets⟩
        convert final using 1
        ext other
        simp [symbolsOf, sameExchange, or_assoc, or_left_comm]
      · -- An addition for another exchange contributes no symbol.
        rw [add_of_ne own] at added
        cases added
        obtain ⟨final, same⟩ := ih holds done
        refine ⟨?_, same⟩
        convert final using 1
        ext other
        simp [symbolsOf, own]

/-- A new mapping holds no symbol. -/
theorem create_holds (name exchange : String) (sourceRegex : Pattern)
    (targetsRegex : List Pattern) :
    (create name exchange sourceRegex targetsRegex).Holds ∅ where
  joined := create_joined name exchange sourceRegex targetsRegex
  processed := by simp [create]
  -- Nothing has been filed yet.
  sources := by
    ext filed
    simp [sources, filedBy, create]
  targets := by
    ext filed
    simp [targets, filedBy, create, default]

/-- The broadcasts the configuration asks for, whatever the order in which symbols arrive. -/
def Broadcasts (sourceRegex : Pattern) (targetsRegex : List Pattern) (symbols : Set String)
    (source target : String) : Prop :=
  source ∈ symbols ∧ target ∈ symbols ∧ ∃ key, sourceRegex.extract source = (true, key) ∧
    ∃ regex ∈ targetsRegex, regex.extract target = (true, key)

/-- A held symbol is linked to the symbols that it broadcasts to. -/
theorem Holds.mem_links {mapping : Mapping} {symbols : Set String} (holds : mapping.Holds symbols)
    (source target : String) : (source, target) ∈ mapping.links ↔
      Broadcasts mapping.sourceRegex mapping.targetsRegex symbols source target := by
  -- The links are a join of two filed sets, which spells out as a shared key.
  rw [holds.joined.links_eq, holds.sources, holds.targets]
  simp only [Join.mem_pairs, filedBy, Set.mem_ofPred_eq, Set.mem_iUnion, Broadcasts]
  constructor
  · intro joins
    obtain ⟨key, ⟨inSource, matched⟩, regex, member, inTarget, extracted⟩ := joins
    exact ⟨inSource, inTarget, key, matched, regex, member, extracted⟩
  · intro broadcasts
    obtain ⟨inSource, inTarget, key, matched, regex, member, extracted⟩ := broadcasts
    exact ⟨key, ⟨inSource, matched⟩, regex, member, inTarget, extracted⟩

/-- A dispatch makes one callback for every link of its symbol, under the mapping's exchange. -/
theorem dispatch_spec {mapping : Mapping} (joined : mapping.Joined) (exchange symbol : String) :
    (mapping.dispatch exchange symbol).1.Nodup ∧
    (∀ called target, (called, target) ∈ (mapping.dispatch exchange symbol).1 ↔
      called = mapping.exchange ∧ (symbol, target) ∈ mapping.links) ∧
    ((mapping.dispatch exchange symbol).2 = true ↔
      (mapping.dispatch exchange symbol).1 ≠ []) := by
  -- A symbol without an entry is dispatched to nobody.
  unfold dispatch
  cases located : mapping.outbound.lookup symbol with
  | none =>
    refine ⟨List.nodup_nil, fun called target => ?_, by simp⟩
    simp [AList.at_, located, default]
  | some symbols =>
    -- An entry is never empty, so a found entry means at least one callback.
    obtain ⟨filled, member⟩ := joined.outboundFilled symbol symbols located
    refine ⟨?_, fun called target => ?_, ?_⟩
    · exact symbols.keys_nodup.map fun first second same => (Prod.mk.inj same).2
    · simp [at_of_lookup located, AList.mem_keys, eq_comm, and_comm]
    · have nonempty : symbols.keys ≠ [] := List.ne_nil_of_mem (AList.mem_keys.mp member)
      simp [nonempty]

end Mapping

end FixBridge
