import FixBridge.Tools.MappingLaws

/-! A mapping aborts exactly on conflicting additions, whatever the order in which they come. -/

namespace FixBridge

namespace Mapping

/-- A call that ends in `log::fatal`, which a failed assertion is not. -/
def Fatal {α : Type} (result : Except Abort α) : Prop :=
  ∃ abort, result = .error abort ∧ abort ≠ .assertion

/-- A call that completes under a condition and is fatal without it. -/
def Decided {α : Type} (condition : Prop) (result : Except Abort α) : Prop :=
  (condition → ∃ value, result = .ok value) ∧ (¬ condition → Fatal result)

/-- Two patterns extract one and the same key from two symbols. -/
def SameKey (first second : Pattern) (symbol other : String) : Prop :=
  ∃ key, first.extract symbol = (true, key) ∧ second.extract other = (true, key)

/-- Two symbols that one mapping accepts: they differ, and so do their keys as sources. -/
def Compatible (sourceRegex : Pattern) (symbol other : String) : Prop :=
  symbol ≠ other ∧ ¬ SameKey sourceRegex sourceRegex symbol other

/-- No two entries of the target patterns extract the same key from the symbol. -/
def Separate (targetsRegex : List Pattern) (symbol : String) : Prop :=
  targetsRegex.Pairwise fun first second => ¬ SameKey first second symbol symbol

/-- Every symbol is filed as a source under one key at most. -/
def OneKey (mapping : Mapping) : Prop :=
  ∀ key other symbol, (key, symbol) ∈ mapping.sources → (other, symbol) ∈ mapping.sources →
    key = other

/-- The loop over waiting targets completes when none of them is linked already. -/
theorem emplaceAll_completes (assertions : Bool) {waiting : List String} {before : KeySet String}
    (nodup : waiting.Nodup) (fresh : ∀ symbol ∈ waiting, symbol ∉ before) :
    ∃ after, emplaceAll assertions waiting before = .ok after := by
  -- Every target is inserted, and the later ones differ from it.
  induction waiting generalizing before with
  | nil => exact ⟨before, rfl⟩
  | cons target rest ih =>
    obtain ⟨unlike, nodup⟩ := List.nodup_cons.mp nodup
    have inserted : (before.add target).2 = true := by
      simpa using fresh target List.mem_cons_self
    have later : ∀ symbol ∈ rest, symbol ∉ (before.add target).1 := by
      intro symbol member
      rw [AList.mem_add]
      intro present
      rcases present with same | present
      · exact unlike (same ▸ member)
      · exact fresh symbol (List.mem_cons_of_mem _ member) present
    obtain ⟨after, completes⟩ := ih nodup later
    refine ⟨after, ?_⟩
    simp only [emplaceAll, assert, inserted, Bool.not_true, Bool.and_false, Bool.false_eq_true,
      if_false, Bind.bind, Except.bind]
    exact completes

/-- A source is refused exactly when its key has one, if the symbol is not a source already. -/
theorem addSource_decided (assertions : Bool) {key symbol : String} {mapping : Mapping}
    (joined : mapping.Joined) (fresh : ∀ other, (other, symbol) ∉ mapping.sources) :
    Decided (key ∉ mapping.source) (mapping.addSource assertions key symbol) := by
  constructor
  · intro absent
    unfold addSource
    simp only [AList.emplace_of_notMem absent, Bool.not_true, Bool.false_eq_true, if_false,
      Bind.bind, Except.bind, Pure.pure, Except.pure]
    cases located : mapping.target.lookup key with
    | none => exact ⟨_, rfl⟩
    | some symbols =>
      -- A symbol that is not a source has no links, so that all waiting targets are inserted.
      have unlinked : ∀ target ∈ symbols.keys, target ∉ mapping.outbound.at_ symbol := by
        intro target _ linked
        rw [← mem_links, joined.links_eq, Join.mem_pairs] at linked
        obtain ⟨other, filed, -⟩ := linked
        exact fresh other filed
      obtain ⟨outbound, looped⟩ := emplaceAll_completes assertions symbols.keys_nodup unlinked
      simp only [looped]
      exact ⟨_, rfl⟩
  · intro present
    rw [not_not] at present
    -- The key is occupied, which is reported with both symbols.
    refine ⟨.multipleSourceMappings key symbol (mapping.source.at_ key), ?_, by simp⟩
    unfold addSource
    simp [AList.emplace_of_mem present, Bind.bind, Except.bind, throw, throwThe,
      MonadExceptOf.throw]

/-- A target is refused exactly when it is filed under the key, if sources have one key each. -/
theorem addTarget_decided (assertions : Bool) {key symbol : String} {mapping : Mapping}
    (joined : mapping.Joined) (oneKey : mapping.OneKey) :
    Decided ((key, symbol) ∉ mapping.targets) (mapping.addTarget assertions key symbol) := by
  rw [mem_targets]
  constructor
  · intro absent
    unfold addTarget
    simp only [AList.add_snd, absent, not_false_eq_true, decide_true, Bool.not_true,
      Bool.false_eq_true, if_false, Bind.bind, Except.bind, Pure.pure, Except.pure]
    cases located : mapping.source.lookup key with
    | none => exact ⟨_, rfl⟩
    | some source =>
      -- A link from this source would come from its only key, where the symbol is not filed.
      have unlinked : symbol ∉ mapping.outbound.at_ source := by
        intro linked
        rw [← mem_links, joined.links_eq, Join.mem_pairs] at linked
        obtain ⟨other, filed, target⟩ := linked
        have same : other = key := oneKey other key source filed located
        subst same
        exact absent target
      simp only [assert, unlinked, not_false_eq_true, decide_true, Bool.not_true, Bool.and_false,
        Bool.false_eq_true, if_false]
      exact ⟨_, rfl⟩
  · intro present
    rw [not_not] at present
    -- The symbol is there already, which is reported with the key.
    refine ⟨.multipleInsertions key symbol, ?_, by simp⟩
    simp [addTarget, present, Bind.bind, Except.bind, throw, throwThe, MonadExceptOf.throw]

/-- The target half is refused exactly when some key repeats or is occupied by the symbol. -/
theorem matchTargets_decided (assertions : Bool) {symbol : String} {regexes : List Pattern}
    {mapping : Mapping} (result : Bool) (joined : mapping.Joined) (oneKey : mapping.OneKey) :
    Decided
      (Separate regexes symbol ∧
        ∀ regex ∈ regexes, ∀ key, regex.extract symbol = (true, key) →
          (key, symbol) ∉ mapping.targets)
      (matchTargets assertions symbol regexes mapping result) := by
  -- The patterns are tried in order, and each match occupies one key for those that follow.
  induction regexes generalizing mapping result with
  | nil => exact ⟨fun _ => ⟨_, rfl⟩, fun refused => absurd ⟨List.Pairwise.nil, by simp⟩ refused⟩
  | cons regex rest ih =>
    rcases extracted : regex.extract symbol with ⟨whole, key⟩
    cases whole with
    | false =>
      simp only [matchTargets, extracted, Bool.false_eq_true, if_false]
      -- A pattern that does not match has no part in the condition.
      convert ih result joined oneKey using 1
      simp [Separate, SameKey, extracted]
    | true =>
      simp only [matchTargets, extracted, if_true, Bind.bind, Except.bind]
      obtain ⟨completes, refuses⟩ := addTarget_decided assertions joined oneKey
      by_cases present : (key, symbol) ∈ mapping.targets
      · -- The key is occupied, so that this pattern is fatal.
        obtain ⟨abort, failed, fatal⟩ := refuses (not_not.mpr present)
        refine ⟨fun condition => ?_, fun _ => ⟨abort, by rw [failed], fatal⟩⟩
        exact absurd present (condition.2 regex List.mem_cons_self key extracted)
      · obtain ⟨after, added⟩ := completes present
        obtain ⟨joinedAfter, filed, target, outbound, rfl⟩ := addTarget_joined joined added
        simp only [added]
        -- The rest must avoid the key too, which is what being separate from this pattern means.
        convert ih true joinedAfter oneKey using 1
        simp only [Separate, List.pairwise_cons, List.forall_mem_cons, filed,
          Set.mem_insert_iff, Prod.mk.injEq, and_true, not_or, SameKey, extracted, true_and,
          not_exists, not_and]
        constructor
        · intro condition
          obtain ⟨⟨apart, separate⟩, -, unfiled⟩ := condition
          refine ⟨separate, fun other member found matched => ⟨?_, ?_⟩⟩
          · intro same
            exact apart other member found same.symm matched
          · exact unfiled other member found matched
        · intro condition
          obtain ⟨separate, unfiled⟩ := condition
          refine ⟨⟨?_, separate⟩, ?_, fun other member found matched =>
            (unfiled other member found matched).2⟩
          · intro other member found same matched
            exact (unfiled other member found matched).1 same.symm
          · intro found same
            rw [← same]
            exact present

/-- The source half is refused exactly when a held symbol has the same source key. -/
theorem matchSource_decided (assertions : Bool) {symbol : String} {mapping : Mapping}
    (joined : mapping.Joined) (fresh : ∀ key, (key, symbol) ∉ mapping.sources) :
    Decided (∀ key, mapping.sourceRegex.extract symbol = (true, key) → key ∉ mapping.source)
      (matchSource assertions symbol mapping) := by
  unfold matchSource
  rcases extracted : mapping.sourceRegex.extract symbol with ⟨whole, key⟩
  cases whole with
  | false =>
    -- Nothing is filed for a symbol that does not match.
    refine ⟨fun _ => ⟨_, rfl⟩, fun refused => absurd ?_ refused⟩
    simp
  | true =>
    obtain ⟨completes, refuses⟩ := addSource_decided assertions joined fresh
    simp only [if_true, Bind.bind, Except.bind]
    constructor
    · intro condition
      obtain ⟨after, added⟩ := completes (condition key rfl)
      simp only [added]
      exact ⟨_, rfl⟩
    · intro refused
      have present : ¬ key ∉ mapping.source := by
        intro absent
        apply refused
        intro other same
        cases same
        exact absent
      obtain ⟨abort, failed, fatal⟩ := refuses present
      exact ⟨abort, by rw [failed], fatal⟩

/-- Sources that are filed by one pattern have one key each. -/
theorem oneKey_of_filedBy {mapping : Mapping} {regex : Pattern} {symbols : Set String}
    (filed : mapping.sources = filedBy regex symbols) : mapping.OneKey := by
  intro key other symbol first second
  rw [filed] at first second
  -- Both keys were extracted from the symbol by the pattern.
  have same := first.2.symm.trans second.2
  exact (Prod.mk.inj same).2

/-- A key of the symbol is free exactly when no held symbol shares it. -/
theorem Holds.free_iff {mapping : Mapping} {symbols : Set String} (holds : mapping.Holds symbols)
    (symbol : String) :
    (∀ key, mapping.sourceRegex.extract symbol = (true, key) → key ∉ mapping.source) ↔
      ∀ other ∈ symbols, ¬ SameKey mapping.sourceRegex mapping.sourceRegex other symbol := by
  -- A key is occupied by a held symbol from which it is extracted.
  have occupied : ∀ key, key ∈ mapping.source ↔
      ∃ other ∈ symbols, mapping.sourceRegex.extract other = (true, key) := by
    intro key
    rw [← AList.lookup_isSome, Option.isSome_iff_exists]
    simp only [← mem_sources, holds.sources, filedBy, Set.mem_ofPred_eq]
  constructor
  · intro free other member shared
    obtain ⟨key, first, second⟩ := shared
    exact free key second ((occupied key).mpr ⟨other, member, first⟩)
  · intro unlike key extracted present
    obtain ⟨other, member, same⟩ := (occupied key).mp present
    exact unlike other member ⟨key, same, extracted⟩

/-- An addition is refused exactly when the symbol conflicts with the held ones or with itself. -/
theorem add_decided (assertions : Bool) (symbol : String) {mapping : Mapping}
    {symbols : Set String} (holds : mapping.Holds symbols) :
    Decided
      ((∀ other ∈ symbols, Compatible mapping.sourceRegex other symbol) ∧
        Separate mapping.targetsRegex symbol)
      (mapping.add assertions mapping.exchange symbol) := by
  unfold add
  simp only [ne_eq, not_true_eq_false, if_false]
  by_cases present : symbol ∈ mapping.processed
  · -- A held symbol is not compatible with itself.
    have held : symbol ∈ symbols := (holds.processed symbol).mp present
    refine ⟨fun condition => absurd rfl (condition.1 symbol held).1, fun _ => ?_⟩
    refine ⟨.unexpectedSymbol symbol, ?_, by simp⟩
    simp [present, Bind.bind, Except.bind, throw, throwThe, MonadExceptOf.throw]
  have unheld : symbol ∉ symbols := (holds.processed symbol).not.mp present
  simp only [AList.add_snd, present, not_false_eq_true, decide_true, Bool.not_true,
    Bool.false_eq_true, if_false, Bind.bind, Except.bind]
  -- Noting the symbol as processed does not touch the tables that are joined.
  have started : ({ mapping with processed := (mapping.processed.add symbol).1 } :
      Mapping).Joined := ⟨holds.joined.links_eq, holds.joined.targetFilled,
        holds.joined.outboundFilled⟩
  have fresh : ∀ key, (key, symbol) ∉ mapping.sources := by
    intro key filed
    rw [holds.sources] at filed
    exact unheld filed.1
  obtain ⟨completes, refuses⟩ := matchSource_decided assertions started fresh
  have different : ∀ other ∈ symbols, other ≠ symbol := by
    intro other member same
    exact unheld (same ▸ member)
  by_cases free : ∀ other ∈ symbols,
      ¬ SameKey mapping.sourceRegex mapping.sourceRegex other symbol
  · obtain ⟨⟨next, found⟩, matched⟩ := completes ((holds.free_iff symbol).mpr free)
    simp only [matched]
    obtain ⟨joined, filed, source, outbound, rfl⟩ := matchSource_joined started matched
    -- The sources are those of one pattern still, and the symbol has no target key yet.
    have oneKey : OneKey { mapping with
        processed := (mapping.processed.add symbol).1, source, outbound } := by
      apply @oneKey_of_filedBy _ mapping.sourceRegex (symbols ∪ {symbol})
      rw [filedBy_union, ← holds.sources]
      exact filed
    have untargeted : ∀ key, (key, symbol) ∉ mapping.targets := by
      intro key target
      rw [holds.targets, Set.mem_iUnion₂] at target
      obtain ⟨regex, _, target⟩ := target
      exact unheld target.1
    convert matchTargets_decided assertions found joined oneKey using 1
    constructor
    · intro condition
      exact ⟨condition.2, fun _ _ key _ => untargeted key⟩
    · intro condition
      exact ⟨fun other member => ⟨different other member, free other member⟩, condition.1⟩
  · -- The source half has failed already, whatever the target patterns are.
    obtain ⟨abort, failed, fatal⟩ := refuses ((holds.free_iff symbol).not.mpr free)
    refine ⟨fun condition => absurd ?_ free, fun _ => ⟨abort, by simp only [failed], fatal⟩⟩
    intro other member
    exact (condition.1 other member).2

/-- The symbols that a list of additions gives to one exchange, in order. -/
def addedFor (exchange : String) (adds : List (String × String)) : List String :=
  (adds.filter fun call => call.1 = exchange).map Prod.snd

/-- A list of additions is refused exactly when two of its symbols conflict, or one with itself. -/
theorem addAll_decided (assertions : Bool) (adds : List (String × String)) {mapping : Mapping}
    {symbols : Set String} (holds : mapping.Holds symbols) :
    Decided
      ((addedFor mapping.exchange adds).Pairwise (Compatible mapping.sourceRegex) ∧
        ∀ symbol ∈ addedFor mapping.exchange adds,
          (∀ other ∈ symbols, Compatible mapping.sourceRegex other symbol) ∧
            Separate mapping.targetsRegex symbol)
      (addAll assertions adds mapping) := by
  -- A symbol that is added joins the held symbols, with which the later ones are compared.
  induction adds generalizing mapping symbols with
  | nil =>
    refine ⟨fun _ => ⟨_, rfl⟩, fun refused => absurd ?_ refused⟩
    simp [addedFor]
  | cons call rest ih =>
    obtain ⟨exchange, symbol⟩ := call
    simp only [addAll, Bind.bind, Except.bind]
    by_cases own : mapping.exchange = exchange
    · subst own
      have added : addedFor mapping.exchange ((mapping.exchange, symbol) :: rest) =
          symbol :: addedFor mapping.exchange rest := by
        simp [addedFor]
      rw [added]
      obtain ⟨completes, refuses⟩ := add_decided assertions symbol holds
      by_cases accepted : (∀ other ∈ symbols, Compatible mapping.sourceRegex other symbol) ∧
          Separate mapping.targetsRegex symbol
      · obtain ⟨⟨next, found⟩, done⟩ := completes accepted
        simp only [done]
        obtain ⟨-, held, -, sameExchange, sameSource, sameTargets⟩ := add_holds holds done
        -- What remains to be checked for the rest is relative to one more symbol.
        convert ih held using 1
        simp only [sameExchange, sameSource, sameTargets, List.pairwise_cons,
          List.forall_mem_cons]
        constructor
        · intro condition
          obtain ⟨⟨first, separate⟩, -, others⟩ := condition
          refine ⟨separate, fun later member => ⟨?_, (others later member).2⟩⟩
          intro other found
          rcases found with before | rfl
          · exact (others later member).1 other before
          · exact first later member
        · intro condition
          obtain ⟨separate, others⟩ := condition
          refine ⟨⟨fun later member => ?_, separate⟩, accepted, fun later member => ⟨?_, ?_⟩⟩
          · exact (others later member).1 symbol (Or.inr rfl)
          · exact fun other before => (others later member).1 other (Or.inl before)
          · exact (others later member).2
      · -- The call on this symbol ends the list.
        obtain ⟨abort, failed, fatal⟩ := refuses accepted
        refine ⟨fun condition => absurd ?_ accepted, fun _ => ⟨abort, by simp only [failed], fatal⟩⟩
        exact condition.2 symbol List.mem_cons_self
    · -- A call for another exchange changes nothing.
      have added : addedFor mapping.exchange ((exchange, symbol) :: rest) =
          addedFor mapping.exchange rest := by
        simp [addedFor, Ne.symm own]
      rw [added, add_of_ne own]
      exact ih holds

/-- Two patterns that share a key do so in either order. -/
theorem SameKey.symm {first second : Pattern} {symbol other : String}
    (shared : SameKey first second symbol other) : SameKey second first other symbol := by
  -- The same key serves both ways.
  obtain ⟨key, one, two⟩ := shared
  exact ⟨key, two, one⟩

/-- Being compatible does not depend on which symbol comes first. -/
theorem Compatible.symm {sourceRegex : Pattern} {symbol other : String}
    (compatible : Compatible sourceRegex symbol other) : Compatible sourceRegex other symbol :=
  ⟨compatible.1.symm, fun shared => compatible.2 shared.symm⟩

/-- Symbols are compatible throughout when none is repeated and different ones have own keys. -/
theorem pairwise_compatible {sourceRegex : Pattern} {symbols : List String} :
    symbols.Pairwise (Compatible sourceRegex) ↔ symbols.Nodup ∧ ∀ symbol ∈ symbols,
      ∀ other ∈ symbols, symbol ≠ other → ¬ SameKey sourceRegex sourceRegex symbol other := by
  constructor
  · intro compatible
    refine ⟨compatible.imp fun apart => apart.1, ?_⟩
    -- The relation is symmetric, so that the positions in the list do not matter.
    intro symbol member other found different
    have symmetric : Std.Symm (Compatible sourceRegex) := ⟨fun _ _ => Compatible.symm⟩
    exact (compatible.forall member found different).2
  · intro condition
    obtain ⟨nodup, unlike⟩ := condition
    apply nodup.pairwise_of_forall_ne
    intro symbol member other found different
    exact ⟨different, unlike symbol member other found different⟩

/-- Being separate, by the positions of the target patterns. -/
theorem separate_iff {targetsRegex : List Pattern} {symbol : String} :
    Separate targetsRegex symbol ↔ ∀ i j : Fin targetsRegex.length, i < j →
      ¬ SameKey (targetsRegex.get i) (targetsRegex.get j) symbol symbol :=
  List.pairwise_iff_get

/--
Additions to a new mapping end in `log::fatal` exactly for three kinds of conflict.

A symbol is added twice, two symbols share a source key, or a symbol has a target key twice.
-/
theorem addAll_fatal_iff (assertions : Bool) (name exchange : String) (sourceRegex : Pattern)
    (targetsRegex : List Pattern) (adds : List (String × String)) :
    let mapping := create name exchange sourceRegex targetsRegex
    let symbols := addedFor exchange adds
    let result := addAll assertions adds mapping
    (Fatal result ↔
      (∃ symbol, 1 < symbols.count symbol) ∨
      (∃ symbol ∈ symbols, ∃ other ∈ symbols,
        symbol ≠ other ∧ SameKey sourceRegex sourceRegex symbol other) ∨
      (∃ symbol ∈ symbols, ∃ i j : Fin targetsRegex.length,
        i < j ∧ SameKey (targetsRegex.get i) (targetsRegex.get j) symbol symbol)) ∧
    (¬ Fatal result ↔ ∃ after, result = .ok after) ∧
    result ≠ .error .assertion ∧
    ∀ others : List (String × String), adds.Perm others →
      (Fatal (addAll assertions others mapping) ↔ Fatal result) := by
  -- A call is fatal or completes, and the condition says which.
  have decided : ∀ calls : List (String × String),
      let symbols := addedFor exchange calls
      let result := addAll assertions calls (create name exchange sourceRegex targetsRegex)
      (Fatal result ↔ ¬ (symbols.Pairwise (Compatible sourceRegex) ∧
        ∀ symbol ∈ symbols, Separate targetsRegex symbol)) ∧
      (Fatal result ∨ ∃ after, result = .ok after) := by
    intro calls
    -- Nothing is held at first, with which a symbol could conflict.
    have spec := addAll_decided assertions calls
      (create_holds name exchange sourceRegex targetsRegex)
    simp only [Set.mem_empty_iff_false, false_imp_iff, implies_true, true_and] at spec
    obtain ⟨completes, refuses⟩ := spec
    by_cases condition : (addedFor exchange calls).Pairwise (Compatible sourceRegex) ∧
        ∀ symbol ∈ addedFor exchange calls, Separate targetsRegex symbol
    · obtain ⟨after, done⟩ := completes condition
      refine ⟨⟨fun failed => ?_, fun refused => absurd condition refused⟩, Or.inr ⟨after, done⟩⟩
      obtain ⟨abort, error, -⟩ := failed
      rw [done] at error
      cases error
    · have failed := refuses condition
      exact ⟨⟨fun _ => condition, fun _ => failed⟩, Or.inl failed⟩
  intro mapping symbols result
  obtain ⟨fatal, either⟩ := decided adds
  refine ⟨?_, ?_, ?_, ?_⟩
  · -- The three conflicts are the three ways in which the condition can fail.
    refine fatal.trans ?_
    rw [pairwise_compatible, List.nodup_iff_count_le_one]
    simp only [separate_iff]
    show _ ↔ (∃ symbol, 1 < List.count symbol (addedFor exchange adds)) ∨ _
    grind
  · constructor
    · exact fun completes => either.resolve_left completes
    · intro completes failed
      obtain ⟨after, done⟩ := completes
      obtain ⟨abort, error, -⟩ := failed
      rw [done] at error
      cases error
  · -- Neither outcome is an assertion.
    intro failed
    rcases either with ⟨abort, error, other⟩ | ⟨after, done⟩
    · rw [show addAll assertions adds _ = _ from failed] at error
      cases error
      exact other rfl
    · rw [show addAll assertions adds _ = _ from failed] at done
      cases done
  · -- The condition speaks of the symbols up to their order.
    intro others perm
    refine (decided others).1.trans (Iff.trans (not_congr ?_) fatal.symm)
    have permuted : (addedFor exchange adds).Perm (addedFor exchange others) :=
      (perm.filter _).map _
    rw [permuted.pairwise_iff Compatible.symm]
    exact and_congr_right fun _ => forall_congr' fun symbol => by rw [permuted.mem_iff]

/-- Two spellings of one source collide in either order. -/
theorem addAll_fatal_iff_swapped :
    let regex : Pattern := ⟨fun symbol => (true, if symbol = "XBT" then "BTC" else symbol)⟩
    Fatal (addAll true [("deribit", "XBT"), ("deribit", "BTC")] (create "" "deribit" regex [])) ∧
      Fatal (addAll true [("deribit", "BTC"), ("deribit", "XBT")]
        (create "" "deribit" regex [])) := by
  intro regex
  obtain ⟨fatal, -, -, order⟩ := addAll_fatal_iff true "" "deribit" regex []
    [("deribit", "XBT"), ("deribit", "BTC")]
  -- The pattern extracts the key of one spelling from both.
  have collides : Fatal (addAll true [("deribit", "XBT"), ("deribit", "BTC")]
      (create "" "deribit" regex [])) := by
    refine fatal.mpr (Or.inr (Or.inl ⟨"XBT", by decide, "BTC", by decide, by decide, ?_⟩))
    exact ⟨"BTC", rfl, rfl⟩
  exact ⟨collides, (order _ (List.Perm.swap _ _ _)).mpr collides⟩

end Mapping

end FixBridge
