import FixBridge.Tools.MappingLaws

/-! Dispatching over a mapping follows the configured broadcasts, in any order of additions. -/

namespace FixBridge

namespace Mapping

/--
A completed sequence of additions dispatches each symbol to the symbols it broadcasts to.

Only the set of symbols that were added for the mapping's own exchange matters.
-/
theorem dispatch_broadcasts (assertions : Bool) (name exchange : String) (sourceRegex : Pattern)
    (targetsRegex : List Pattern) (adds : List (String × String)) (mapping : Mapping)
    (done : addAll assertions adds (create name exchange sourceRegex targetsRegex) = .ok mapping)
    (symbol : String) :
    let calls := (mapping.dispatch exchange symbol).1
    let result := (mapping.dispatch exchange symbol).2
    calls.Nodup ∧
    (∀ called target, (called, target) ∈ calls ↔ called = exchange ∧
      Broadcasts sourceRegex targetsRegex (symbolsOf exchange adds) symbol target) ∧
    (result = true ↔ calls ≠ []) ∧
    ∀ (assertions' : Bool) (adds' : List (String × String)) (mapping' : Mapping),
      addAll assertions' adds' (create name exchange sourceRegex targetsRegex) = .ok mapping' →
      symbolsOf exchange adds' = symbolsOf exchange adds →
      (mapping'.dispatch exchange symbol).1.Perm calls ∧
        (mapping'.dispatch exchange symbol).2 = result := by
  -- Every completed sequence holds the symbols of the exchange, which determines its links.
  have spec : ∀ (assertions : Bool) (adds : List (String × String)) (mapping : Mapping),
      addAll assertions adds (create name exchange sourceRegex targetsRegex) = .ok mapping →
      (mapping.dispatch exchange symbol).1.Nodup ∧
      (∀ called target, (called, target) ∈ (mapping.dispatch exchange symbol).1 ↔
        called = exchange ∧
          Broadcasts sourceRegex targetsRegex (symbolsOf exchange adds) symbol target) ∧
      ((mapping.dispatch exchange symbol).2 = true ↔
        (mapping.dispatch exchange symbol).1 ≠ []) := by
    intro assertions adds mapping done
    -- The patterns and the exchange are still those with which the mapping was created.
    obtain ⟨holds, -, sameExchange, sameSource, sameTargets⟩ :=
      addAll_holds (create_holds name exchange sourceRegex targetsRegex) done
    obtain ⟨nodup, members, answered⟩ := dispatch_spec holds.joined exchange symbol
    refine ⟨nodup, fun called target => ?_, answered⟩
    rw [members, holds.mem_links, sameExchange, sameSource, sameTargets, Set.empty_union]
    rfl
  obtain ⟨nodup, members, answered⟩ := spec assertions adds mapping done
  refine ⟨nodup, members, answered, ?_⟩
  intro assertions' adds' mapping' done' same
  obtain ⟨nodup', members', answered'⟩ := spec assertions' adds' mapping' done'
  -- Two lists without repetitions that have the same members differ in their order only.
  have perm : (mapping'.dispatch exchange symbol).1.Perm (mapping.dispatch exchange symbol).1 := by
    rw [List.perm_ext_iff_of_nodup nodup' nodup]
    intro ⟨called, target⟩
    rw [members', members, same]
  refine ⟨perm, ?_⟩
  -- The results agree because both say whether the list of callbacks is empty.
  rw [Bool.eq_iff_iff, answered', answered, ne_eq, ne_eq, ← List.length_eq_zero_iff,
    ← List.length_eq_zero_iff, perm.length_eq]

/-- A pattern that matches one symbol, from which it extracts one key. -/
def single (symbol key : String) : Pattern :=
  ⟨fun candidate => if candidate = symbol then (true, key) else (false, "")⟩

/-- An index that arrives after its perpetual still broadcasts to it. -/
theorem dispatch_broadcasts_index :
    ∃ mapping, addAll true
        [("deribit", "BTC-PERPETUAL"), ("deribit", "BTC-DERIBIT-INDEX"), ("other", "BTCUSDT")]
        (create "test" "deribit" (single "BTC-DERIBIT-INDEX" "BTC")
          [single "BTC-PERPETUAL" "BTC"]) = .ok mapping ∧
      ("deribit", "BTC-PERPETUAL") ∈ (mapping.dispatch "deribit" "BTC-DERIBIT-INDEX").1 := by
  -- The additions complete, in the order in which the target comes first.
  have completes : ∃ mapping, addAll true
      [("deribit", "BTC-PERPETUAL"), ("deribit", "BTC-DERIBIT-INDEX"), ("other", "BTCUSDT")]
      (create "test" "deribit" (single "BTC-DERIBIT-INDEX" "BTC")
        [single "BTC-PERPETUAL" "BTC"]) = .ok mapping := ⟨_, rfl⟩
  obtain ⟨mapping, done⟩ := completes
  have spec := dispatch_broadcasts true "test" "deribit" _ _ _ mapping done "BTC-DERIBIT-INDEX"
  refine ⟨mapping, done, (spec.2.1 "deribit" "BTC-PERPETUAL").mpr ⟨rfl, ?_⟩⟩
  refine ⟨by simp [symbolsOf], by simp [symbolsOf], "BTC", by simp [single], ?_⟩
  exact ⟨_, List.mem_singleton_self _, by simp [single]⟩

end Mapping

end FixBridge
