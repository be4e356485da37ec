import FixBridge.Library.Ownership
import FixBridge.Shared.Routes

/-! The two routing tables stay inverse and refine exclusive ownership of the strategies. -/

namespace FixBridge

namespace Routes

/-- The session that owns a strategy, as the first table has it. -/
def owner (routes : Routes) : Ownership StrategyId SessionId :=
  fun strategyId => routes.strategyIdToSessionId.lookup strategyId

/-- A strategy maps to a session exactly when the session's set holds the strategy. -/
def Inverse (routes : Routes) : Prop :=
  ∀ strategyId sessionId,
    routes.strategyIdToSessionId.lookup strategyId = some sessionId ↔
      strategyId ∈ routes.sessionIdToStrategyId.at_ sessionId

/-- Empty tables are inverse. -/
theorem empty_inverse : empty.Inverse := by
  -- Neither table finds anything.
  intro strategyId sessionId
  simp [empty, default]

/-- A strategy without an owner is added to both tables. -/
theorem addRoute_of_free {routes : Routes} {sessionId : SessionId} {strategyId : StrategyId}
    (free : routes.owner strategyId = none) :
    routes.addRoute sessionId strategyId =
      (⟨routes.strategyIdToSessionId.insert strategyId sessionId,
        routes.sessionIdToStrategyId.insert sessionId
          ((routes.sessionIdToStrategyId.at_ sessionId).add strategyId).1⟩, true) := by
  -- The first table has no entry for the strategy, so that emplacing inserts one.
  have absent : strategyId ∉ routes.strategyIdToSessionId := AList.lookup_eq_none.mp free
  unfold owner at free
  simp [addRoute, free, AList.emplace_of_notMem absent]

/-- A strategy with an owner is refused and nothing changes. -/
theorem addRoute_of_owned {routes : Routes} {sessionId other : SessionId}
    {strategyId : StrategyId} (owned : routes.owner strategyId = some other) :
    routes.addRoute sessionId strategyId = (routes, false) := by
  -- The lookup finds an entry and the call returns at once.
  unfold owner at owned
  simp [addRoute, owned]

/-- The owner's removal updates both tables. -/
theorem removeRoute_of_owned {routes : Routes} {sessionId : SessionId} {strategyId : StrategyId}
    (owned : routes.owner strategyId = some sessionId) :
    routes.removeRoute sessionId strategyId =
      (⟨routes.strategyIdToSessionId.erase strategyId,
        routes.sessionIdToStrategyId.insert sessionId
          ((routes.sessionIdToStrategyId.at_ sessionId).erase strategyId)⟩, true) := by
  -- The entry that is found names the caller, so the call goes through.
  unfold owner at owned
  simp [removeRoute, owned]

/-- A removal by anybody but the owner is refused and nothing changes. -/
theorem removeRoute_of_other {routes : Routes} {sessionId : SessionId} {strategyId : StrategyId}
    (other : routes.owner strategyId ≠ some sessionId) :
    routes.removeRoute sessionId strategyId = (routes, false) := by
  -- Either there is no entry, or it names somebody else, and the call returns early in both cases.
  unfold owner at other
  unfold removeRoute
  cases located : routes.strategyIdToSessionId.lookup strategyId with
  | none => rfl
  | some found =>
    have different : found ≠ sessionId := by simpa [located] using other
    simp [different]

/-- A route is added exactly for a strategy without an owner. -/
@[simp] theorem addRoute_snd (routes : Routes) (sessionId : SessionId) (strategyId : StrategyId) :
    (routes.addRoute sessionId strategyId).2 = true ↔ routes.owner strategyId = none := by
  -- The answer is decided by the branch that the lookup takes.
  cases owned : routes.owner strategyId with
  | none => simp [addRoute_of_free owned]
  | some other => simp [addRoute_of_owned owned]

/-- A route is removed exactly for the owner of the strategy. -/
@[simp] theorem removeRoute_snd (routes : Routes) (sessionId : SessionId)
    (strategyId : StrategyId) :
    (routes.removeRoute sessionId strategyId).2 = true ↔
      routes.owner strategyId = some sessionId := by
  -- A removal succeeds for the owner alone.
  by_cases owned : routes.owner strategyId = some sessionId
  · simp [removeRoute_of_owned owned, owned]
  · simp [removeRoute_of_other owned, owned]

/-- Adding a route gives its session an entry in the second table. -/
theorem mem_addRoute {routes : Routes} {sessionId other : SessionId} {strategyId : StrategyId} :
    other ∈ (routes.addRoute sessionId strategyId).1.sessionIdToStrategyId ↔
      (other = sessionId ∧ routes.owner strategyId = none) ∨
        other ∈ routes.sessionIdToStrategyId := by
  -- Only the branch that succeeds writes to the second table.
  cases owned : routes.owner strategyId with
  | none => simp [addRoute_of_free owned]
  | some owner => simp [addRoute_of_owned owned]

/-- An owner has an entry in the second table. -/
theorem Inverse.mem_of_owner {routes : Routes} (inverse : routes.Inverse) {sessionId : SessionId}
    {strategyId : StrategyId} (owned : routes.owner strategyId = some sessionId) :
    sessionId ∈ routes.sessionIdToStrategyId := by
  -- Without an entry the session's set would be empty, but it holds the strategy.
  by_contra absent
  have member := (inverse strategyId sessionId).mp owned
  rw [AList.at_, AList.lookup_eq_none.mpr absent] at member
  exact AList.notMem_empty strategyId member

/-- Removing a route adds and removes no entry of the second table. -/
theorem mem_removeRoute {routes : Routes} (inverse : routes.Inverse)
    {sessionId other : SessionId} {strategyId : StrategyId} :
    other ∈ (routes.removeRoute sessionId strategyId).1.sessionIdToStrategyId ↔
      other ∈ routes.sessionIdToStrategyId := by
  by_cases owned : routes.owner strategyId = some sessionId
  · -- Writing to the owner's entry creates none, because the owner has one.
    rw [removeRoute_of_owned owned, AList.mem_insert]
    exact or_iff_right_of_imp fun same => same ▸ inverse.mem_of_owner owned
  · rw [removeRoute_of_other owned]

/-- Adding a route keeps the tables inverse. -/
theorem addRoute_inverse {routes : Routes} (inverse : routes.Inverse) (sessionId : SessionId)
    (strategyId : StrategyId) : (routes.addRoute sessionId strategyId).1.Inverse := by
  -- A refused call changes nothing, so only the call for a free strategy is of interest.
  cases located : routes.owner strategyId with
  | some other => rw [addRoute_of_owned located]; exact inverse
  | none =>
    rw [addRoute_of_free located]
    intro strategy session
    -- The two sides change together for the added pair, and for no other pair.
    have before := inverse strategy session
    -- A free strategy is in nobody's set.
    have nobody : strategyId ∉ routes.sessionIdToStrategyId.at_ session := by
      rw [← inverse strategyId session]
      unfold owner at located
      simp [located]
    simp only [AList.lookup_insert_eq, AList.at_insert]
    by_cases sameStrategy : strategy = strategyId <;> by_cases sameSession : session = sessionId
    · simp [sameStrategy, sameSession]
    · -- The strategy belongs to the caller now, and another session's set does not hold it.
      subst sameStrategy
      simp [sameSession, Ne.symm sameSession, nobody]
    · -- The caller's set is extended, but not by this strategy.
      subst sameSession
      simp [sameStrategy, before]
    · simp [sameStrategy, sameSession, before]

/-- Removing a route keeps the tables inverse. -/
theorem removeRoute_inverse {routes : Routes} (inverse : routes.Inverse) (sessionId : SessionId)
    (strategyId : StrategyId) : (routes.removeRoute sessionId strategyId).1.Inverse := by
  by_cases owned : routes.owner strategyId = some sessionId
  · rw [removeRoute_of_owned owned]
    -- As for an added route, the pairs are told apart by strategy and by session.
    intro strategy session
    have before := inverse strategy session
    simp only [AList.lookup_erase_eq, AList.at_insert]
    by_cases sameStrategy : strategy = strategyId <;> by_cases sameSession : session = sessionId
    · simp [sameStrategy, sameSession]
    · -- The strategy belonged to the remover, so no other session's set holds it.
      subst sameStrategy
      unfold owner at owned
      have elsewhere : strategy ∉ routes.sessionIdToStrategyId.at_ session := by
        rw [← before, owned]
        simpa using Ne.symm sameSession
      simp [sameSession, elsewhere]
    · subst sameSession
      -- The remover keeps its other strategies.
      simp [sameStrategy, before]
    · simp [sameStrategy, sameSession, before]
  · rw [removeRoute_of_other owned]
    exact inverse

/-- Removing all routes of a session frees exactly the strategies it owns. -/
theorem removeAllRoutes_owner {routes : Routes} (inverse : routes.Inverse)
    (sessionId : SessionId) :
    (routes.removeAllRoutes sessionId).owner = routes.owner.releaseAll sessionId := by
  funext strategyId
  -- What the session's set holds is what it owns, because the tables are inverse.
  have mine := inverse strategyId sessionId
  unfold removeAllRoutes
  cases located : routes.sessionIdToStrategyId.lookup sessionId with
  | none =>
    -- A session without an entry owns nothing, so there is nothing to free.
    have none_ : routes.owner strategyId ≠ some sessionId := by
      unfold owner
      rw [Ne, mine]
      simp [AList.at_, located, default]
    simp [Ownership.releaseAll, none_]
  | some strategies =>
    -- The strategies that are erased are those in the session's set.
    have set_ : routes.sessionIdToStrategyId.at_ sessionId = strategies := by
      simp [AList.at_, located]
    rw [set_] at mine
    simp only [owner, AList.lookup_eraseAll, Ownership.releaseAll]
    simp only [mine, ← AList.mem_keys]

/-- Removing all routes of a session keeps the tables inverse. -/
theorem removeAllRoutes_inverse {routes : Routes} (inverse : routes.Inverse)
    (sessionId : SessionId) : (routes.removeAllRoutes sessionId).Inverse := by
  intro strategyId session
  -- The first table changes as ownership does, and the second one loses a single entry.
  have owners := congrFun (removeAllRoutes_owner inverse sessionId) strategyId
  have before := inverse strategyId session
  unfold owner at owners
  rw [owners]
  unfold Ownership.releaseAll removeAllRoutes
  cases located : routes.sessionIdToStrategyId.lookup sessionId with
  | none =>
    -- A session without an entry owns nothing, and nothing is erased.
    have none_ : routes.strategyIdToSessionId.lookup strategyId ≠ some sessionId := by
      rw [Ne, inverse strategyId sessionId]
      simp [AList.at_, located, default]
    simp [none_, before]
  | some strategies =>
    simp only [AList.at_erase]
    by_cases same : session = sessionId
    · -- The caller's entry is gone, and so is everything it owned.
      subst same
      by_cases mine : routes.strategyIdToSessionId.lookup strategyId = some session <;>
        simp [default, mine]
    · -- Another session keeps its set, in which there was nothing that the caller owned.
      by_cases mine : routes.strategyIdToSessionId.lookup strategyId = some sessionId
      · have elsewhere : strategyId ∉ routes.sessionIdToStrategyId.at_ session := by
          rw [← before, mine]
          simpa using Ne.symm same
        simp [mine, same, elsewhere]
      · simp [mine, same, before]

/-- The tables answer and change as exclusive ownership does. -/
theorem addRoute_refines (routes : Routes) (sessionId : SessionId) (strategyId : StrategyId) :
    routes.owner.acquire sessionId strategyId =
      ((routes.addRoute sessionId strategyId).1.owner,
        (routes.addRoute sessionId strategyId).2) := by
  -- The lookup that decides about the call is the one that ownership is about.
  cases located : routes.owner strategyId with
  | some other => rw [addRoute_of_owned located, Ownership.acquire_of_owned located]
  | none =>
    rw [addRoute_of_free located, Ownership.acquire_of_free located]
    congr 1
    funext strategy
    simp only [owner, AList.lookup_insert_eq, Function.update_apply]

/-- A removal answers and changes the owner as a release does. -/
theorem removeRoute_refines (routes : Routes) (sessionId : SessionId) (strategyId : StrategyId) :
    routes.owner.release sessionId strategyId =
      ((routes.removeRoute sessionId strategyId).1.owner,
        (routes.removeRoute sessionId strategyId).2) := by
  -- Only the owner's call changes anything, in both descriptions.
  by_cases owned : routes.owner strategyId = some sessionId
  · rw [removeRoute_of_owned owned, Ownership.release_of_owned owned]
    congr 1
    funext strategy
    simp only [owner, AList.lookup_erase_eq, Function.update_apply]
  · rw [removeRoute_of_other owned, Ownership.release_of_other owned]

/-- One call by a session, with its answer when it has one. -/
def perform : Ownership.Request StrategyId SessionId → Routes → Routes × Option Bool
  | .acquire sessionId strategyId, routes =>
    ((routes.addRoute sessionId strategyId).1, some (routes.addRoute sessionId strategyId).2)
  | .release sessionId strategyId, routes =>
    ((routes.removeRoute sessionId strategyId).1, some (routes.removeRoute sessionId strategyId).2)
  | .releaseAll sessionId, routes => (routes.removeAllRoutes sessionId, none)

/-- The routing tables as a machine that answers calls. -/
def machine : Machine (Ownership.Request StrategyId SessionId) Routes (Option Bool) := ⟨perform⟩

/-- The routing tables refine exclusive ownership as long as they are inverse. -/
theorem machine_refines : machine.Refines Ownership.machine owner Inverse where
  -- Each call keeps the tables inverse by its own lemma.
  kept call routes inverse := by
    cases call with
    | acquire sessionId strategyId => exact addRoute_inverse inverse sessionId strategyId
    | release sessionId strategyId => exact removeRoute_inverse inverse sessionId strategyId
    | releaseAll sessionId => exact removeAllRoutes_inverse inverse sessionId
  commutes call routes inverse := by
    -- Each call changes the owners as the matching request does.
    cases call with
    | acquire sessionId strategyId =>
      simp [machine, Ownership.machine, perform, Ownership.perform, addRoute_refines]
    | release sessionId strategyId =>
      simp [machine, Ownership.machine, perform, Ownership.perform, removeRoute_refines]
    | releaseAll sessionId =>
      simp [machine, Ownership.machine, perform, Ownership.perform,
        removeAllRoutes_owner inverse]

/-- The tables after a history of calls on a new bridge. -/
def after (calls : List (Ownership.Request StrategyId SessionId)) : Routes :=
  (machine.run calls empty).1

/-- After any history of calls the two tables are inverse. -/
theorem after_inverse (calls : List (Ownership.Request StrategyId SessionId)) :
    (after calls).Inverse :=
  Machine.run_preserves machine_refines.kept calls empty empty_inverse

/--
After any history of calls the two tables are inverse and describe one owner for each strategy.

The answers given so far are those of exclusive ownership, and so is the effect of every next call.
-/
theorem routes_refine_ownership (calls : List (Ownership.Request StrategyId SessionId)) :
    (after calls).Inverse ∧
    Ownership.machine.run calls (fun _ => none) =
      ((after calls).owner, (machine.run calls empty).2) ∧
    ∀ sessionId strategyId,
      let routes := after calls
      let added := routes.addRoute sessionId strategyId
      let removed := routes.removeRoute sessionId strategyId
      (added.2 = true ↔ routes.owner strategyId = none) ∧
      (added.2 = true → added.1.owner =
        Function.update routes.owner strategyId (some sessionId)) ∧
      (added.2 = false → added.1 = routes) ∧
      (removed.2 = true ↔ routes.owner strategyId = some sessionId) ∧
      (removed.2 = true → removed.1.owner = Function.update routes.owner strategyId none) ∧
      (removed.2 = false → removed.1 = routes) ∧
      (routes.removeAllRoutes sessionId).owner = routes.owner.releaseAll sessionId := by
  -- The tables that were reached are inverse, which is what all that follows relies on.
  have inverse := after_inverse calls
  refine ⟨inverse, machine_refines.run calls empty empty_inverse, ?_⟩
  intro sessionId strategyId routes added removed
  have addedOwner := addRoute_refines routes sessionId strategyId
  have removedOwner := removeRoute_refines routes sessionId strategyId
  -- A refused call is one whose condition on the owner fails, and it returns the tables unchanged.
  refine ⟨?_, ?_, ?_, ?_, ?_, ?_, removeAllRoutes_owner inverse sessionId⟩
  · exact addRoute_snd routes sessionId strategyId
  · intro success
    rw [Ownership.acquire_of_free ((addRoute_snd _ _ _).mp success)] at addedOwner
    -- A call that succeeds has found the strategy free.
    exact (congrArg Prod.fst addedOwner).symm
  · intro failure
    cases owned : routes.owner strategyId with
    | none => simp [added, addRoute_of_free owned] at failure
    | some other => exact congrArg Prod.fst (addRoute_of_owned owned)
  · exact removeRoute_snd routes sessionId strategyId
  · intro success
    rw [Ownership.release_of_owned ((removeRoute_snd _ _ _).mp success)] at removedOwner
    exact (congrArg Prod.fst removedOwner).symm
  · -- A call that succeeds has been made by the owner.
    intro failure
    by_cases owned : routes.owner strategyId = some sessionId
    · simp [removed, removeRoute_of_owned owned] at failure
    · exact congrArg Prod.fst (removeRoute_of_other owned)

end Routes

end FixBridge
