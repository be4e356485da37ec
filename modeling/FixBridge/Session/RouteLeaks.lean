import FixBridge.Session.Lifecycle
import FixBridge.Session.Plain
import FixBridge.Shared.RoutesLaws

/-! When the routing tables name sessions that have ended. -/

namespace FixBridge

/-- A step after which the routing tables name a session that is not open. -/
def Step.Leaks (step : Step) : Prop :=
  match step.action with
  -- An open session with an entry in the tables ends.
  | .makeZombie sessionId =>
    step.before.Open sessionId ∧
      sessionId ∈ step.before.shared.routes.sessionIdToStrategyId
  -- A session that has ended adds a strategy that nobody owns.
  | .addRoute sessionId strategyId =>
    ¬ step.before.Open sessionId ∧ step.before.shared.routes.owner strategyId = none
  | _ => False

instance (step : Step) : Decidable step.Leaks := by
  unfold Step.Leaks
  split <;> infer_instance

namespace World

/-- The routing tables name open sessions only. -/
def RoutesOpen (world : World) : Prop :=
  (∀ strategyId sessionId, world.routes.strategyIdToSessionId.lookup strategyId = some sessionId →
    world.Open sessionId) ∧
  ∀ sessionId ∈ world.routes.sessionIdToStrategyId, world.Open sessionId

/-- A strategy that no open session owns can be added by any session. -/
def Acquirable (world : World) : Prop :=
  ∀ strategyId, (∀ owner, world.routes.owner strategyId = some owner → ¬ world.Open owner) →
    ∀ sessionId, (Session.addRoute sessionId strategyId world).2 = true

/-- Strategies without an open owner have no owner when the tables name open sessions only. -/
theorem RoutesOpen.acquirable {world : World} (alive : world.RoutesOpen) : world.Acquirable := by
  intro strategyId ended sessionId
  apply (Routes.addRoute_snd _ _ _).mpr
  -- A strategy with an owner has an open one, which was excluded.
  cases owned : world.routes.owner strategyId with
  | none => rfl
  | some owner => exact absurd (alive.1 strategyId owner owned) (ended owner owned)

/-- Some session that was added has ended, and still has an entry in the routing tables. -/
def Leaked (world : World) : Prop :=
  ∃ sessionId ∈ world.routes.sessionIdToStrategyId,
    sessionId ∈ world.enrolled ∧ ¬ world.Open sessionId

end World

namespace ProcessStep

variable {env : Environment} {world next : World}

/-- Every step keeps the routing tables inverse. -/
theorem inverse (step : ProcessStep env world next) (calm : world.NeverReady)
    (inverse : world.routes.Inverse) : next.routes.Inverse := by
  -- Only the two operations on routes change the tables, and both keep them inverse.
  cases step with
  | bridge step => rw [(step.follows calm).routes]; exact inverse
  | reply sessionId value stored =>
    rw [(Session.sendHelper_follows env .reply sessionId value world).routes]
    exact inverse
  | addRoute sessionId strategyId stored =>
    exact Routes.addRoute_inverse inverse sessionId strategyId
  | removeRoute sessionId strategyId stored =>
    exact Routes.removeRoute_inverse inverse sessionId strategyId
  | disconnected sessionId stored =>
    rw [(Session.conclude_follows env calm (Session.ends_of_stored stored)).routes]
    exact inverse
  | removeZombies =>
    rw [(SessionManager.removeZombies_frame env world).2.2]
    exact inverse
  | enroll | check | message | schedule | gatewayConnected | gatewayDisconnected => exact inverse

/-- An ending that does not leak ends a session that the routing tables do not name. -/
theorem conclude_open {closes peer : Bool} {sessionId : SessionId} (calm : world.NeverReady)
    (ends : Session.Ends closes peer sessionId world)
    (clean : ∀ step ∈ (Session.conclude env closes peer sessionId world).log, ¬ step.Leaks)
    (alive : ∀ other ∈ world.routes.sessionIdToStrategyId, world.Open other) :
    ∀ other ∈ (Session.conclude env closes peer sessionId world).routes.sessionIdToStrategyId,
      (Session.conclude env closes peer sessionId world).Open other := by
  -- The call of `make_zombie` is the step that would leak if the tables named the session.
  obtain ⟨earlier, asked, later, log, open_, shared, -, -⟩ :=
    Session.conclude_steps env calm ends
  have unleaked := clean ⟨.makeZombie sessionId, asked⟩ (by simp [log])
  intro other member
  -- The tables are the same before and after.
  rw [(Session.conclude_follows env calm ends).routes] at member
  refine (Session.conclude_open env calm ends other).mpr ⟨?_, alive other member⟩
  -- The session that ends is not named, or asking it to end would be a leak.
  rintro rfl
  have named : other ∈ asked.shared.routes.sessionIdToStrategyId := by rw [shared]; exact member
  exact unleaked ⟨open_.mpr (alive other member), named⟩

/-- A step that does not leak keeps the sessions that the routing tables name open. -/
theorem routes_open (step : ProcessStep env world next) (calm : world.NeverReady)
    (listed : world.Listed) (inverse : world.routes.Inverse)
    (clean : ∀ step ∈ next.log, ¬ step.Leaks)
    (alive : ∀ other ∈ world.routes.sessionIdToStrategyId, world.Open other) :
    ∀ other ∈ next.routes.sessionIdToStrategyId, next.Open other := by
  have sent : ∀ cause sessionId value, ∀ other ∈ (Session.sendHelper env cause sessionId value
      world).routes.sessionIdToStrategyId,
      (Session.sendHelper env cause sessionId value world).Open other := by
    -- A send changes neither the tables nor what is open.
    intro cause sessionId value other member
    obtain ⟨open_, -, -, routes⟩ := Session.sendHelper_frame env cause sessionId value world other
    rw [routes] at member
    exact open_.mpr (alive other member)
  intro other member
  cases step with
  | reply sessionId value stored => exact sent .reply sessionId value other member
  | bridge step =>
    cases step with
    | send sessionId value stored => exact sent .addressed sessionId value other member
    | executionReport value =>
      obtain ⟨open_, -, -, routes⟩ := Controller.executionReport_frame env value world other
      rw [routes] at member
      exact open_.mpr (alive other member)
    | close peer sessionId open_ => exact conclude_open calm (Or.inl open_) clean alive other member
    | again sessionId ended => exact alive other member
  | enroll => exact SessionManager.enroll_open (alive other member)
  | disconnected sessionId stored =>
    exact conclude_open calm (Session.ends_of_stored stored) clean alive other member
  | check sessionId header open_ => exact Session.check_open.mpr (alive other member)
  | message | schedule | gatewayConnected | gatewayDisconnected => exact alive other member
  | addRoute sessionId strategyId stored =>
    rcases Routes.mem_addRoute.mp member with ⟨rfl, free⟩ | member
    · -- The session that adds a free strategy is open, or the step would leak.
      by_contra ended
      exact clean ⟨.addRoute other strategyId, world.controller⟩ (by simp [Session.addRoute])
        ⟨ended, free⟩
    · exact alive other member
  | removeRoute sessionId strategyId stored =>
    exact alive other ((Routes.mem_removeRoute inverse).mp member)
  | removeZombies =>
    rw [(SessionManager.removeZombies_frame env world).2.2] at member
    exact (listed.removeZombies_open env other).mpr (alive other member)

/-- What was leaked stays leaked, because identifiers are not used again. -/
theorem leaked (step : ProcessStep env world next) (calm : world.NeverReady)
    (listed : world.Listed) (life : Lifecycle world) (few : next.enrolled.length < 2 ^ 64)
    (leaked : world.Leaked) : next.Leaked := by
  obtain ⟨sessionId, member, added, ended⟩ := leaked
  -- The session stays added, so its entry and its state remain to be followed.
  have added' := World.mem_enrolled_of_log (step.log calm) added
  suffices sessionId ∈ next.routes.sessionIdToStrategyId ∧ ¬ next.Open sessionId from
    ⟨sessionId, this.1, added', this.2⟩
  cases step with
  -- While the bridge has control, no session is opened and no route changes.
  | bridge step =>
    have follows := step.follows calm
    rw [follows.routes]
    exact ⟨member, mt follows.open_before ended⟩
  | reply other value stored =>
    have follows := Session.sendHelper_follows env .reply other value world
    rw [follows.routes]
    exact ⟨member, mt follows.open_before ended⟩
  | enroll =>
    -- The new session is another one, because its identifier was not in use.
    exact ⟨member, mt (life.open_before_enroll few added) ended⟩
  | disconnected other stored =>
    have follows := Session.conclude_follows env calm (Session.ends_of_stored stored)
    rw [follows.routes]
    exact ⟨member, mt follows.open_before ended⟩
  | check other header alive => exact ⟨member, mt Session.check_open.mp ended⟩
  | message | schedule | gatewayConnected | gatewayDisconnected => exact ⟨member, ended⟩
  | addRoute other strategyId stored => exact ⟨Routes.mem_addRoute.mpr (Or.inr member), ended⟩
  | removeRoute other strategyId stored =>
    -- A freed strategy leaves an entry behind, even an empty one.
    refine ⟨?_, ended⟩
    by_cases owned : world.routes.owner strategyId = some other
    · rw [Session.removeRoute, World.setRoutes_routes, Routes.removeRoute_of_owned owned,
        AList.mem_insert]
      exact Or.inr member
    · rw [Session.removeRoute, World.setRoutes_routes, Routes.removeRoute_of_other owned]
      exact member
  | removeZombies =>
    -- An ended session is not opened by its removal.
    rw [(SessionManager.removeZombies_frame env world).2.2]
    exact ⟨member, mt (listed.removeZombies_open env sessionId).mp ended⟩

/-- An ending that leaks leaves a session in the routing tables that is not open. -/
theorem conclude_leaks {closes peer : Bool} {sessionId : SessionId} (calm : world.NeverReady)
    (life : Lifecycle world) (ends : Session.Ends closes peer sessionId world) {step : Step}
    (new : step ∈ (Session.conclude env closes peer sessionId world).log) (leaks : step.Leaks) :
    step ∈ world.log ∨ (Session.conclude env closes peer sessionId world).Leaked := by
  obtain ⟨earlier, asked, later, log, open_, shared, before, after⟩ :=
    Session.conclude_steps env calm ends
  rw [log, List.append_assoc, List.mem_append, List.mem_append, List.mem_cons] at new
  -- A new step comes before the transition, is the transition, or comes after it.
  rcases new with old | told | rfl | notified
  · exact Or.inl old
  · rcases before step told with action | action <;> simp [Step.Leaks, action] at leaks
  · obtain ⟨alive, named⟩ := leaks
    -- The session that leaks is stored, so it was added.
    obtain ⟨session, located, -⟩ := World.open_iff.mp (open_.mp alive)
    have added := life.created sessionId (World.mem_sessionIds.mpr ⟨session, located⟩)
    refine Or.inr ⟨sessionId, ?_, ?_, ?_⟩
    · -- The ending does not touch the tables, so they still name the session.
      rw [(Session.conclude_follows env calm ends).routes]
      rw [shared] at named
      exact named
    · simp only [World.enrolled, log, List.filterMap_append, List.mem_append] at added ⊢
      exact Or.inl (Or.inl added)
    · exact fun still => ((Session.conclude_open env calm ends sessionId).mp still).1 rfl
  · rcases after step notified with action | action <;> simp [Step.Leaks, action] at leaks

/-- A leak is new only if the routing tables name a session that has ended. -/
theorem leaks (step : ProcessStep env world next) (calm : world.NeverReady)
    (life : Lifecycle world) {last : Step} (new : last ∈ next.log) (leaks : last.Leaks) :
    last ∈ world.log ∨ next.Leaked := by
  cases step with
  | reply sessionId value stored =>
    -- Messages leak nothing.
    rcases (Session.sendHelper_extends ..).mem new with old | ⟨sent, action⟩
    · exact Or.inl old
    · simp [Step.Leaks, action] at leaks
  | bridge step =>
    cases step with
    | send sessionId value stored =>
      rcases (Session.sendHelper_extends ..).mem new with old | ⟨sent, action⟩
      · exact Or.inl old
      · simp [Step.Leaks, action] at leaks
    | executionReport value =>
      rcases (Controller.executionReport_extends ..).mem new with old | action | ⟨_, _, action⟩
      · exact Or.inl old
      · simp [Step.Leaks, action] at leaks
      · simp [Step.Leaks, action] at leaks
    | close peer sessionId alive => exact conclude_leaks calm life (Or.inl alive) new leaks
    | again sessionId ended =>
      -- A second request to end finds a zombie, which is not open.
      rcases List.mem_append.mp new with old | new
      · exact Or.inl old
      · rw [List.mem_singleton.mp new] at leaks
        exact absurd leaks.1 (Controller.Zombie.not_open ended)
  | disconnected sessionId stored =>
    exact conclude_leaks calm life (Session.ends_of_stored stored) new leaks
  | addRoute sessionId strategyId stored =>
    -- A session that has ended and takes a free strategy is named from then on.
    rcases List.mem_append.mp new with old | new
    · exact Or.inl old
    · rw [List.mem_singleton.mp new] at leaks
      obtain ⟨ended, free⟩ := leaks
      have added := life.created sessionId stored
      refine Or.inr ⟨sessionId, Routes.mem_addRoute.mpr (Or.inl ⟨rfl, free⟩), ?_, ended⟩
      simpa [World.enrolled, Session.addRoute] using added
  | enroll =>
    -- Neither an addition nor the notification after it leaks.
    obtain ⟨first, second, log, -⟩ := SessionManager.enroll_log world
    rw [log] at new
    rcases List.mem_append.mp new with old | new
    · exact Or.inl old
    · rcases List.mem_pair.mp new with rfl | rfl <;> exact leaks.elim
  | check | message | removeRoute | gatewayConnected | gatewayDisconnected =>
    -- Nothing else that is logged in one step is a leak.
    rcases List.mem_append.mp new with old | new
    · exact Or.inl old
    · rw [List.mem_singleton.mp new] at leaks
      exact leaks.elim
  | schedule => exact Or.inl new
  | removeZombies =>
    rcases (SessionManager.removeZombies_extends env world).mem new with old | ⟨_, action⟩
    · exact Or.inl old
    · simp [Step.Leaks, action] at leaks

end ProcessStep

namespace Process

variable (env : Environment)

/-- The routing tables are inverse after every run. -/
theorem run_inverse (events : List Event) : (run env events).world.routes.Inverse :=
  -- The steps keep the tables inverse one by one.
  run_invariant env (fun world => world.routes.Inverse) Routes.empty_inverse
    (fun step calm _ inverse => step.inverse calm inverse) events

/-- In a run without a leak the routing tables name open sessions only. -/
theorem run_routesOpen (events : List Event)
    (clean : ∀ step ∈ (run env events).world.log, ¬ step.Leaks) :
    (run env events).world.RoutesOpen := by
  have inverse := run_inverse env events
  have alive := run_invariant env
    (fun world => world.routes.Inverse ∧ ((∀ step ∈ world.log, ¬ step.Leaks) →
      ∀ sessionId ∈ world.routes.sessionIdToStrategyId, world.Open sessionId))
    ⟨Routes.empty_inverse, fun _ sessionId member => absurd member (AList.notMem_empty sessionId)⟩
    (fun step calm listed holds => ⟨step.inverse calm holds.1, fun clean =>
      step.routes_open calm listed holds.1 clean (holds.2 fun earlier member =>
        clean earlier ((step.log calm).subset member))⟩) events
  -- An owner has an entry in the second table, so the second half of the property gives the first.
  exact ⟨fun strategyId sessionId owned => alive.2 clean sessionId (inverse.mem_of_owner owned),
    alive.2 clean⟩

/-- In a run with a leak the routing tables name a session that has ended. -/
theorem run_leaked (events : List Event)
    (few : (run env events).world.enrolled.length < 2 ^ 64)
    (leak : ∃ step ∈ (run env events).world.log, step.Leaks) :
    (run env events).world.Leaked := by
  -- The leak happened in an earlier step and is still there, or it happens in the last step.
  have both := run_invariant env
    (fun world => world.enrolled.length < 2 ^ 64 →
      Lifecycle world ∧ ((∃ step ∈ world.log, step.Leaks) → world.Leaked))
    (fun _ => ⟨Lifecycle.initial, fun leak => by obtain ⟨_, member, -⟩ := leak; cases member⟩)
    ?_ events few
  · exact both.2 leak
  · intro world next step calm listed holds few
    have fewer : world.enrolled.length < 2 ^ 64 :=
      Nat.lt_of_le_of_lt (World.enrolled_mono (step.log calm)) few
    obtain ⟨life, found⟩ := holds fewer
    refine ⟨life.kept step calm listed few, fun leak => ?_⟩
    obtain ⟨last, new, leaks⟩ := leak
    rcases step.leaks calm life new leaks with old | leaked
    · exact step.leaked calm listed life few (found ⟨last, old, leaks⟩)
    · exact leaked

/--
The routing tables name open sessions only, as long as no step of the run leaks.

A strategy that no open session owns can then be added by any session. A leak is never repaired:
with fewer than 2^64 connections, the tables of a run with a leak name a session that has ended.
-/
theorem run_routes (events : List Event) :
    ((∀ step ∈ (run env events).world.log, ¬ step.Leaks) → ∀ earlier, earlier <+: events →
      (run env earlier).world.RoutesOpen ∧ (run env earlier).world.Acquirable) ∧
    ((run env events).world.enrolled.length < 2 ^ 64 →
      (∃ step ∈ (run env events).world.log, step.Leaks) →
      ¬ (run env events).world.RoutesOpen) := by
  constructor
  · intro clean earlier begins
    -- What does not leak in the whole run does not leak in a part of it.
    have alive := run_routesOpen env earlier fun step member =>
      clean step ((run_log env begins).subset member)
    exact ⟨alive, alive.acquirable⟩
  · intro few leak alive
    -- The tables name the session that has ended.
    obtain ⟨sessionId, member, -, ended⟩ := run_leaked env events few leak
    exact ended (alive.2 sessionId member)

/-- A session that logs on and does not end keeps its route, and other strategies are free. -/
theorem run_routes_logged_on :
    (run .plain [.accept, .read 1 logOn, .accept]).world.RoutesOpen :=
  ((run_routes .plain [.accept, .read 1 logOn, .accept]).1 (by decide +kernel) _
    List.prefix_rfl).1

/-- A client that logs on and disconnects keeps its strategy from all other clients. -/
theorem run_routes_disconnected :
    let world := (run .plain [.accept, .read 1 logOn, .disconnected 1, .accept]).world
    world.routes.owner 7 = some 1 ∧ ¬ world.Open 1 ∧ ¬ world.RoutesOpen ∧
      (Session.addRoute 2 7 world).2 = false := by
  -- The owner of strategy 7 has disconnected and is not open any more.
  intro world
  have owned : world.routes.owner 7 = some 1 := by decide +kernel
  have ended : ¬ world.Open 1 := by decide +kernel
  -- The next session asks for the strategy, and does not get it.
  exact ⟨owned, ended, fun alive => ended (alive.1 7 1 owned), by decide +kernel⟩

end Process

end FixBridge
