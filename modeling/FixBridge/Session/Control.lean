import FixBridge.Session.Effects

/-! What steps leave alone, and what the bridge does while it has control. -/

namespace FixBridge

/-- While the bridge has control, a session can send and can end, and stays the same otherwise. -/
structure Session.Aged (session later : Session) : Prop where
  sessionId : later.sessionId = session.sessionId
  state : later.state = session.state ∨ later.state = .zombie
  account : later.account = session.account
  compId : later.compId = session.compId
  received : later.connection.received = session.connection.received

/-- Nothing has to happen to a session. -/
theorem Session.Aged.refl (session : Session) : session.Aged session :=
  ⟨rfl, Or.inl rfl, rfl, rfl, rfl⟩

/-- Ageing continues. -/
theorem Session.Aged.trans {first second third : Session} (before : first.Aged second)
    (after : second.Aged third) : first.Aged third where
  sessionId := after.sessionId.trans before.sessionId
  state := by
    -- A session that is a zombie in the middle is still one, as the state of the last shows.
    rcases after.state with same | ended
    · rw [same]; exact before.state
    · exact Or.inr ended
  account := after.account.trans before.account
  compId := after.compId.trans before.compId
  received := after.received.trans before.received

/-- Sessions age, and none comes or goes. -/
structure World.Ages (world later : World) : Prop where
  sessionIds : later.sessionIds = world.sessionIds
  session : ∀ {sessionId session}, world.session sessionId = some session →
    ∃ aged, later.session sessionId = some aged ∧ session.Aged aged

/-- While the bridge has control, sessions age, and none comes or goes. -/
structure World.Follows (world later : World) : Prop where
  sessionIds : later.sessionIds = world.sessionIds
  nextSessionId : later.nextSessionId = world.nextSessionId
  gateways : later.gateways = world.gateways
  routes : later.routes = world.routes
  session : ∀ {sessionId session}, world.session sessionId = some session →
    ∃ aged, later.session sessionId = some aged ∧ session.Aged aged

namespace World

/-- Where the session manager is the same, the sessions are. -/
theorem Ages.of_manager {world later : World}
    (same : later.controller.sessionManager = world.controller.sessionManager) :
    world.Ages later where
  sessionIds := congrArg (fun manager => manager.sessions.keys) same
  session {sessionId session} located := by
    -- The session is looked up in the manager, which is the same.
    have found := congrArg (fun manager => manager.sessions.lookup sessionId) same
    exact ⟨session, found.trans located, .refl session⟩

/-- Sessions go on ageing. -/
theorem Ages.trans {first second third : World} (before : first.Ages second)
    (after : second.Ages third) : first.Ages third where
  sessionIds := after.sessionIds.trans before.sessionIds
  session located := by
    obtain ⟨middle, found, aged⟩ := before.session located
    -- The two ageings of the session compose.
    obtain ⟨final, found', aged'⟩ := after.session found
    exact ⟨final, found', aged.trans aged'⟩

/-- A session that is stored afterwards has aged from one that was stored before. -/
theorem Ages.session_of_later {world later : World} (ages : world.Ages later)
    {sessionId : SessionId} {session : Session} (located : later.session sessionId = some session) :
    ∃ before, world.session sessionId = some before ∧ before.Aged session := by
  -- No session comes, so the session was stored before, and it has aged since.
  have stored : sessionId ∈ world.sessionIds := by
    rw [← ages.sessionIds]
    exact mem_sessionIds.mpr ⟨session, located⟩
  obtain ⟨before, found⟩ := mem_sessionIds.mp stored
  obtain ⟨aged, located', aging⟩ := ages.session found
  -- What is stored under one identifier is one session.
  rw [located] at located'
  cases located'
  exact ⟨before, found, aging⟩

/-- Ageing makes no session ready. -/
theorem Ages.neverReady {world later : World} (ages : world.Ages later)
    (calm : world.NeverReady) : later.NeverReady := by
  intro sessionId session located
  -- A session is as ready as it was, or it is a zombie.
  obtain ⟨before, found, aged⟩ := ages.session_of_later located
  rcases aged.state with same | ended
  · rw [same]; exact calm sessionId before found
  · simp [ended]

/-- In a following world the sessions have aged. -/
theorem Follows.ages {world later : World} (follows : world.Follows later) : world.Ages later :=
  ⟨follows.sessionIds, follows.session⟩

/-- A world that differs in its log only follows. -/
theorem Follows.record (world : World) (action : Action) : world.Follows (world.record action) :=
  ⟨rfl, rfl, rfl, rfl, fun {_ session} located => ⟨session, located, .refl session⟩⟩

/-- Every world follows itself. -/
theorem Follows.refl (world : World) : world.Follows world :=
  ⟨rfl, rfl, rfl, rfl, fun {_ session} located => ⟨session, located, .refl session⟩⟩

/-- What follows can be followed. -/
theorem Follows.trans {first second third : World} (before : first.Follows second)
    (after : second.Follows third) : first.Follows third where
  sessionIds := after.sessionIds.trans before.sessionIds
  nextSessionId := after.nextSessionId.trans before.nextSessionId
  gateways := after.gateways.trans before.gateways
  routes := after.routes.trans before.routes
  session := (before.ages.trans after.ages).session

/-- Assigning to one session makes a following world when the assignment ages the session. -/
theorem Follows.modifySession {world : World} {sessionId : SessionId} {change : Session → Session}
    (aged : ∀ session, world.session sessionId = some session → session.Aged (change session)) :
    world.Follows (world.modifySession sessionId change) where
  sessionIds := modifySession_sessionIds world sessionId change
  nextSessionId := rfl
  gateways := rfl
  routes := rfl
  session {other session} located := by
    rw [modifySession_session]
    -- Only the named session changes, and it ages by assumption.
    by_cases same : other = sessionId
    · subst same
      exact ⟨change session, by simp [located], aged session located⟩
    · exact ⟨session, by simp [same, located], .refl session⟩

/-- A following world has no ready session if there was none before. -/
theorem Follows.neverReady {world later : World} (follows : world.Follows later)
    (calm : world.NeverReady) : later.NeverReady :=
  follows.ages.neverReady calm

/-- A zombie stays one. -/
theorem Follows.zombie {world later : World} (follows : world.Follows later)
    {sessionId : SessionId} (ended : world.Zombie sessionId) : later.Zombie sessionId := by
  obtain ⟨session, located, ended⟩ := World.zombie_iff.mp ended
  obtain ⟨aged, found, ages⟩ := follows.session located
  refine ⟨aged, found, ?_⟩
  -- The state stayed the same or became that of a zombie: it is a zombie either way.
  rcases ages.state with same | ended'
  · rw [same, ended]
  · exact ended'

/-- A session that is open was open before. -/
theorem Follows.open_before {world later : World} (follows : world.Follows later)
    {sessionId : SessionId} (alive : later.Open sessionId) : world.Open sessionId := by
  obtain ⟨session, located, alive⟩ := World.open_iff.mp alive
  obtain ⟨before, found, aged⟩ := follows.ages.session_of_later located
  refine ⟨before, found, ?_⟩
  -- A session that had ended would still be a zombie.
  rcases aged.state with same | ended
  · rw [← same]; exact alive
  · exact absurd ended alive

end World

/-- A send ages the session that sends. -/
theorem Session.sendHelper_follows (env : Environment) (cause : Cause) (sessionId : SessionId)
    (value : Outbound) (world : World) :
    world.Follows (sendHelper env cause sessionId value world) := by
  -- Without a session nothing is sent; with one, its connection has sent one message more.
  cases located : world.session sessionId with
  | none =>
    rw [sendHelper_of_missing located]
    exact .refl world
  | some session =>
    obtain ⟨sent, -, -, -, -, same⟩ := sendHelper_of_stored env cause value located
    rw [same]
    exact (World.Follows.record world _).trans
      (.modifySession fun _ _ => ⟨rfl, Or.inl rfl, rfl, rfl, rfl⟩)

/-- An ending ages the session that ends. -/
theorem Session.conclude_follows (env : Environment) {closes peer : Bool} {sessionId : SessionId}
    {world : World} (calm : world.NeverReady) (ends : Ends closes peer sessionId world) :
    world.Follows (conclude env closes peer sessionId world) := by
  obtain ⟨sessionIds, nextSessionId, gateways, routes⟩ := conclude_frame env calm ends
  refine ⟨sessionIds, nextSessionId, gateways, routes, fun {other session} located => ?_⟩
  rw [conclude_session env calm ends]
  -- The session that ends becomes a zombie; the others are untouched.
  by_cases same : other = sessionId
  · subst same
    refine ⟨expire (if closes then shut session else session), by simp [located], ?_⟩
    -- Closing the connection before is no change to what ageing keeps.
    cases closes <;> exact ⟨rfl, Or.inr rfl, rfl, rfl, rfl⟩
  · exact ⟨session, by simp [same, located], .refl session⟩

/-- Every step of the bridge leads to a following world. -/
theorem BridgeStep.follows {env : Environment} {world next : World}
    (step : BridgeStep env world next) (calm : world.NeverReady) : world.Follows next := by
  cases step with
  | send sessionId value stored => exact Session.sendHelper_follows ..
  | executionReport value =>
    -- A report without a session id is a sequence of sends, each by one session.
    exact Controller.executionReport_preserves world.Follows (.record world _)
      fun _ follows => follows.trans (Session.sendHelper_follows ..)
  | close peer sessionId alive => exact Session.conclude_follows env calm (Or.inl alive)
  | again sessionId ended => exact .record world _

/-- So does every chain of steps of the bridge. -/
theorem BridgeChain.follows {env : Environment} {world later : World}
    (chain : BridgeChain env world later) (calm : world.NeverReady) : world.Follows later := by
  induction chain with
  | refl => exact .refl world
  -- Readiness cannot come up on the way, so the step applies to a world without it.
  | tail _ step ih => exact ih.trans (step.follows (ih.neverReady calm))

/-- An action that asks the dispatcher to cancel orders. -/
def Action.Cancels : Action → Prop
  | .cancelAllOrders _ _ _ => True
  | _ => False

/-- An action that is neither a report of the bridge nor caused by one, and cancels no orders. -/
def Action.Single : Action → Prop
  | .executionReport _ | .send _ .unaddressed _ | .cancelAllOrders _ _ _ => False
  | _ => True

/-- A step is a report of the bridge with all that it causes, or takes single actions. -/
theorem ProcessStep.report_or_single {env : Environment} {world next : World}
    (step : ProcessStep env world next) (calm : world.NeverReady) :
    (∃ value, next = Controller.executionReport env value world) ∨
      History.Extends (fun step => step.action.Single) world.log next.log := by
  -- The steps of an ending are single: nothing is sent, and orders stay while nobody is ready.
  have concluded : ∀ {closes peer sessionId}, Session.Ends closes peer sessionId world →
      History.Extends (fun step => step.action.Single) world.log
        (Session.conclude env closes peer sessionId world).log := by
    intro closes peer sessionId ends
    refine (Session.conclude_extends env calm ends).mono fun step kind => ?_
    rcases kind with action | action | action | action | action <;> simp [action, Action.Single]
  -- A message with another cause than a report is single as well.
  have sent : ∀ cause sessionId value, cause ≠ .unaddressed →
      History.Extends (fun step => step.action.Single)
        world.log (Session.sendHelper env cause sessionId value world).log := by
    intro cause sessionId value single
    refine (Session.sendHelper_extends ..).mono fun step sends => ?_
    obtain ⟨sent, action⟩ := sends
    cases cause <;> simp_all [Action.Single]
  cases step with
  | reply sessionId value stored => exact Or.inr (sent .reply sessionId value (by simp))
  | bridge step =>
    cases step with
    | send sessionId value stored => exact Or.inr (sent .addressed sessionId value (by simp))
    -- This is the one step that sends messages addressed to nobody.
    | executionReport value => exact Or.inl ⟨value, rfl⟩
    | close peer sessionId alive => exact Or.inr (concluded (Or.inl alive))
    | again => exact Or.inr (.single trivial)
  | enroll =>
    obtain ⟨first, second, log, -⟩ := SessionManager.enroll_log world
    exact Or.inr ⟨_, log, by simp [Action.Single]⟩
  | disconnected sessionId stored => exact Or.inr (concluded (Session.ends_of_stored stored))
  | check | message | addRoute | removeRoute | gatewayConnected | gatewayDisconnected =>
    exact Or.inr (.single trivial)
  | schedule => exact Or.inr (.refl _ _)
  | removeZombies =>
    refine Or.inr ((SessionManager.removeZombies_extends env world).mono ?_)
    intro step removes
    obtain ⟨sessionId, action⟩ := removes
    simp [action, Action.Single]

/-- Whatever the process does, its log grows, and no step of it cancels orders. -/
theorem ProcessStep.extends {env : Environment} {world next : World}
    (step : ProcessStep env world next) (calm : world.NeverReady) :
    History.Extends (fun step => ¬ step.action.Cancels) world.log next.log := by
  -- A report adds itself and its messages, and none of them cancels orders.
  rcases step.report_or_single calm with ⟨value, rfl⟩ | single
  · refine (Controller.executionReport_extends env value world).mono fun step kind => ?_
    rcases kind with action | ⟨_, _, action⟩ <;> simp [action, Action.Cancels]
  · -- Single actions are not cancellations.
    refine single.mono fun step single cancels => ?_
    cases action : step.action <;> simp_all [Action.Single, Action.Cancels]

/-- Whatever the process does, its log only grows. -/
theorem ProcessStep.log {env : Environment} {world next : World}
    (step : ProcessStep env world next) (calm : world.NeverReady) : world.log <+: next.log :=
  (step.extends calm).isPrefix

/-- No step of the process makes a session ready. -/
theorem ProcessStep.neverReady {env : Environment} {world next : World}
    (step : ProcessStep env world next) (calm : world.NeverReady) : next.NeverReady := by
  -- Everything but an accepted connection and a cleanup leaves a following world.
  cases step with
  | bridge step => exact (step.follows calm).neverReady calm
  | reply sessionId value stored =>
    exact (Session.sendHelper_follows env .reply sessionId value world).neverReady calm
  | enroll =>
    intro sessionId session located
    -- A new session waits for its logon.
    rcases SessionManager.enroll_stored located with before | ⟨-, -, rfl⟩
    · exact calm sessionId session before
    · simp
  | disconnected sessionId stored =>
    exact (Session.conclude_follows env calm (Session.ends_of_stored stored)).neverReady calm
  | check sessionId header alive =>
    intro other session located
    rw [Session.check, World.modifySession_session] at located
    -- The header is noted in the session, which keeps its state.
    split at located
    · next same =>
      obtain ⟨before, found, rfl⟩ := Option.map_eq_some_iff.mp located
      exact calm sessionId before found
    · exact calm other session located
  | message | addRoute | removeRoute | schedule | gatewayConnected | gatewayDisconnected =>
    exact calm
  | removeZombies =>
    intro sessionId session located
    rw [SessionManager.removeZombies_session] at located
    -- A session that was removed cannot be found any more.
    split at located
    · cases located
    · exact calm sessionId session located

/-- Along a chain of steps the log only grows. -/
theorem ProcessChain.log {env : Environment} {world later : World}
    (chain : ProcessChain env world later) (calm : world.NeverReady) :
    world.log <+: later.log := by
  -- The log grows because nobody is ready, so both have to be carried along the chain.
  have both := History.chain_preserves
    (fun later => later.NeverReady ∧ world.log <+: later.log)
    (fun step holds => ⟨step.neverReady holds.1, holds.2.trans (step.log holds.1)⟩)
    chain ⟨calm, List.prefix_rfl⟩
  exact both.2

/-- No chain of steps makes a session ready. -/
theorem ProcessChain.neverReady {env : Environment} {world later : World}
    (chain : ProcessChain env world later) (calm : world.NeverReady) : later.NeverReady :=
  History.chain_preserves World.NeverReady (fun step => step.neverReady) chain calm

/-- What the bridge causes happens in the process. -/
theorem BridgeChain.process {env : Environment} {world later : World}
    (chain : BridgeChain env world later) : ProcessChain env world later :=
  Relation.ReflTransGen.mono (fun _ _ => ProcessStep.bridge) _ _ chain

section Chains

variable (env : Environment)

/-- A close ends an open session, and perhaps the bridge has control after that. -/
theorem Session.close_ended {during : World → World}
    (chain : ∀ world, world.NeverReady → BridgeChain env world (during world))
    {sessionId : SessionId} {world : World} (calm : world.NeverReady)
    (alive : world.Open sessionId) :
    ∃ peer, BridgeChain env (conclude env true peer sessionId world)
        (close env during sessionId world) ∧
      (close env during sessionId world).Zombie sessionId := by
  rw [close_eq, if_pos alive]
  by_cases reenters : env.closeReenters world sessionId = true
  · rw [if_pos reenters]
    have ends : Ends true true sessionId world := Or.inl alive
    have follows := conclude_follows env calm ends
    have inner := chain _ (follows.neverReady calm)
    -- The session is a zombie before the bridge has control, and it is still one afterwards.
    have ended : (conclude env true true sessionId world).Zombie sessionId :=
      conclude_zombie env calm ends
    have still := (BridgeChain.follows inner (follows.neverReady calm)).zombie ended
    rw [makeZombie_of_zombie still]
    exact ⟨true, .tail inner (.again _ sessionId still), still⟩
  · rw [if_neg reenters]
    exact ⟨false, .refl, conclude_zombie env calm (Or.inl alive)⟩

/-- A close is a chain of steps if what the bridge does in the course of it is one. -/
theorem Session.close_chain {during : World → World}
    (chain : ∀ world, world.NeverReady → BridgeChain env world (during world))
    (sessionId : SessionId) {world : World} (calm : world.NeverReady) :
    BridgeChain env world (close env during sessionId world) := by
  by_cases alive : world.Open sessionId
  · obtain ⟨peer, after, -⟩ := close_ended env chain calm alive
    exact .trans (.single (.close world peer sessionId alive)) after
  · -- A session that has ended is left alone.
    rw [close_eq, if_neg alive]

/-- Finding a session does nothing when there is none. -/
theorem SessionManager.getSession_chain {sessionId : SessionId} {callback : World → World}
    {world : World} (chain : sessionId ∈ world.sessionIds →
      BridgeChain env world (callback world)) :
    BridgeChain env world (getSession sessionId callback world) := by
  unfold getSession
  -- A callback for an unknown session is dropped.
  cases located : world.session sessionId with
  | none => exact .refl
  | some session => exact chain (World.mem_sessionIds.mpr ⟨session, located⟩)

mutual

/-- Every call of the bridge is a chain of steps. -/
theorem Controller.callback_chain (call : Callback) {world : World} (calm : world.NeverReady) :
    BridgeChain env world (callback env call world) := by
  -- The calls made while the bridge has control are shorter, hence the joint recursion.
  cases call with
  | disconnect sessionId during =>
    exact SessionManager.getSession_chain env fun _ =>
      Session.close_chain env (fun _ calm => callbacks_chain during calm) sessionId calm
  | message sessionId value =>
    exact SessionManager.getSession_chain env fun stored =>
      .single (.send world sessionId value stored)
  | executionReport value => exact .single (.executionReport world value)

/-- So are the calls that it makes while it has control. -/
theorem Controller.callbacks_chain (calls : List Callback) {world : World}
    (calm : world.NeverReady) : BridgeChain env world (callbacks env calls world) := by
  cases calls with
  | nil => exact .refl
  | cons first rest =>
    -- The rest of the calls starts where the first call ends.
    have head := callback_chain first calm
    exact .trans head (callbacks_chain rest ((BridgeChain.follows head calm).neverReady calm))

end

/-- What the bridge does when it is given Disconnected is a chain of steps. -/
theorem Session.handOver_chain (world : World) (calm : world.NeverReady) :
    BridgeChain env world (handOver env world) :=
  Controller.callbacks_chain env _ calm

end Chains

end FixBridge
