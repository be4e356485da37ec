import FixBridge.Library.Guarded
import FixBridge.Session.Lifecycle

/-! The life of a session: in every run, its actions are those of one machine with six states. -/

namespace FixBridge

/-- The session that takes an action, if it is one of a session. -/
def Action.sessionId? : Action → Option SessionId
  | .addSession sessionId | .removeSession sessionId | .connected sessionId
  | .message sessionId _ | .disconnected sessionId | .check sessionId _ | .send sessionId _ _
  | .close sessionId | .peerDisconnected sessionId | .makeZombie sessionId
  | .disconnect sessionId | .addRoute sessionId _ | .removeRoute sessionId _
  | .cancelAllOrders sessionId _ _ => some sessionId
  | .executionReport _ | .gatewayConnected _ _ | .gatewayDisconnected _ _ => none

/-- The header that a session gives to the next message it sends. -/
def Session.header (settings : Settings) (value : Outbound) (sendingTime : Int)
    (session : Session) : Header where
  version := .fix44
  msgType := value.msgType
  senderCompId := settings.fixCompId
  targetCompId := session.compId
  msgSeqNum := session.outbound + 1
  sendingTime

/-- Where a session is in its life. -/
inductive Life where
  | unborn
  /-- The session is stored, and the bridge is about to be told. -/
  | added (session : Session)
  | alive (session : Session)
  /-- The session has closed its connection, or was told that the connection is gone. -/
  | ending (session : Session)
  /-- The session is a zombie. -/
  | ended (session : Session)
  | removed
  deriving DecidableEq, Repr

namespace Life

/-- Sending is allowed with the header that is due. -/
def sends (settings : Settings) (sent : Sent) (session : Session) : Option Session :=
  if sent.header = session.header settings sent.value sent.header.sendingTime then
    some (session.advance sent)
  else none

/-- What an action of a session leads to, if the session can take it at this point of its life. -/
def next (settings : Settings) : Life → Action → Option Life
  | .unborn, .addSession sessionId => some (.added { sessionId })
  | .added session, .connected _ => some (.alive session)
  | .alive session, .check _ header => some (.alive (session.receive header))
  | .alive session, .message _ _ => some (.alive session)
  | .alive session, .addRoute _ _ => some (.alive session)
  | .alive session, .removeRoute _ _ => some (.alive session)
  | .alive session, .send _ _ sent => (sends settings sent session).map .alive
  | .alive session, .close _ => some (.ending session.shut)
  | .alive session, .peerDisconnected _ => some (.ending session)
  -- A connection that was closed may report Disconnected before the call returns.
  | .ending session, .peerDisconnected _ => some (.ending session)
  | .ending session, .makeZombie _ => some (.ending session)
  | .ending session, .disconnect _ => some (.ended session.expire)
  | .ended session, .disconnected _ => some (.ended session)
  | .ended session, .peerDisconnected _ => some (.ended session)
  | .ended session, .makeZombie _ => some (.ended session)
  -- A request whose session the bridge closes in the meantime is still settled and answered.
  | .ended session, .addRoute _ _ => some (.ended session)
  | .ended session, .removeRoute _ _ => some (.ended session)
  | .ended session, .send _ _ sent => (sends settings sent session).map .ended
  | .ended _, .removeSession _ => some .removed
  | _, _ => none

end Life

namespace World

variable {world later : World}

/-- The point of its life at which a session is between two events. -/
def life (sessionId : SessionId) (world : World) : Life :=
  match world.session sessionId with
  | none => if sessionId ∈ world.enrolled then .removed else .unborn
  | some session => if session.state = .zombie then .ended session else .alive session

/-- A session that is open is alive. -/
theorem life_of_open {sessionId : SessionId} {session : Session}
    (located : world.session sessionId = some session) (alive : session.state ≠ .zombie) :
    world.life sessionId = .alive session := by
  simp [life, located, alive]

/-- A session that is a zombie has ended. -/
theorem life_of_zombie {sessionId : SessionId} {session : Session}
    (located : world.session sessionId = some session) (ended : session.state = .zombie) :
    world.life sessionId = .ended session := by
  simp [life, located, ended]

/-- What happens to a session does not show in the lives of the others. -/
theorem life_congr {sessionId : SessionId}
    (same : later.session sessionId = world.session sessionId)
    (enrolled : later.enrolled = world.enrolled) :
    later.life sessionId = world.life sessionId := by
  simp only [life, same, enrolled]

/-- The process as a system of sessions, each of which leads its own life. -/
def lives (settings : Settings) : Guarded.System SessionId Action Life World where
  step := Life.next settings
  concerns sessionId action := decide (action.sessionId? = some sessionId)
  history world := world.log.map Step.action
  component := World.life

/-- The actions of a session that the log holds. -/
def actions (sessionId : SessionId) (world : World) : List Action :=
  (world.log.map Step.action).filter fun action => action.sessionId? = some sessionId

end World

section Tracks

open Guarded.System

variable {env : Environment} {world next : World}

/-- Where one session takes actions that its life allows, the process is tracked. -/
theorem World.tracks_single {settings : Settings} (sessionId : SessionId) (rest : List Action)
    (grown : next.log.map Step.action = world.log.map Step.action ++ rest)
    (own : ∀ action ∈ rest, action.sessionId? = some sessionId)
    (follows : Guarded.run (Life.next settings) rest (world.life sessionId) =
      some (next.life sessionId))
    (enrolled : next.enrolled = world.enrolled)
    (others : ∀ other, other ≠ sessionId → next.session other = world.session other) :
    (World.lives settings).Tracks world next := by
  -- The actions are all of one session; the lives of the others depend on what stays.
  refine .single grown (fun action member other => ?_) follows fun other different =>
    World.life_congr (others other different) enrolled
  simp [World.lives, own action member, eq_comm]

/-- An action that is nobody's is tracked. -/
theorem World.record_tracks {settings : Settings} {action : Action}
    (nobody : action.sessionId? = none) :
    (World.lives settings).Tracks world (world.record action) := by
  refine ⟨[action], by simp [World.lives], fun sessionId => ?_⟩
  -- The action is in no trace, and names no new session.
  have enrolled : (world.record action).enrolled = world.enrolled :=
    Lifecycle.record_enrolled (by cases action <;> trivial)
  have unchanged : (world.record action).life sessionId = world.life sessionId :=
    World.life_congr rfl enrolled
  simp [Guarded.trace, World.lives, nobody, unchanged]

/-- A stored session sends with the header that is due. -/
theorem Session.sendHelper_signed (env : Environment) (cause : Cause) (value : Outbound)
    {sessionId : SessionId} {session : Session}
    (located : world.session sessionId = some session) :
    ∃ sent : Sent, Life.sends env.settings sent session = some (session.advance sent) ∧
      sendHelper env cause sessionId value world =
        (world.record (.send sessionId cause sent)).modifySession sessionId (advance sent) := by
  -- The header is made from the members of the session and the current time.
  refine ⟨⟨session.header env.settings value (env.realtime world), value,
    env.accepts world sessionId⟩, by simp [Life.sends, Session.header], ?_⟩
  simp only [sendHelper, located]
  rfl

/-- Sending is tracked, at whatever point of its life the session is. -/
theorem Session.sendHelper_tracks (env : Environment) (cause : Cause) (sessionId : SessionId)
    (value : Outbound) (world : World) :
    (World.lives env.settings).Tracks world (sendHelper env cause sessionId value world) := by
  cases located : world.session sessionId with
  | none =>
    rw [sendHelper_of_missing located]
    exact .refl _ world
  | some session =>
    obtain ⟨sent, signed, same⟩ := sendHelper_signed env cause value located
    rw [same]
    have found : ((world.record (.send sessionId cause sent)).modifySession sessionId
        (advance sent)).session sessionId = some (session.advance sent) := by
      rw [World.modifySession_session, if_pos rfl, World.record_session, located]
      rfl
    refine World.tracks_single sessionId [.send sessionId cause sent] (by simp)
      (by simp [Action.sessionId?]) ?_ ?_ ?_
    · -- Being a zombie is no obstacle.
      by_cases ended : session.state = .zombie
      · rw [World.life_of_zombie located ended, World.life_of_zombie found ended]
        simp [Life.next, signed]
      · rw [World.life_of_open located ended, World.life_of_open found ended]
        simp [Life.next, signed]
    · simp [World.enrolled]
    · intro other different
      rw [World.modifySession_session, if_neg different, World.record_session]

/-- The actions by which a session ends, in order. -/
def Session.endings (closes peer : Bool) (sessionId : SessionId) : List Action :=
  (if closes then [.close sessionId] else []) ++
    (if peer then [.peerDisconnected sessionId] else []) ++
    [.makeZombie sessionId, .disconnect sessionId] ++
    (if peer then [.disconnected sessionId] else [])

/-- An ending is tracked, for an open session of which it is known why it ends. -/
theorem Session.conclude_tracks_open {closes peer : Bool} {sessionId : SessionId}
    (calm : world.NeverReady) (alive : world.Open sessionId) (why : closes = true ∨ peer = true) :
    (World.lives env.settings).Tracks world (conclude env closes peer sessionId world) := by
  have log : (conclude env closes peer sessionId world).log.map Step.action =
      world.log.map Step.action ++ endings closes peer sessionId := by
    rw [conclude_of_open closes peer calm alive]
    cases closes <;> cases peer <;> simp [closeConnection, endings]
  have enrolled : (conclude env closes peer sessionId world).enrolled = world.enrolled := by
    rw [conclude_of_open closes peer calm alive]
    cases closes <;> cases peer <;> simp [closeConnection, World.enrolled]
  obtain ⟨session, located, waiting⟩ := World.open_iff.mp alive
  have found := conclude_session env calm (Or.inl alive : Ends closes peer sessionId world) sessionId
  rw [if_pos rfl, located, Option.map_some] at found
  refine World.tracks_single sessionId (endings closes peer sessionId) log ?_ ?_ enrolled
    fun other different => ?_
  · cases closes <;> cases peer <;> simp [endings, Action.sessionId?]
  · rw [World.life_of_open located waiting, World.life_of_zombie found rfl]
    -- Without a reason the session would have to skip the state in which it is ending.
    rcases why with rfl | rfl
    · cases peer <;> simp [endings, Life.next]
    · cases closes <;> simp [endings, Life.next]
  · rw [conclude_session env calm (Or.inl alive), if_neg different]

/-- So is the report of a connection that it is gone, which may reach a zombie. -/
theorem Session.conclude_tracks {sessionId : SessionId} (calm : world.NeverReady)
    (stored : sessionId ∈ world.sessionIds) :
    (World.lives env.settings).Tracks world (conclude env false true sessionId world) := by
  rcases ends_of_stored stored with alive | ⟨ended, -, -⟩
  · exact conclude_tracks_open calm alive (Or.inr rfl)
  · rw [conclude_of_zombie ended]
    -- A zombie stays as it is, but the bridge is told.
    obtain ⟨session, located, final⟩ := World.zombie_iff.mp ended
    have found : (((world.record (.peerDisconnected sessionId)).record (.makeZombie sessionId)).record
        (.disconnected sessionId)).session sessionId = some session := located
    refine World.tracks_single sessionId
      [.peerDisconnected sessionId, .makeZombie sessionId, .disconnected sessionId] (by simp)
      (by simp [Action.sessionId?]) ?_ (by simp [World.enrolled]) fun _ _ => rfl
    rw [World.life_of_zombie located final, World.life_of_zombie found final]
    simp [Life.next]

/-- Looking at a header is tracked, for an open session. -/
theorem Session.check_tracks {settings : Settings} {sessionId : SessionId} (header : Header)
    (alive : world.Open sessionId) :
    (World.lives settings).Tracks world (check sessionId header world) := by
  -- The session is open, and it is the only one that is changed.
  obtain ⟨session, located, waiting⟩ := World.open_iff.mp alive
  have others : ∀ other, (check sessionId header world).session other =
      if other = sessionId then some (session.receive header) else world.session other := by
    intro other
    refine (World.modifySession_session (world.record _) sessionId other (receive header)).trans ?_
    rw [World.record_session, World.record_session, located, Option.map_some]
  -- It stays alive, with one more header received.
  refine World.tracks_single sessionId [.check sessionId header] (by simp [check])
    (by simp [Action.sessionId?]) ?_ (by simp [World.enrolled, check]) fun other different => ?_
  · rw [World.life_of_open located waiting,
      World.life_of_open ((others sessionId).trans (if_pos rfl)) waiting]
    rfl
  · rw [others, if_neg different]

/-- What a stored session does that leaves it as it is can be tracked if its life allows it. -/
theorem World.quiet_tracks {settings : Settings} {sessionId : SessionId} (action : Action)
    (own : action.sessionId? = some sessionId) (quiet : action.Quiet)
    (log : next.log = (world.record action).log)
    (manager : next.controller.sessionManager = world.controller.sessionManager)
    (allowed : Life.next settings (world.life sessionId) action = some (world.life sessionId)) :
    (World.lives settings).Tracks world next := by
  have sessions : ∀ other, next.session other = world.session other := fun other =>
    congrArg (fun manager => manager.sessions.lookup other) manager
  -- Nobody is added or removed, and no session is changed.
  have enrolled : next.enrolled = world.enrolled :=
    Eq.trans (by rw [World.enrolled, log, World.enrolled]) (Lifecycle.record_enrolled quiet)
  refine World.tracks_single sessionId [action] (by simp [log]) (by simp [own]) ?_ enrolled
    fun other _ => sessions other
  rw [World.life_congr (sessions sessionId) enrolled]
  simp [allowed]

/-- A life goes on as it was when a stored session adds or removes a route. -/
theorem World.life_routes {settings : Settings} {sessionId : SessionId} {action : Action}
    (stored : sessionId ∈ world.sessionIds)
    (alive : ∀ session, Life.next settings (.alive session) action = some (.alive session))
    (ended : ∀ session, Life.next settings (.ended session) action = some (.ended session)) :
    Life.next settings (world.life sessionId) action = some (world.life sessionId) := by
  -- A stored session is alive or ended, and either life allows the action.
  obtain ⟨session, located⟩ := World.mem_sessionIds.mp stored
  by_cases final : session.state = .zombie
  · rw [World.life_of_zombie located final, ended]
  · rw [World.life_of_open located final, alive]

/-- A removal is tracked, for a zombie. -/
theorem SessionManager.removeSession_tracks {settings : Settings} {sessionId : SessionId}
    (created : sessionId ∈ world.enrolled) (ended : world.Zombie sessionId) :
    (World.lives settings).Tracks world (removeSession sessionId world) := by
  obtain ⟨session, located, final⟩ := World.zombie_iff.mp ended
  have found : ∀ other, (removeSession sessionId world).session other =
      if other = sessionId then none else world.session other :=
    fun other => AList.lookup_erase_eq sessionId other _
  have enrolled : (removeSession sessionId world).enrolled = world.enrolled := by
    simp [World.enrolled, removeSession, World.modifyManager, World.record]
  -- Whoever was added and is not stored any more has been removed.
  have gone : (removeSession sessionId world).life sessionId = .removed := by
    rw [World.life, found, if_pos rfl, enrolled, if_pos created]
  refine World.tracks_single sessionId [.removeSession sessionId]
    (by simp [removeSession, World.modifyManager]) (by simp [Action.sessionId?]) ?_ enrolled
    fun other different => by rw [found, if_neg different]
  rw [World.life_of_zombie located final, gone]
  rfl

/-- Zombies are removed one after the other, each at the end of its life. -/
theorem SessionManager.removeSessions_tracks {settings : Settings} {sessionIds : List SessionId}
    (nodup : sessionIds.Nodup) {world : World}
    (created : ∀ sessionId ∈ sessionIds, sessionId ∈ world.enrolled)
    (ended : ∀ sessionId ∈ sessionIds, world.Zombie sessionId) :
    (World.lives settings).Tracks world (removeSessions sessionIds world) := by
  induction sessionIds generalizing world with
  | nil => exact .refl _ world
  | cons sessionId rest ih =>
    obtain ⟨unlisted, nodup⟩ := List.nodup_cons.mp nodup
    have first : (World.lives settings).Tracks world (removeSession sessionId world) :=
      removeSession_tracks (created sessionId List.mem_cons_self)
        (ended sessionId List.mem_cons_self)
    refine first.trans (ih nodup (fun other member => ?_) fun other member => ?_)
    · have before := created other (List.mem_cons_of_mem _ member)
      simpa [World.enrolled, removeSession, World.modifyManager, World.record] using before
    · -- The others are still stored.
      have different : other ≠ sessionId := fun same => unlisted (same ▸ member)
      obtain ⟨session, located, final⟩ :=
        World.zombie_iff.mp (ended other (List.mem_cons_of_mem _ member))
      exact ⟨session, (AList.lookup_erase_eq sessionId other _).trans
        ((if_neg different).trans located), final⟩

/-- A cleanup is tracked. -/
theorem SessionManager.removeZombies_tracks {settings : Settings} (env : Environment)
    (life : Lifecycle world) (listed : world.Listed) :
    (World.lives settings).Tracks world (removeZombies env world) := by
  have ended : ∀ sessionId ∈ visit (env.order world) world.zombies.keys,
      world.Zombie sessionId :=
    fun sessionId member => (listed sessionId).mp (mem_visit.mp member)
  unfold removeZombies
  split
  next => exact .refl _ world
  next =>
    have created : ∀ sessionId ∈ visit (env.order world) world.zombies.keys,
        sessionId ∈ world.enrolled := by
      intro sessionId member
      obtain ⟨session, located, -⟩ := World.zombie_iff.mp (ended sessionId member)
      exact life.created sessionId (World.mem_sessionIds.mpr ⟨session, located⟩)
    -- Emptying the table of zombies changes no session.
    exact (removeSessions_tracks (visit_nodup (env.order world) (AList.keys_nodup _)) created
      ended).trans (.of_eq rfl fun _ => rfl)

/-- An enrolment is tracked, as long as identifiers do not wrap around. -/
theorem SessionManager.enroll_tracks {settings : Settings} (life : Lifecycle world)
    (few : world.enrolled.length + 1 < 2 ^ 64) :
    (World.lives settings).Tracks world (enroll world) := by
  obtain ⟨-, unused⟩ := life.fresh few
  have absent : world.session (world.nextSessionId + 1) = none := life.absent unused
  obtain ⟨first, second, log, -⟩ := enroll_log world
  refine ⟨[.addSession (world.nextSessionId + 1), .connected (world.nextSessionId + 1)],
    by simp [World.lives, log], fun other => ?_⟩
  have found := enroll_session world other
  by_cases same : other = world.nextSessionId + 1
  · subst same
    rw [if_pos rfl, absent, Option.getD_none] at found
    -- The identifier has not been given out before, so that a life begins here.
    have born : world.life (world.nextSessionId + 1) = .unborn := by
      rw [World.life, absent, if_neg unused]
    have alive : (enroll world).life (world.nextSessionId + 1) =
        .alive { sessionId := world.nextSessionId + 1 } := World.life_of_open found (by simp)
    simp [World.lives, Guarded.trace, Action.sessionId?, born, alive, Life.next]
  · -- Nobody else is added.
    rw [if_neg same] at found
    have unchanged : (enroll world).life other = world.life other := by
      simp only [World.life, found, World.enroll_enrolled, List.mem_append, List.mem_singleton,
        same, or_false]
    simp [World.lives, Guarded.trace, Action.sessionId?, unchanged, Ne.symm same]

/-- Every step of the process is tracked, as long as identifiers do not wrap around. -/
theorem ProcessStep.tracks (step : ProcessStep env world next) (calm : world.NeverReady)
    (listed : world.Listed) (life : Lifecycle world) (few : next.enrolled.length < 2 ^ 64) :
    (World.lives env.settings).Tracks world next := by
  cases step with
  | bridge step =>
    cases step with
    | send sessionId value stored => exact Session.sendHelper_tracks ..
    | executionReport value =>
      -- The report is nobody's action, and each session sends it in turn.
      exact Controller.executionReport_preserves ((World.lives env.settings).Tracks world)
        (World.record_tracks rfl) fun _ before => before.trans (Session.sendHelper_tracks ..)
    | close peer sessionId alive => exact Session.conclude_tracks_open calm alive (Or.inl rfl)
    | again sessionId ended =>
      obtain ⟨session, located, final⟩ := World.zombie_iff.mp ended
      exact World.quiet_tracks (.makeZombie sessionId) rfl trivial rfl rfl (by
        rw [World.life_of_zombie located final]; rfl)
  | reply sessionId value stored => exact Session.sendHelper_tracks ..
  | enroll =>
    rw [World.enroll_enrolled, List.length_append] at few
    exact SessionManager.enroll_tracks life few
  | disconnected sessionId stored => exact Session.conclude_tracks calm stored
  | check sessionId header alive => exact Session.check_tracks header alive
  | message sessionId message alive =>
    obtain ⟨session, located, waiting⟩ := World.open_iff.mp alive
    exact World.quiet_tracks (.message sessionId message) rfl trivial rfl rfl (by
      rw [World.life_of_open located waiting]; rfl)
  | addRoute sessionId strategyId stored =>
    exact World.quiet_tracks (.addRoute sessionId strategyId) rfl trivial rfl rfl
      (World.life_routes stored (fun _ => rfl) fun _ => rfl)
  | removeRoute sessionId strategyId stored =>
    exact World.quiet_tracks (.removeRoute sessionId strategyId) rfl trivial rfl rfl
      (World.life_routes stored (fun _ => rfl) fun _ => rfl)
  | schedule nextCleanup => exact .of_eq rfl fun _ => rfl
  | removeZombies => exact SessionManager.removeZombies_tracks env life listed
  | gatewayConnected sourceId sourceName => exact World.record_tracks rfl
  | gatewayDisconnected sourceId sourceName => exact World.record_tracks rfl

end Tracks

namespace Process

/-- What every step keeps while identifiers do not wrap around holds at the end of such a run. -/
theorem run_few_invariant (env : Environment) {invariant : World → Prop} (initial : invariant {})
    (kept : ∀ {world next}, ProcessStep env world next → world.NeverReady → world.Listed →
      Lifecycle world → next.enrolled.length < 2 ^ 64 → invariant world → invariant next)
    (events : List Event) (few : (run env events).world.enrolled.length < 2 ^ 64) :
    invariant (run env events).world := by
  -- The tables have to be in step, so that both facts are carried together.
  have both := run_invariant env
    (fun world => world.enrolled.length < 2 ^ 64 → Lifecycle world ∧ invariant world)
    (fun _ => ⟨.initial, initial⟩)
    (fun {world next} step calm listed before few => by
      obtain ⟨life, holds⟩ :=
        before (Nat.lt_of_le_of_lt (World.enrolled_mono (step.log calm)) few)
      exact ⟨life.kept step calm listed few, kept step calm listed life few holds⟩)
    events few
  exact both.2

/-- Every run is tracked from the beginning, as long as identifiers do not wrap around. -/
theorem run_tracks (env : Environment) (events : List Event)
    (few : (run env events).world.enrolled.length < 2 ^ 64) :
    (World.lives env.settings).Tracks {} (run env events).world := by
  -- Induction over the run, each step of which is tracked.
  refine run_few_invariant env (.refl _ ({} : World)) (fun step calm listed life few tracks => ?_)
    events few
  exact tracks.trans (step.tracks calm listed life few)

/--
In every run with fewer than 2^64 connections, each session leads the life of the machine.

All that sessions do in between, to each other and to the bridge, is an interleaving of such lives,
and the members of a stored session are what its own actions have made of them.
-/
theorem run_lives (env : Environment) (events : List Event)
    (few : (run env events).world.enrolled.length < 2 ^ 64) (sessionId : SessionId) :
    let world := (run env events).world
    Guarded.run (Life.next env.settings) (world.actions sessionId) .unborn =
      some (world.life sessionId) :=
  (run_tracks env events few).from_nothing rfl sessionId

/-- A session that sends a Logon and is then disconnected has lived, and a second one does. -/
theorem run_lives_disconnected :
    let world := (run .plain [.accept, .read 1 logOn, .disconnected 1, .accept]).world
    world.enrolled.length < 2 ^ 64 ∧ (world.actions 1).length = 10 ∧
      Guarded.run (Life.next .plain) (world.actions 1) .unborn = some (world.life 1) ∧
      Guarded.run (Life.next .plain) (world.actions 2) .unborn = some (world.life 2) := by
  -- One session logs on and ends; the other one is only accepted.
  have few : (run .plain [.accept, .read 1 logOn, .disconnected 1, .accept]).world.enrolled.length <
    2 ^ 64 := by decide +kernel
  exact ⟨few, by decide +kernel, run_lives .plain _ few 1, run_lives .plain _ few 2⟩

end Process

end FixBridge
