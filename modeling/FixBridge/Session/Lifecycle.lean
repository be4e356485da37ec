import FixBridge.Session.Chains
import FixBridge.Session.Plain

/-! The session manager keeps its two tables in step with the states of the sessions. -/

namespace FixBridge

namespace World

/-- The identifiers that were given to sessions, in order. -/
def enrolled (world : World) : List SessionId :=
  world.log.filterMap fun step =>
    match step.action with
    | .addSession sessionId => some sessionId
    | _ => none

/-- The sessions that were added before are among those that were added so far. -/
theorem enrolled_mono {world later : World} (grown : world.log <+: later.log) :
    world.enrolled.length ≤ later.enrolled.length := by
  -- What was logged later can only add identifiers.
  obtain ⟨rest, grown⟩ := grown
  simp only [enrolled, ← grown, List.filterMap_append, List.length_append]
  omega

/-- A session that was added before is one that was added so far. -/
theorem mem_enrolled_of_log {world later : World} (grown : world.log <+: later.log)
    {sessionId : SessionId} (added : sessionId ∈ world.enrolled) : sessionId ∈ later.enrolled := by
  -- The identifier stands in the first part of the longer log.
  obtain ⟨rest, grown⟩ := grown
  simp only [enrolled, ← grown, List.filterMap_append, List.mem_append] at added ⊢
  exact Or.inl added

/-- Enrolling a session gives out one identifier. -/
theorem enroll_enrolled (world : World) : (SessionManager.enroll world).enrolled =
    world.enrolled ++ [world.nextSessionId + 1] := by
  -- The addition is the only one of the two steps that names a new session.
  simp [enrolled, SessionManager.enroll, SessionManager.addSession, modifyManager]

/-- How often a session raised Disconnect. -/
def disconnects (sessionId : SessionId) (world : World) : Nat :=
  world.log.countP fun step => step.action = .disconnect sessionId

end World

/-- What the session manager relies on when it adds, removes or is told about a session. -/
def Orderly (earlier : List Step) (step : Step) : Prop :=
  match step.action with
  -- The assertion of `add_session`.
  | .addSession sessionId => step.before.session sessionId = none
  -- The assertion of `remove_session`, for a session that has ended.
  | .removeSession sessionId => step.before.Zombie sessionId
  -- Disconnect is raised by the call of `make_zombie` that finds the session open.
  | .disconnect sessionId =>
    ∃ before, earlier.getLast? = some ⟨.makeZombie sessionId, before⟩ ∧ before.Open sessionId
  | _ => True

/-- The tables of the session manager agree with the sessions, and with what happened to them. -/
structure Lifecycle (world : World) : Prop where
  /-- A session is found under its own identifier. -/
  identity : ∀ sessionId session, world.session sessionId = some session →
    session.sessionId = sessionId
  /-- Every stored session was added. -/
  created : ∀ sessionId ∈ world.sessionIds, sessionId ∈ world.enrolled
  /-- No two sessions were added with one identifier. -/
  once : world.enrolled.Nodup
  /-- Identifiers count the sessions. -/
  counted : world.nextSessionId.toNat = world.enrolled.length
  /-- No identifier is greater than the last one. -/
  bounded : ∀ sessionId ∈ world.enrolled, sessionId.toNat ≤ world.nextSessionId.toNat
  /-- A session raised Disconnect once if it has ended, and not yet if it is open. -/
  disconnects : ∀ sessionId, world.disconnects sessionId =
    if sessionId ∈ world.enrolled ∧ ¬ world.Open sessionId then 1 else 0
  /-- Additions, removals and notifications happened in order. -/
  orderly : History.Each Orderly world.log

/-- An action that neither adds nor removes a session, and notifies nobody of a disconnect. -/
def Action.Quiet : Action → Prop
  | .addSession _ | .removeSession _ | .disconnect _ => False
  | _ => True

namespace Lifecycle

variable {world : World}

/-- A quiet action names no new session. -/
theorem record_enrolled {action : Action} (quiet : action.Quiet) :
    (world.record action).enrolled = world.enrolled := by
  -- An addition would not be quiet, and every other action is skipped.
  cases action <;> simp_all [World.enrolled, Action.Quiet]

/-- A quiet action is not counted. -/
theorem record_disconnects {action : Action} (quiet : action.Quiet) (sessionId : SessionId) :
    (world.record action).disconnects sessionId = world.disconnects sessionId := by
  -- A notification would not be quiet, and every other action is not counted.
  cases action <;> simp_all [World.disconnects, Action.Quiet]

/-- A quiet action is in order. -/
theorem record_orderly {action : Action} (quiet : action.Quiet)
    (orderly : History.Each Orderly world.log) :
    History.Each Orderly (world.record action).log := by
  -- Only the actions that are not quiet have something to be ordered by.
  cases action <;> simp_all [Orderly, Action.Quiet]

/-- Quiet actions can be recorded at any time. -/
theorem record (life : Lifecycle world) (action : Action) (quiet : action.Quiet) :
    Lifecycle (world.record action) where
  identity := life.identity
  created sessionId stored := by
    -- A quiet action neither creates nor disconnects a session.
    rw [record_enrolled quiet]
    exact life.created sessionId stored
  once := by rw [record_enrolled quiet]; exact life.once
  counted := by rw [record_enrolled quiet]; exact life.counted
  bounded := by rw [record_enrolled quiet]; exact life.bounded
  disconnects sessionId := by
    rw [record_enrolled quiet, record_disconnects quiet]
    exact life.disconnects sessionId
  orderly := record_orderly quiet life.orderly

/-- A session can be assigned to if it keeps its identifier and its state. -/
theorem modifySession (life : Lifecycle world) {sessionId : SessionId}
    {change : Session → Session}
    (kept : ∀ session, (change session).sessionId = session.sessionId ∧
      (change session).state = session.state) :
    Lifecycle (world.modifySession sessionId change) where
  identity other session located := by
    -- The session at the identifier is assigned to, the others are as they were.
    rw [World.modifySession_session] at located
    split at located
    · next same =>
      obtain ⟨before, found, rfl⟩ := Option.map_eq_some_iff.mp located
      rw [(kept before).1, same]
      exact life.identity sessionId before found
    · exact life.identity other session located
  created other stored := by
    -- Assigning adds no session.
    rw [World.modifySession_sessionIds] at stored
    exact life.created other stored
  once := life.once
  counted := life.counted
  bounded := life.bounded
  disconnects other := by
    -- An assignment that keeps the state neither ends nor opens a session.
    have same := World.modifySession_open world sessionId change
      (fun session => (kept session).2) other
    simp only [same]
    exact life.disconnects other
  orderly := life.orderly

/-- Sending keeps the tables in step. -/
theorem sendHelper (life : Lifecycle world) (env : Environment) (cause : Cause)
    (sessionId : SessionId) (value : Outbound) :
    Lifecycle (Session.sendHelper env cause sessionId value world) := by
  -- Nobody sends, or one session does: a quiet action followed by an assignment.
  cases located : world.session sessionId with
  | none =>
    rw [Session.sendHelper_of_missing located]
    exact life
  | some session =>
    obtain ⟨sent, -, -, -, -, same⟩ := Session.sendHelper_of_stored env cause value located
    rw [same]
    exact (life.record (.send sessionId cause sent) trivial).modifySession
      fun _ => ⟨rfl, rfl⟩

/-- The last transition of a session, with its notification, keeps the tables in step. -/
theorem retire (life : Lifecycle world) {sessionId : SessionId} (alive : world.Open sessionId) :
    Lifecycle (Session.retire sessionId world) := by
  -- The session that retires is stored, because it is open.
  obtain ⟨session, located, waiting⟩ := World.open_iff.mp alive
  have stored := World.mem_sessionIds.mpr ⟨session, located⟩
  have found := Session.retire_session sessionId world
  simp only [located, Option.map_some] at found
  -- Neither of the two steps of a retirement adds a session.
  have enrolled : (Session.retire sessionId world).enrolled = world.enrolled := by
    simp [World.enrolled]
  refine ⟨?identity, ?created, ?once, ?counted, ?bounded, ?disconnects, ?orderly⟩
  case identity =>
    -- The session that retires keeps its identifier.
    intro other session' located'
    rw [found] at located'
    split at located'
    · next same =>
      cases located'
      rw [same]
      exact life.identity sessionId session located
    · exact life.identity other session' located'
  case created =>
    intro other stored'
    rw [enrolled]
    rw [Session.retire_sessionIds] at stored'
    exact life.created other stored'
  case once => rw [enrolled]; exact life.once
  case counted => rw [enrolled]; exact life.counted
  case bounded => rw [enrolled]; exact life.bounded
  case disconnects =>
    intro other
    -- One more Disconnect is counted, for the session that retires.
    have counts : (Session.retire sessionId world).disconnects other =
        world.disconnects other + if other = sessionId then 1 else 0 := by
      by_cases same : other = sessionId
      · simp [World.disconnects, same]
      · simp [World.disconnects, same, Ne.symm same]
    -- That session was open and had raised none; for the others nothing changes.
    rw [counts, life.disconnects]
    simp only [enrolled, World.open_iff, found]
    by_cases same : other = sessionId
    · subst same
      simp [located, waiting, life.created other stored, Session.expire]
    · simp [same]
  case orderly =>
    -- The call of `make_zombie` that found the session open stands right before the notification.
    simp only [Session.retire_log, History.each_append, History.each_cons, History.each_nil]
    exact ⟨life.orderly, trivial, ⟨world.controller, by simp, alive⟩, trivial⟩

/-- An ending keeps the tables in step. -/
theorem conclude (life : Lifecycle world) (env : Environment) {closes peer : Bool}
    {sessionId : SessionId} (calm : world.NeverReady)
    (ends : Session.Ends closes peer sessionId world) :
    Lifecycle (Session.conclude env closes peer sessionId world) := by
  rcases ends with alive | ⟨ended, rfl, rfl⟩
  · -- What comes before and after the transition is quiet.
    have closed : Lifecycle (Session.closeConnection sessionId world) :=
      (life.record (.close sessionId) trivial).modifySession fun _ => ⟨rfl, rfl⟩
    have alive' : (Session.closeConnection sessionId world).Open sessionId :=
      Session.closeConnection_open.mpr alive
    rw [Session.conclude_of_open closes peer calm alive]
    cases closes <;> cases peer
    · exact life.retire alive
    · have told := life.record (.peerDisconnected sessionId) trivial
      exact (told.retire alive).record (.disconnected sessionId) trivial
    · exact closed.retire alive'
    · have told := closed.record (.peerDisconnected sessionId) trivial
      exact (told.retire alive').record (.disconnected sessionId) trivial
  · rw [Session.conclude_of_zombie ended]
    -- A session that has ended is asked again, which it only notes.
    have told := life.record (.peerDisconnected sessionId) trivial
    have asked := told.record (.makeZombie sessionId) trivial
    exact asked.record (.disconnected sessionId) trivial

/-- A new identifier is greater than all that were given out before. -/
theorem fresh (life : Lifecycle world) (few : world.enrolled.length + 1 < 2 ^ 64) :
    (world.nextSessionId + 1).toNat = world.nextSessionId.toNat + 1 ∧
    world.nextSessionId + 1 ∉ world.enrolled := by
  -- The last identifier counts the sessions, and there are too few of them to wrap around.
  have counted := life.counted
  have next : (world.nextSessionId + 1).toNat = world.nextSessionId.toNat + 1 := by
    rw [UInt64.toNat_add, UInt64.toNat_one]
    omega
  refine ⟨next, fun member => ?_⟩
  -- An identifier in use is at most the last one.
  have bounded := life.bounded _ member
  omega

/-- No session is stored under an identifier that was not given out. -/
theorem absent (life : Lifecycle world) {sessionId : SessionId}
    (unused : sessionId ∉ world.enrolled) : world.session sessionId = none := by
  -- A stored session would have been added.
  by_contra present
  obtain ⟨session, located⟩ := Option.ne_none_iff_exists'.mp present
  exact unused (life.created sessionId (World.mem_sessionIds.mpr ⟨session, located⟩))

/-- An enrolment opens none of the sessions that were added before. -/
theorem open_before_enroll (life : Lifecycle world)
    (few : (SessionManager.enroll world).enrolled.length < 2 ^ 64)
    (added : sessionId ∈ world.enrolled)
    (alive : (SessionManager.enroll world).Open sessionId) : world.Open sessionId := by
  rw [World.enroll_enrolled, List.length_append] at few
  obtain ⟨session, located, waiting⟩ := World.open_iff.mp alive
  -- The new identifier was not in use.
  rcases SessionManager.enroll_stored located with before | ⟨rfl, -, -⟩
  · exact ⟨session, before, waiting⟩
  · exact absurd added (life.fresh few).2

/-- Enrolling a session keeps the tables in step as long as identifiers do not wrap around. -/
theorem enroll (life : Lifecycle world) (few : world.enrolled.length + 1 < 2 ^ 64) :
    Lifecycle (SessionManager.enroll world) := by
  obtain ⟨next, unused⟩ := life.fresh few
  -- Nobody is stored under the new identifier, so a new session is emplaced.
  have absent := life.absent unused
  have found := SessionManager.enroll_session world
  simp only [absent, Option.getD_none] at found
  have enrolled := World.enroll_enrolled world
  have counts : ∀ other, (SessionManager.enroll world).disconnects other =
      world.disconnects other := by
    -- Neither of the two steps is a Disconnect.
    intro other
    simp [World.disconnects, SessionManager.enroll, SessionManager.addSession,
      World.modifyManager]
  refine ⟨?identity, ?created, ?once, ?counted, ?bounded, ?disconnects, ?orderly⟩
  case identity =>
    -- The new session carries the new identifier.
    intro other session located
    rw [found] at located
    split at located
    · next same => cases located; exact same.symm
    · exact life.identity other session located
  case created =>
    intro other stored
    -- A session that is stored now is the new one or was stored before.
    obtain ⟨session, located⟩ := World.mem_sessionIds.mp stored
    rw [found] at located
    rw [enrolled]
    split at located
    · next same => simp [same]
    · simp [life.created other (World.mem_sessionIds.mpr ⟨session, located⟩)]
  case once =>
    -- The new identifier was not in use.
    rw [enrolled]
    exact List.nodup_append.mpr ⟨life.once, List.nodup_singleton _, fun _ member _ last same =>
      unused (by rw [← List.mem_singleton.mp last, ← same]; exact member)⟩
  case counted =>
    -- The counter grows with the number of sessions.
    have given : (SessionManager.enroll world).nextSessionId = world.nextSessionId + 1 := rfl
    rw [enrolled, given, next, life.counted, List.length_append, List.length_singleton]
  case bounded =>
    intro other member
    have given : (SessionManager.enroll world).nextSessionId = world.nextSessionId + 1 := rfl
    -- An identifier is an old one or the last one.
    rw [enrolled, List.mem_append, List.mem_singleton] at member
    rw [given]
    rcases member with member | rfl
    · have bounded := life.bounded other member
      omega
    · exact Nat.le_refl _
  case disconnects =>
    intro other
    -- The new session is open and has raised nothing.
    rw [counts, life.disconnects]
    simp only [enrolled, World.open_iff, found]
    by_cases same : other = world.nextSessionId + 1
    · subst same
      simp [unused]
    · simp [same]
  case orderly =>
    -- When the session is added, its identifier is free.
    obtain ⟨first, second, log, kept⟩ := SessionManager.enroll_log world
    rw [log]
    simp only [History.each_append, History.each_cons, History.each_nil]
    exact ⟨life.orderly, kept.trans absent, trivial, trivial⟩

/-- Removing zombies names no new session, notifies nobody, and finds what it removes. -/
theorem removeSessions_log (sessionIds : List SessionId) {world : World}
    (nodup : sessionIds.Nodup) (ended : ∀ sessionId ∈ sessionIds, world.Zombie sessionId)
    (orderly : History.Each Orderly world.log) :
    (SessionManager.removeSessions sessionIds world).enrolled = world.enrolled ∧
    (∀ other, (SessionManager.removeSessions sessionIds world).disconnects other =
      world.disconnects other) ∧
    History.Each Orderly (SessionManager.removeSessions sessionIds world).log := by
  -- The sessions are removed one after the other.
  induction sessionIds generalizing world with
  | nil => exact ⟨rfl, fun _ => rfl, orderly⟩
  | cons sessionId rest ih =>
    obtain ⟨unlisted, nodup⟩ := List.nodup_cons.mp nodup
    have log : (SessionManager.removeSession sessionId world).log =
        world.log ++ [⟨.removeSession sessionId, world.controller⟩] := rfl
    -- The sessions that remain to be removed are others, so they are still stored.
    have still : ∀ other ∈ rest,
        (SessionManager.removeSession sessionId world).Zombie other := by
      intro other member
      have different : other ≠ sessionId := fun same => unlisted (same ▸ member)
      obtain ⟨session, located, final⟩ := World.zombie_iff.mp (ended other (by simp [member]))
      exact ⟨session, (AList.lookup_erase_eq sessionId other _).trans
        ((if_neg different).trans located), final⟩
    have next : History.Each Orderly (SessionManager.removeSession sessionId world).log := by
      rw [log]
      simp only [History.each_append, History.each_cons, History.each_nil]
      exact ⟨orderly, ended sessionId (by simp), trivial⟩
    obtain ⟨enrolled, counts, orderly'⟩ := ih nodup still next
    -- A removal adds nobody and raises nothing.
    refine ⟨enrolled.trans ?_, fun other => (counts other).trans ?_, orderly'⟩
    · simp [World.enrolled, log]
    · simp [World.disconnects, log]

/-- A cleanup keeps the tables in step. -/
theorem removeZombies (life : Lifecycle world) (listed : world.Listed) (env : Environment) :
    Lifecycle (SessionManager.removeZombies env world) := by
  have found := SessionManager.removeZombies_session env world
  obtain ⟨given, -, -⟩ := SessionManager.removeZombies_frame env world
  have logged : (SessionManager.removeZombies env world).enrolled = world.enrolled ∧
      (∀ other, (SessionManager.removeZombies env world).disconnects other =
        world.disconnects other) ∧
      History.Each Orderly (SessionManager.removeZombies env world).log := by
    -- Without zombies there is nothing to do; otherwise the walk visits each zombie once.
    unfold SessionManager.removeZombies
    split
    next => exact ⟨rfl, fun _ => rfl, life.orderly⟩
    next =>
      exact removeSessions_log _ (visit_nodup _ (AList.keys_nodup _))
        (fun sessionId member => (listed sessionId).mp (mem_visit.mp member)) life.orderly
  obtain ⟨enrolled, counts, orderly⟩ := logged
  -- What is left was there before.
  have left : ∀ {other session},
      (SessionManager.removeZombies env world).session other = some session →
      world.session other = some session := by
    intro other session located
    rw [found] at located
    split at located
    · cases located
    · exact located
  refine ⟨?identity, ?created, ?once, ?counted, ?bounded, ?disconnects, orderly⟩
  case identity => exact fun other session located => life.identity other session (left located)
  case created =>
    -- A session that is stored after the cleanup was stored before.
    intro other stored
    obtain ⟨session, located⟩ := World.mem_sessionIds.mp stored
    rw [enrolled]
    exact life.created other (World.mem_sessionIds.mpr ⟨session, left located⟩)
  case once => rw [enrolled]; exact life.once
  case counted => rw [enrolled, given]; exact life.counted
  case bounded => rw [enrolled, given]; exact life.bounded
  case disconnects =>
    intro other
    -- Open sessions are not removed, so each session is as open as it was.
    rw [counts, life.disconnects]
    simp only [enrolled, listed.removeZombies_open env other]

/-- A new process has no sessions. -/
theorem initial : Lifecycle {} where
  -- There is neither a session nor an action yet.
  identity _ _ located := by cases located
  created sessionId stored := absurd stored (AList.notMem_empty sessionId)
  once := List.nodup_nil
  counted := rfl
  bounded sessionId member := by cases member
  disconnects sessionId := by simp [World.disconnects, World.enrolled]
  orderly := History.each_nil Orderly

/-- Every step of the process keeps the tables in step as long as identifiers do not wrap around. -/
theorem kept (life : Lifecycle world) {env : Environment} {next : World}
    (step : ProcessStep env world next) (calm : world.NeverReady) (listed : world.Listed)
    (few : next.enrolled.length < 2 ^ 64) : Lifecycle next := by
  cases step with
  | bridge step =>
    cases step with
    | send sessionId value stored => exact life.sendHelper env .addressed sessionId value
    -- A report is logged, and then every session sends in turn.
    | executionReport value =>
      exact Controller.executionReport_preserves Lifecycle
        (life.record (.executionReport value) trivial)
        fun _ life => life.sendHelper env .unaddressed _ _
    | close peer sessionId alive => exact life.conclude env calm (Or.inl alive)
    | again sessionId ended => exact life.record (.makeZombie sessionId) trivial
  | reply sessionId value stored => exact life.sendHelper env .reply sessionId value
  | enroll =>
    -- The bound counts all identifiers that were given out, the new one included.
    apply life.enroll
    rw [World.enroll_enrolled, List.length_append] at few
    exact few
  | disconnected sessionId stored =>
    exact life.conclude env calm (Session.ends_of_stored stored)
  | check sessionId header alive =>
    exact (life.record (.check sessionId header) trivial).modifySession
      fun _ => ⟨rfl, rfl⟩
  | message sessionId message alive =>
    exact life.record (.message sessionId message) trivial
  | addRoute sessionId strategyId stored =>
    -- The routing tables are no part of what is asserted here.
    have noted := life.record (.addRoute sessionId strategyId) trivial
    exact ⟨noted.identity, noted.created, noted.once, noted.counted, noted.bounded,
      noted.disconnects, noted.orderly⟩
  | removeRoute sessionId strategyId stored =>
    have noted := life.record (.removeRoute sessionId strategyId) trivial
    exact ⟨noted.identity, noted.created, noted.once, noted.counted, noted.bounded,
      noted.disconnects, noted.orderly⟩
  | schedule nextCleanup =>
    exact ⟨life.identity, life.created, life.once, life.counted, life.bounded,
      life.disconnects, life.orderly⟩
  | removeZombies => exact life.removeZombies listed env
  | gatewayConnected sourceId sourceName =>
    exact life.record (.gatewayConnected sourceId sourceName) trivial
  | gatewayDisconnected sourceId sourceName =>
    exact life.record (.gatewayDisconnected sourceId sourceName) trivial

/-- In every run with fewer than 2^64 connections the tables are in step. -/
theorem of_run (env : Environment) (events : List Event)
    (few : (Process.run env events).world.enrolled.length < 2 ^ 64) :
    Lifecycle (Process.run env events).world := by
  -- The log only grows, so a run with few connections had few at every earlier point.
  refine Process.run_invariant env
    (fun world => world.enrolled.length < 2 ^ 64 → Lifecycle world)
    (fun _ => initial) (fun {world next} step calm listed life few => ?_) events few
  exact (life (Nat.lt_of_le_of_lt (World.enrolled_mono (step.log calm)) few)).kept step calm
    listed few

end Lifecycle

namespace SessionManager

/-- A walk over the sessions in which each of them sends a report leaves the table's keys alone. -/
theorem forSessions_sessionIds (env : Environment) (value : ExecutionReport)
    (sessionIds : List SessionId) (world : World) :
    (forSessions (fun sessionId => Session.sendHelper env .unaddressed sessionId
      (.executionReport value)) sessionIds world).sessionIds = world.sessionIds := by
  -- Sending changes the sessions that the walk visits, and no key of their table.
  induction sessionIds generalizing world with
  | nil => rfl
  | cons sessionId rest ih =>
    rw [forSessions, ih]
    exact Session.sendHelper_sessionIds ..

/-- A cleanup that is due removes the zombies and nobody else. -/
theorem timer_session {env : Environment} {now : Int} {world : World}
    (due : world.controller.sessionManager.nextCleanup < now) (sessionId : SessionId) :
    (timer env now world).session sessionId =
      if sessionId ∈ world.zombies then none else world.session sessionId := by
  -- A timer that is due removes the zombies and nothing else.
  unfold timer
  rw [if_pos due, removeZombies_session]
  rfl

/--
In every run with fewer than 2^64 connections, the manager's tables are in step between events.

The next cleanup removes the zombies and nobody else. Whenever a walk over one of the tables has
reached some of its keys, the keys of that table are still those at the start of the walk.
-/
theorem run_lifecycle (env : Environment) (events : List Event)
    (few : (Process.run env events).world.enrolled.length < 2 ^ 64) :
    let world := (Process.run env events).world
    world.Listed ∧ Lifecycle world ∧
    (∀ now sessionId, world.controller.sessionManager.nextCleanup < now →
      (world.Zombie sessionId → (timer env now world).session sessionId = none) ∧
      (¬ world.Zombie sessionId →
        (timer env now world).session sessionId = world.session sessionId)) ∧
    (∀ (start : World) value count, (forSessions (fun sessionId => Session.sendHelper env
        .unaddressed sessionId (.executionReport value))
        ((visit (env.order start) start.sessionIds).take count) start).sessionIds =
          start.sessionIds) ∧
    (∀ (start : World) count, (removeSessions
        ((visit (env.order start) start.zombies.keys).take count) start).zombies =
          start.zombies) := by
  intro world
  -- The list of zombies decides what the cleanup erases.
  have listed : world.Listed := Process.run_listed env events
  refine ⟨listed, Lifecycle.of_run env events few, fun now sessionId due => ?_,
    fun start value count => forSessions_sessionIds env value _ start,
    fun start count => (removeSessions_frame _ start).1⟩
  rw [timer_session due]
  exact ⟨fun ended => if_pos ((listed sessionId).mpr ended),
    fun kept => if_neg fun member => kept ((listed sessionId).mp member)⟩

/-- A session that logged on and was disconnected is in step with the tables, and so is a second. -/
theorem run_lifecycle_disconnected :
    Lifecycle (Process.run .plain [.accept, .read 1 logOn, .disconnected 1, .accept]).world :=
  (run_lifecycle .plain _ (by decide +kernel)).2.1

end SessionManager

end FixBridge
