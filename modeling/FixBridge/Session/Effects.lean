import FixBridge.Session.Steps

/-! What the steps change in the sessions, in the tables of their manager, and in the log. -/

namespace FixBridge

namespace SessionManager

section Disconnect

variable (sessionId other : SessionId) (world : World)

@[simp] theorem disconnect_log : (disconnect sessionId world).log =
    world.log ++ [⟨.disconnect sessionId, world.controller⟩] := rfl

@[simp] theorem disconnect_session :
    (disconnect sessionId world).session other = world.session other := rfl

@[simp] theorem disconnect_sessionIds :
    (disconnect sessionId world).sessionIds = world.sessionIds := rfl

@[simp] theorem disconnect_nextSessionId :
    (disconnect sessionId world).nextSessionId = world.nextSessionId := rfl

@[simp] theorem disconnect_gateways :
    (disconnect sessionId world).gateways = world.gateways := rfl

@[simp] theorem disconnect_routes : (disconnect sessionId world).routes = world.routes := rfl

/-- A session that disconnects waits for its removal. -/
@[simp] theorem mem_disconnect_zombies :
    other ∈ (disconnect sessionId world).zombies ↔ other = sessionId ∨ other ∈ world.zombies :=
  AList.mem_add

end Disconnect

end SessionManager

namespace Session

/-- What a sent message changes in the session that sends it. -/
def advance (sent : Sent) (session : Session) : Session :=
  { session with
    outbound := sent.header.msgSeqNum
    connection := { session.connection with sent := session.connection.sent ++ [sent] } }

/-- The last transition of a session. -/
def expire (session : Session) : Session := { session with state := .zombie }

/-- What `Connection::close` changes in the session that calls it. -/
def shut (session : Session) : Session :=
  { session with connection := { session.connection with closed := true } }

/-- What a received header changes in the session that looks at it. -/
def receive (header : Header) (session : Session) : Session :=
  { session with
    connection :=
      { session.connection with received := session.connection.received ++ [header] }
    compId := if session.compId = "" then header.senderCompId else session.compId
    inbound := header.msgSeqNum }

/-- A session that does not exist sends nothing. -/
theorem sendHelper_of_missing {env : Environment} {cause : Cause} {sessionId : SessionId}
    {value : Outbound} {world : World} (missing : world.session sessionId = none) :
    sendHelper env cause sessionId value world = world := by
  simp [sendHelper, missing]

/-- A stored session hands one message to its connection, with its next sequence number. -/
theorem sendHelper_of_stored (env : Environment) (cause : Cause) (value : Outbound)
    {sessionId : SessionId} {world : World} {session : Session}
    (located : world.session sessionId = some session) :
    ∃ sent : Sent, sent.value = value ∧ sent.accepted = env.accepts world sessionId ∧
      sent.header.msgSeqNum = session.outbound + 1 ∧
      sent.header.targetCompId = session.compId ∧
      sendHelper env cause sessionId value world =
        (world.record (.send sessionId cause sent)).modifySession sessionId (advance sent) := by
  -- The header is built from the session's fields before any of them changes.
  refine ⟨⟨?header, value, env.accepts world sessionId⟩, rfl, rfl, ?number, ?target, ?_⟩
  case header =>
    exact
      { version := .fix44
        msgType := value.msgType
        senderCompId := env.settings.fixCompId
        targetCompId := session.compId
        msgSeqNum := session.outbound + 1
        sendingTime := env.realtime world }
  case number => rfl
  case target => rfl
  simp only [sendHelper, located]
  rfl

/-- Sending adds and removes no session. -/
@[simp] theorem sendHelper_sessionIds (env : Environment) (cause : Cause)
    (sessionId : SessionId) (value : Outbound) (world : World) :
    (sendHelper env cause sessionId value world).sessionIds = world.sessionIds := by
  -- Either nobody sends, or one session records the send and is assigned to.
  cases located : world.session sessionId with
  | none => rw [sendHelper_of_missing located]
  | some session =>
    obtain ⟨sent, -, -, -, -, same⟩ := sendHelper_of_stored env cause value located
    rw [same, World.modifySession_sessionIds, World.record_sessionIds]

/-- The only step of a send is the send. -/
theorem sendHelper_extends (env : Environment) (cause : Cause) (sessionId : SessionId)
    (value : Outbound) (world : World) :
    History.Extends (fun step => ∃ sent, step.action = .send sessionId cause sent) world.log
      (sendHelper env cause sessionId value world).log := by
  -- A send is recorded once, by a session that exists.
  cases located : world.session sessionId with
  | none => rw [sendHelper_of_missing located]
  | some session =>
    obtain ⟨sent, -, -, -, -, same⟩ := sendHelper_of_stored env cause value located
    rw [same]
    exact .single ⟨sent, rfl⟩

/-- Sending changes only the session that sends, and not its state. -/
theorem sendHelper_frame (env : Environment) (cause : Cause) (sessionId : SessionId)
    (value : Outbound) (world : World) (other : SessionId) :
    ((sendHelper env cause sessionId value world).Open other ↔ world.Open other) ∧
    ((sendHelper env cause sessionId value world).Zombie other ↔ world.Zombie other) ∧
    (sendHelper env cause sessionId value world).zombies = world.zombies ∧
    (sendHelper env cause sessionId value world).routes = world.routes := by
  -- The assignment leaves the state of the sender as it was, and touches no other session.
  cases located : world.session sessionId with
  | none =>
    rw [sendHelper_of_missing located]
    exact ⟨Iff.rfl, Iff.rfl, rfl, rfl⟩
  | some session =>
    obtain ⟨sent, -, -, -, -, same⟩ := sendHelper_of_stored env cause value located
    rw [same]
    exact ⟨World.modifySession_open _ sessionId (advance sent) (fun _ => rfl) other,
      World.modifySession_zombie _ sessionId (advance sent) (fun _ => rfl) other, rfl, rfl⟩

/-- A zombie only notes that it was asked to become one. -/
theorem makeZombie_of_zombie {env : Environment} {sessionId : SessionId} {world : World}
    (ended : world.Zombie sessionId) :
    makeZombie env sessionId world = world.record (.makeZombie sessionId) := by
  -- The state is compared before the assignment, so nothing is raised a second time.
  obtain ⟨session, located, ended⟩ := World.zombie_iff.mp ended
  simp [makeZombie, located, ended]

/-- A session becomes a zombie and says so. -/
def retire (sessionId : SessionId) (world : World) : World :=
  SessionManager.disconnect sessionId
    ((world.record (.makeZombie sessionId)).modifySession sessionId expire)

section Retire

variable (sessionId : SessionId) (world : World)

/-- The session is asked to become a zombie, and notifies the manager when it is one. -/
@[simp] theorem retire_log : (retire sessionId world).log =
    world.log ++ [⟨.makeZombie sessionId, world.controller⟩,
      ⟨.disconnect sessionId, (world.modifySession sessionId expire).controller⟩] := by
  -- The second step sees the session as it is after the assignment.
  simp [retire]
  rfl

/-- Its own state is the only one that changes. -/
theorem retire_session (other : SessionId) : (retire sessionId world).session other =
    if other = sessionId then (world.session sessionId).map expire else world.session other := by
  -- The session is expired where it stands, and no other one is touched.
  rw [retire, SessionManager.disconnect_session, World.modifySession_session]
  rfl

@[simp] theorem retire_sessionIds : (retire sessionId world).sessionIds = world.sessionIds := by
  simp [retire]

@[simp] theorem retire_nextSessionId :
    (retire sessionId world).nextSessionId = world.nextSessionId := rfl

@[simp] theorem retire_gateways : (retire sessionId world).gateways = world.gateways := rfl

@[simp] theorem retire_routes : (retire sessionId world).routes = world.routes := rfl

/-- It waits for its removal. -/
@[simp] theorem mem_retire_zombies (other : SessionId) :
    other ∈ (retire sessionId world).zombies ↔ other = sessionId ∨ other ∈ world.zombies := by
  simp [retire]

end Retire

/-- An open session that is not ready retires. -/
theorem makeZombie_of_open {env : Environment} {sessionId : SessionId} {world : World}
    (calm : world.NeverReady) (alive : world.Open sessionId) :
    makeZombie env sessionId world = retire sessionId world := by
  -- Neither of the two conditions in the source holds, so that only the state changes.
  obtain ⟨session, located, alive⟩ := World.open_iff.mp alive
  have waiting := calm sessionId session located
  simp only [makeZombie, located, waiting, alive, if_false]
  rfl

/-- Closing its connection leaves a session as open as it was. -/
@[simp] theorem closeConnection_open {sessionId other : SessionId} {world : World} :
    (closeConnection sessionId world).Open other ↔ world.Open other :=
  World.modifySession_open (world.record _) sessionId shut (fun _ => rfl) other

/-- Closing its connection does not make a session ready. -/
theorem closeConnection_neverReady {sessionId : SessionId} {world : World}
    (calm : world.NeverReady) : (closeConnection sessionId world).NeverReady := by
  intro other session located
  -- The assignment changes the connection and leaves the state alone.
  simp only [closeConnection, World.modifySession_session, World.record_session] at located
  by_cases same : other = sessionId
  · subst same
    rw [if_pos rfl] at located
    obtain ⟨before, found, rfl⟩ := Option.map_eq_some_iff.mp located
    exact calm other before found
  · rw [if_neg same] at located
    exact calm other session located

/-- An open session that ends retires, between what its connection reports. -/
theorem conclude_of_open {env : Environment} (closes peer : Bool) {sessionId : SessionId}
    {world : World} (calm : world.NeverReady) (alive : world.Open sessionId) :
    conclude env closes peer sessionId world =
      let world := if closes then closeConnection sessionId world else world
      let world := if peer then world.record (.peerDisconnected sessionId) else world
      let world := retire sessionId world
      if peer then world.record (.disconnected sessionId) else world := by
  unfold conclude
  -- Closing the connection and recording what it reports come before the transition.
  have calm' : ∀ action,
      ((closeConnection sessionId world).record action).NeverReady :=
    fun _ => closeConnection_neverReady calm
  have alive' : (closeConnection sessionId world).Open sessionId := by simpa using alive
  -- There are four ways to end, each with its own steps before and after the transition.
  cases closes <;> cases peer
  · simp only [Bool.false_eq_true, if_false, makeZombie_of_open calm alive]
  · simp only [Bool.false_eq_true, if_false, if_true]
    rw [makeZombie_of_open (show (world.record _).NeverReady from calm) alive]
  · simp only [Bool.false_eq_true, if_false, if_true]
    rw [makeZombie_of_open (closeConnection_neverReady calm) alive']
  · simp only [if_true]
    rw [makeZombie_of_open (calm' _) alive']

/-- A zombie whose connection reports Disconnected only passes the report on. -/
theorem conclude_of_zombie {env : Environment} {sessionId : SessionId} {world : World}
    (ended : world.Zombie sessionId) :
    conclude env false true sessionId world =
      ((world.record (.peerDisconnected sessionId)).record (.makeZombie sessionId)).record
        (.disconnected sessionId) := by
  -- The second request to become a zombie is recorded and has no other effect.
  simp only [conclude, Bool.false_eq_true, if_false, if_true]
  rw [makeZombie_of_zombie (show (world.record _).Zombie sessionId from ended)]

section Conclude

variable (env : Environment) {closes peer : Bool} {sessionId : SessionId} {world : World}

/-- A session that ends is open, or is a zombie whose connection reports Disconnected. -/
def Ends (closes peer : Bool) (sessionId : SessionId) (world : World) : Prop :=
  world.Open sessionId ∨ (world.Zombie sessionId ∧ closes = false ∧ peer = true)

/-- Whatever session is stored, it ends when its connection reports Disconnected. -/
theorem ends_of_stored (stored : sessionId ∈ world.sessionIds) :
    Ends false true sessionId world := by
  -- A stored session is open or a zombie, and a report from the connection ends both.
  obtain ⟨session, located⟩ := World.mem_sessionIds.mp stored
  exact (World.open_or_zombie located).imp_right fun ended => ⟨ended, rfl, rfl⟩

/-- A session that ends is a zombie, and its connection is closed if the session closes it. -/
theorem conclude_session (calm : world.NeverReady) (ends : Ends closes peer sessionId world)
    (other : SessionId) :
    (conclude env closes peer sessionId world).session other =
      if other = sessionId then
        (world.session sessionId).map fun session =>
          expire (if closes then shut session else session)
      else world.session other := by
  -- Either the session is open and retires, or it has ended before and does not change.
  rcases ends with alive | ⟨ended, rfl, rfl⟩
  · rw [conclude_of_open closes peer calm alive]
    by_cases same : other = sessionId
    · subst same
      cases closes <;> cases peer <;>
        simp [retire_session, World.modifySession_session, closeConnection, Function.comp_def, shut]
    · cases closes <;> cases peer <;>
        simp [retire_session, World.modifySession_session, closeConnection, same]
  · rw [conclude_of_zombie ended]
    -- Making a zombie of a zombie assigns the state that it has.
    obtain ⟨session, located, final⟩ := World.zombie_iff.mp ended
    by_cases same : other = sessionId
    · subst same
      simp [located, expire, ← final]
    · simp [same]

/-- A session that ends is not open afterwards, and the others are as open as they were. -/
theorem conclude_open (calm : world.NeverReady) (ends : Ends closes peer sessionId world)
    (other : SessionId) :
    (conclude env closes peer sessionId world).Open other ↔
      other ≠ sessionId ∧ world.Open other := by
  -- The only state that changes is that of the session that ends.
  rw [World.open_iff, conclude_session env calm ends]
  by_cases same : other = sessionId
  · simp [same, expire]
  · simp [same, World.open_iff]

/-- A session that ends is a zombie. -/
theorem conclude_zombie (calm : world.NeverReady) (ends : Ends closes peer sessionId world) :
    (conclude env closes peer sessionId world).Zombie sessionId := by
  -- Whichever way the session ends, it was stored.
  have stored : ∃ session, world.session sessionId = some session := by
    rcases ends with ⟨session, located, -⟩ | ⟨⟨session, located, -⟩, -⟩ <;> exact ⟨session, located⟩
  obtain ⟨session, located⟩ := stored
  rw [World.zombie_iff, conclude_session env calm ends, if_pos rfl, located]
  exact ⟨_, rfl, rfl⟩

/-- An open session that ends joins the zombies. -/
theorem mem_conclude_zombies (calm : world.NeverReady) (ends : Ends closes peer sessionId world)
    (other : SessionId) :
    other ∈ (conclude env closes peer sessionId world).zombies ↔
      (other = sessionId ∧ world.Open sessionId) ∨ other ∈ world.zombies := by
  -- A zombie was listed when it became one, and is not listed a second time.
  rcases ends with alive | ⟨ended, rfl, rfl⟩
  · rw [conclude_of_open closes peer calm alive]
    cases closes <;> cases peer <;> simp [closeConnection, alive]
  · rw [conclude_of_zombie ended]
    simp [ended.not_open]

/-- An ending adds and removes no session, and leaves gateways and routes alone. -/
theorem conclude_frame (calm : world.NeverReady) (ends : Ends closes peer sessionId world) :
    (conclude env closes peer sessionId world).sessionIds = world.sessionIds ∧
    (conclude env closes peer sessionId world).nextSessionId = world.nextSessionId ∧
    (conclude env closes peer sessionId world).gateways = world.gateways ∧
    (conclude env closes peer sessionId world).routes = world.routes := by
  -- No part of an ending touches these members.
  rcases ends with alive | ⟨ended, rfl, rfl⟩
  · rw [conclude_of_open closes peer calm alive]
    cases closes <;> cases peer <;> simp [closeConnection]
  · rw [conclude_of_zombie ended]
    simp

/-- An ending asks the session once to become a zombie, with nothing else done to it before. -/
theorem conclude_steps (calm : world.NeverReady) (ends : Ends closes peer sessionId world) :
    ∃ earlier asked later,
      (conclude env closes peer sessionId world).log =
        world.log ++ earlier ++ ⟨.makeZombie sessionId, asked⟩ :: later ∧
      (asked.Open sessionId ↔ world.Open sessionId) ∧
      asked.shared = world.controller.shared ∧
      (∀ step ∈ earlier, step.action = .close sessionId ∨
        step.action = .peerDisconnected sessionId) ∧
      (∀ step ∈ later, step.action = .disconnect sessionId ∨
        step.action = .disconnected sessionId) := by
  -- An open session retires, and the four ways to end differ in what surrounds that.
  rcases ends with alive | ⟨ended, rfl, rfl⟩
  · -- Closing the connection is a step of its own, and leaves the session open.
    have shut : (closeConnection sessionId world).Open sessionId ↔ world.Open sessionId :=
      closeConnection_open
    have closed : (closeConnection sessionId world).log =
        world.log ++ [⟨.close sessionId, world.controller⟩] := rfl
    rw [conclude_of_open closes peer calm alive]
    let told := fun (world : World) => world.record (.peerDisconnected sessionId)
    let notified := fun (world : World) => (world.modifySession sessionId expire).controller
    let final := fun (world : World) => (retire sessionId world).controller
    cases closes <;> cases peer
    · -- An ending that is neither asked for nor reported raises Disconnect only.
      exact ⟨[], world.controller, [⟨.disconnect sessionId, notified world⟩],
        by simp [notified], Iff.rfl, rfl, by simp, by simp⟩
    · -- The connection reports Disconnected first, and the bridge is told last.
      exact ⟨[⟨.peerDisconnected sessionId, world.controller⟩], world.controller,
        [⟨.disconnect sessionId, notified (told world)⟩, ⟨.disconnected sessionId,
          final (told world)⟩],
        by simp [notified, final, told], Iff.rfl, rfl, by simp, by simp⟩
    · -- The session closes its connection, which reports nothing.
      exact ⟨[⟨.close sessionId, world.controller⟩], (closeConnection sessionId world).controller,
        [⟨.disconnect sessionId, notified (closeConnection sessionId world)⟩],
        by simp [notified, closed], shut, rfl, by simp, by simp⟩
    · -- The session closes its connection, and is re-entered before the call returns.
      exact ⟨[⟨.close sessionId, world.controller⟩, ⟨.peerDisconnected sessionId,
          (closeConnection sessionId world).controller⟩],
        (closeConnection sessionId world).controller,
        [⟨.disconnect sessionId, notified (told (closeConnection sessionId world))⟩,
          ⟨.disconnected sessionId, final (told (closeConnection sessionId world))⟩],
        by simp [notified, final, told, closed], shut, rfl, by simp, by simp⟩
  · -- A zombie is asked again, and the bridge is told again.
    rw [conclude_of_zombie ended]
    exact ⟨[⟨.peerDisconnected sessionId, world.controller⟩], world.controller,
      [⟨.disconnected sessionId, world.controller⟩], by simp, Iff.rfl, rfl, by simp, by simp⟩

/-- The steps of an ending are those of the session that ends. -/
theorem conclude_extends (calm : world.NeverReady) (ends : Ends closes peer sessionId world) :
    History.Extends (fun step => step.action = .close sessionId ∨
        step.action = .peerDisconnected sessionId ∨ step.action = .makeZombie sessionId ∨
        step.action = .disconnect sessionId ∨ step.action = .disconnected sessionId)
      world.log (conclude env closes peer sessionId world).log := by
  -- The steps are those before the transition, the transition, and those after it.
  obtain ⟨earlier, asked, later, log, -, -, before, after⟩ := conclude_steps env calm ends
  refine ⟨earlier ++ ⟨.makeZombie sessionId, asked⟩ :: later, by simp [log], ?_⟩
  intro step member
  rcases List.mem_append.mp member with told | later
  · rcases before step told with action | action <;> simp [action]
  · rcases List.mem_cons.mp later with rfl | notified
    · simp
    · rcases after step notified with action | action <;> simp [action]

end Conclude

end Session

namespace Controller

/-- A property that holds when a report is emitted and is kept by every send holds afterwards. -/
theorem executionReport_preserves {env : Environment} (property : World → Prop)
    {value : ExecutionReport} {world : World}
    (emitted : property (world.record (.executionReport value)))
    (kept : ∀ {world : World} {sessionId : SessionId}, sessionId ∈ world.sessionIds →
      property world →
      property (Session.sendHelper env .unaddressed sessionId (.executionReport value) world)) :
    property (executionReport env value world) := by
  -- The report visits sessions that are stored, and sending keeps them stored.
  have walk : ∀ sessionIds (world : World), (∀ sessionId ∈ sessionIds,
      sessionId ∈ world.sessionIds) → property world →
      property (SessionManager.forSessions (fun sessionId =>
        Session.sendHelper env .unaddressed sessionId (.executionReport value))
        sessionIds world) := by
    intro sessionIds
    -- One session sends after the other, each in the world that the others have left.
    induction sessionIds with
    | nil => exact fun _ _ holds => holds
    | cons sessionId rest ih =>
      intro world stored holds
      refine ih _ (fun other member => ?_) (kept (stored sessionId (by simp)) holds)
      rw [Session.sendHelper_sessionIds]
      exact stored other (by simp [member])
  exact walk _ _ (fun sessionId member => mem_visit.mp member) emitted

/-- The steps of a report are the report and the sends that it causes. -/
theorem executionReport_extends (env : Environment) (value : ExecutionReport) (world : World) :
    History.Extends (fun step => step.action = .executionReport value ∨
        ∃ sessionId sent, step.action = .send sessionId .unaddressed sent)
      world.log (executionReport env value world).log := by
  -- Every send adds one step to those that were taken before.
  refine executionReport_preserves (fun later => History.Extends _ world.log later.log)
    (.single (Or.inl rfl)) fun {later sessionId} _ grown => grown.trans ?_
  exact (Session.sendHelper_extends env .unaddressed sessionId _ later).mono
    fun step action => Or.inr ⟨sessionId, action⟩

/-- A report changes no state, no route, and no list of zombies. -/
theorem executionReport_frame (env : Environment) (value : ExecutionReport) (world : World)
    (other : SessionId) :
    ((executionReport env value world).Open other ↔ world.Open other) ∧
    ((executionReport env value world).Zombie other ↔ world.Zombie other) ∧
    (executionReport env value world).zombies = world.zombies ∧
    (executionReport env value world).routes = world.routes := by
  refine executionReport_preserves
    (fun later => (later.Open other ↔ world.Open other) ∧
      (later.Zombie other ↔ world.Zombie other) ∧ later.zombies = world.zombies ∧
      later.routes = world.routes)
    ⟨Iff.rfl, Iff.rfl, rfl, rfl⟩ fun {later sessionId} _ holds => ?_
  -- A send changes none of the four.
  obtain ⟨open_, zombie, zombies, routes⟩ := Session.sendHelper_frame env .unaddressed sessionId
    (.executionReport value) later other
  exact ⟨open_.trans holds.1, zombie.trans holds.2.1, zombies.trans holds.2.2.1,
    routes.trans holds.2.2.2⟩

end Controller

namespace SessionManager

/-- The sessions that are left are those that were not named. -/
theorem removeSessions_session (sessionIds : List SessionId) (world : World)
    (other : SessionId) :
    (removeSessions sessionIds world).session other =
      if other ∈ sessionIds then none else world.session other := by
  -- The sessions are erased one after the other.
  induction sessionIds generalizing world with
  | nil => simp [removeSessions]
  | cons sessionId rest ih =>
    -- Erasing one session leaves the others where they were.
    have erased : (removeSession sessionId world).session other =
        if other = sessionId then none else world.session other :=
      AList.lookup_erase_eq sessionId other _
    rw [removeSessions, ih, erased]
    -- A session is missing if it is the first one or among the rest.
    by_cases later : other ∈ rest <;> by_cases same : other = sessionId <;> simp [later, same]

/-- Removing sessions leaves everything but the table of sessions and the log alone. -/
theorem removeSessions_frame (sessionIds : List SessionId) (world : World) :
    (removeSessions sessionIds world).zombies = world.zombies ∧
    (removeSessions sessionIds world).nextSessionId = world.nextSessionId ∧
    (removeSessions sessionIds world).gateways = world.gateways ∧
    (removeSessions sessionIds world).routes = world.routes := by
  -- The loop assigns to the table of sessions only.
  induction sessionIds generalizing world with
  | nil => exact ⟨rfl, rfl, rfl, rfl⟩
  | cons sessionId rest ih => exact ih (removeSession sessionId world)

/-- The steps of a cleanup are the removals. -/
theorem removeSessions_extends (sessionIds : List SessionId) (world : World) :
    History.Extends (fun step => ∃ sessionId, step.action = .removeSession sessionId) world.log
      (removeSessions sessionIds world).log := by
  -- Induction on the ids; each removal logs itself.
  induction sessionIds generalizing world with
  | nil => rfl
  | cons sessionId rest ih =>
    exact .trans (.single ⟨sessionId, rfl⟩) (ih (removeSession sessionId world))

/-- The steps of a cleanup are the removals. -/
theorem removeZombies_extends (env : Environment) (world : World) :
    History.Extends (fun step => ∃ sessionId, step.action = .removeSession sessionId) world.log
      (removeZombies env world).log := by
  -- Without zombies nothing happens at all.
  unfold removeZombies
  split
  next => rfl
  next => exact removeSessions_extends _ world

/-- A cleanup erases the sessions that wait for their removal. -/
theorem removeZombies_session (env : Environment) (world : World) (other : SessionId) :
    (removeZombies env world).session other =
      if other ∈ world.zombies then none else world.session other := by
  unfold removeZombies
  split
  -- Nobody waits, so nobody is in the table of zombies.
  next empty => simp [AList.mem_keys, empty]
  next =>
    -- The walk visits every zombie, in whatever order.
    refine (removeSessions_session _ world other).trans ?_
    simp only [mem_visit, AList.mem_keys]

/-- After a cleanup no session waits for its removal. -/
theorem removeZombies_zombies (env : Environment) (world : World) (other : SessionId) :
    other ∉ (removeZombies env world).zombies := by
  -- Either there was no zombie, or the table was emptied.
  unfold removeZombies
  split
  next empty => simp [AList.mem_keys, empty]
  next => exact AList.notMem_empty other

/-- A cleanup leaves identifiers, gateways and routes alone. -/
theorem removeZombies_frame (env : Environment) (world : World) :
    (removeZombies env world).nextSessionId = world.nextSessionId ∧
    (removeZombies env world).gateways = world.gateways ∧
    (removeZombies env world).routes = world.routes := by
  -- Emptying the table of zombies touches nothing else.
  unfold removeZombies
  split
  next => exact ⟨rfl, rfl, rfl⟩
  next => exact (removeSessions_frame _ world).2

/-- Enrolling a session stores a new session, unless its identifier is in use. -/
theorem enroll_session (world : World) (other : SessionId) :
    (enroll world).session other =
      if other = world.nextSessionId + 1 then
        some ((world.session (world.nextSessionId + 1)).getD
          { sessionId := world.nextSessionId + 1 })
      else world.session other :=
  AList.lookup_emplace (world.nextSessionId + 1) other _ _

/-- A session that is stored after an enrolment was stored before, or it is the new one. -/
theorem enroll_stored {world : World} {other : SessionId} {session : Session}
    (located : (enroll world).session other = some session) :
    world.session other = some session ∨ (other = world.nextSessionId + 1 ∧
      world.session other = none ∧ session = { sessionId := other }) := by
  rw [enroll_session] at located
  split at located
  · next same =>
    -- If the identifier is in use, the old session stays.
    subst same
    cases found : world.session (world.nextSessionId + 1) with
    | none =>
      rw [found, Option.getD_none] at located
      exact Or.inr ⟨rfl, rfl, (Option.some.inj located).symm⟩
    | some before =>
      rw [found, Option.getD_some] at located
      exact Or.inl located
  · exact Or.inl located

/-- Enrolling a session takes two steps. -/
theorem enroll_log (world : World) : ∃ first second, (enroll world).log = world.log ++
    [⟨.addSession (world.nextSessionId + 1), first⟩,
      ⟨.connected (world.nextSessionId + 1), second⟩] ∧
    first.session (world.nextSessionId + 1) = world.session (world.nextSessionId + 1) :=
  ⟨_, _, List.append_assoc world.log [_] [_], rfl⟩

/-- A session that is open stays open when a connection is enrolled. -/
theorem enroll_open {world : World} {other : SessionId} (alive : world.Open other) :
    (enroll world).Open other := by
  -- An identifier that is in use is not overwritten, and the others are not touched.
  obtain ⟨session, located, waiting⟩ := World.open_iff.mp alive
  refine ⟨session, ?_, waiting⟩
  refine (enroll_session world other).trans ?_
  split
  · next same => rw [← same, located]; rfl
  · exact located

end SessionManager

namespace World

/-- The sessions that wait for their removal are the zombies. -/
def Listed (world : World) : Prop := ∀ sessionId, sessionId ∈ world.zombies ↔ world.Zombie sessionId

/-- A cleanup leaves the open sessions alone. -/
theorem Listed.removeZombies_open {world : World} (listed : world.Listed) (env : Environment)
    (other : SessionId) :
    (SessionManager.removeZombies env world).Open other ↔ world.Open other := by
  -- An open session is no zombie, so it was not listed and is not erased.
  rw [open_iff, SessionManager.removeZombies_session]
  by_cases ended : other ∈ world.zombies
  · simpa [ended] using ((listed other).mp ended).not_open
  · simp [ended, open_iff]

end World

/-- Every step keeps the list of zombies complete and correct. -/
theorem ProcessStep.listed {env : Environment} {world next : World}
    (step : ProcessStep env world next) (calm : world.NeverReady) (listed : world.Listed) :
    next.Listed := by
  -- A session that ends is in the table and a zombie, both from the same moment on.
  have concluded : ∀ {closes peer sessionId}, Session.Ends closes peer sessionId world →
      (Session.conclude env closes peer sessionId world).Listed := by
    intro closes peer sessionId ends other
    rw [Session.mem_conclude_zombies env calm ends]
    by_cases same : other = sessionId
    · -- The session was open and has joined the table, or was a zombie and in the table already.
      subst same
      refine iff_of_true ?_ (Session.conclude_zombie env calm ends)
      rcases ends with alive | ⟨ended, -, -⟩
      · exact Or.inl ⟨rfl, alive⟩
      · exact Or.inr ((listed other).mpr ended)
    · -- The state and the membership of the others stay as they were.
      rw [World.zombie_iff, Session.conclude_session env calm ends]
      simpa [same, World.zombie_iff] using listed other
  -- A send changes neither states nor the table.
  have sent : ∀ cause sessionId value,
      (Session.sendHelper env cause sessionId value world).Listed := by
    intro cause sessionId value other
    obtain ⟨-, zombie, zombies, -⟩ :=
      Session.sendHelper_frame env cause sessionId value world other
    rw [zombie, zombies]
    exact listed other
  cases step with
  | reply sessionId value stored => exact sent .reply sessionId value
  | bridge step =>
    cases step with
    | send sessionId value stored => exact sent .addressed sessionId value
    | executionReport value =>
      intro other
      obtain ⟨-, zombie, zombies, -⟩ := Controller.executionReport_frame env value world other
      rw [zombie, zombies]
      exact listed other
    | close peer sessionId alive => exact concluded (Or.inl alive)
    | again => exact listed
  | enroll =>
    intro other
    -- A new session is not listed and is no zombie.
    have kept : other ∈ (SessionManager.enroll world).zombies ↔ other ∈ world.zombies := Iff.rfl
    rw [kept, listed other, World.zombie_iff, World.zombie_iff, SessionManager.enroll_session]
    by_cases same : other = world.nextSessionId + 1
    · -- A stored session survives, and a new one is open.
      subst same
      cases world.session (world.nextSessionId + 1) <;> simp
    · -- The other sessions are not touched.
      simp [same]
  | disconnected sessionId stored => exact concluded (Session.ends_of_stored stored)
  | check sessionId header alive =>
    intro other
    -- Looking at a header changes no state.
    have kept : (Session.check sessionId header world).Zombie other ↔ world.Zombie other :=
      World.modifySession_zombie (world.record _) sessionId (Session.receive header)
        (fun _ => rfl) other
    rw [kept]
    exact listed other
  | message | addRoute | removeRoute | schedule | gatewayConnected | gatewayDisconnected =>
    exact listed
  | removeZombies =>
    intro other
    -- After a cleanup nobody is listed, and no zombie is left.
    refine iff_of_false (SessionManager.removeZombies_zombies env world other) ?_
    rw [World.zombie_iff, SessionManager.removeZombies_session]
    by_cases ended : other ∈ world.zombies
    · simp [ended]
    · -- A session that was not listed was no zombie, and is not touched.
      simpa [ended, World.zombie_iff] using mt (listed other).mpr ended

end FixBridge
