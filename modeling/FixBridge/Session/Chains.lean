import FixBridge.Session.Handling

/-! Every event is a chain of steps, so that an invariant of the steps holds in every run. -/

namespace FixBridge

section Chains

variable (env : Environment)

/-- Looking at a header leaves the sessions as open as they were. -/
@[simp] theorem Session.check_open {sessionId other : SessionId} {header : Header}
    {world : World} : (check sessionId header world).Open other ↔ world.Open other :=
  World.modifySession_open (world.record _) sessionId (receive header) (fun _ => rfl) other

/-- Parsing a frame of an open session is a chain of steps. -/
theorem Session.parseFrame_chain {sessionId : SessionId} (frame : List UInt8) {world : World}
    (calm : world.NeverReady) (alive : world.Open sessionId) :
    ProcessChain env world (outcome (parseFrame env sessionId frame world)) := by
  -- A frame that cannot be decoded throws before anything happens.
  unfold parseFrame
  cases env.decode frame with
  | none => exact .refl
  | some message =>
    -- The header is looked at first, and the session is as open after that as before.
    have checked : ProcessStep env world (check sessionId message.header world) :=
      .check world sessionId message.header alive
    exact .trans (.single checked)
      (parseHelper_chain env message (checked.neverReady calm) (check_open.mpr alive))

/-- The world in which the loop of the read handler ends. -/
def loopOutcome : Except World (World × Nat) → World
  | .ok (world, _) => world
  | .error world => world

/-- The loop of the read handler is a chain of steps. -/
theorem Session.readLoop_chain {sessionId : SessionId} (buffer : List UInt8) (totalBytes : Nat)
    {world : World} (calm : world.NeverReady) (alive : world.Open sessionId) :
    ProcessChain env world (loopOutcome (readLoop env sessionId buffer totalBytes world)) := by
  -- The induction follows the loop, one case per way in which it goes on or stops.
  induction buffer, totalBytes, world using readLoop.induct env sessionId with
  | case1 buffer totalBytes world none_ =>
    rw [readLoop_of_none none_]
    exact .refl
  | case2 buffer totalBytes world bytes found thrown failed =>
    -- The frame throws, and the loop ends with the exception.
    have chain := parseFrame_chain env (buffer.take bytes) calm alive
    rw [failed, outcome_error] at chain
    simpa only [readLoop_of_some found, failed, loopOutcome] using chain
  | case3 buffer totalBytes world bytes found next parsed alive' ih =>
    -- The session is open after the frame, so the loop goes on with the next one.
    have chain := parseFrame_chain env (buffer.take bytes) calm alive
    rw [parsed, outcome_ok] at chain
    have later := ih (chain.neverReady calm) alive'
    simp only [readLoop_of_some found, parsed, alive', if_true]
    exact .trans chain later
  | case4 buffer totalBytes world bytes found next parsed ended =>
    -- The frame ended the session, so the loop stops behind it.
    have chain := parseFrame_chain env (buffer.take bytes) calm alive
    rw [parsed, outcome_ok] at chain
    simpa only [readLoop_of_some found, parsed, ended, if_false, loopOutcome] using chain

/-- The read handler is a chain of steps. -/
theorem Process.read_chain (sessionId : SessionId) (bytes : List UInt8) {process : Process}
    (calm : process.world.NeverReady) :
    ProcessChain env process.world (process.read env sessionId bytes).world := by
  unfold read
  by_cases alive : process.world.Open sessionId
  · rw [if_pos alive]
    have chain := Session.readLoop_chain env (process.buffer sessionId ++ bytes) 0 calm
      alive
    -- The loop ends regularly or by an exception, after which the session is closed.
    cases result : Session.readLoop env sessionId (process.buffer sessionId ++ bytes) 0
      process.world with
    | ok final => simpa [result, loopOutcome] using chain
    | error thrown =>
      rw [result, loopOutcome] at chain
      have closed := Session.close_chain env (Session.handOver_chain env) sessionId
        (chain.neverReady calm)
      simpa only [result] using Relation.ReflTransGen.trans chain closed.process
  · -- A read on a session that has ended is ignored.
    rw [if_neg alive]

/-- What an event does before the bridge has control. -/
inductive Prepares : World → World → Prop where
  /-- Nothing, for example because the session is gone. -/
  | stay (world : World) : Prepares world world
  /-- A connection is accepted. -/
  | enroll (world : World) : Prepares world (SessionManager.enroll world)
  /-- A connection reports Disconnected. -/
  | disconnected (world : World) (sessionId : SessionId) (stored : sessionId ∈ world.sessionIds) :
      Prepares world (Session.conclude env false true sessionId world)
  /-- A session sends a logout. -/
  | logout (world : World) (sessionId : SessionId) (error : Error)
      (stored : sessionId ∈ world.sessionIds) :
      Prepares world (Session.sendHelper env .reply sessionId (.logout error.getText) world)
  /-- The next cleanup is scheduled, and this one is done. -/
  | cleanup (world : World) (nextCleanup : Int) :
      Prepares world (SessionManager.removeZombies env
        (world.modifyManager fun manager => { manager with nextCleanup }))
  /-- A gateway connects. -/
  | gatewayConnected (world : World) (sourceId : UInt8) (sourceName : String) :
      Prepares world (world.record (.gatewayConnected sourceId sourceName))
  /-- A gateway disconnects. -/
  | gatewayDisconnected (world : World) (sourceId : UInt8) (sourceName : String) :
      Prepares world (world.record (.gatewayDisconnected sourceId sourceName))

/-- What an event does before the bridge has control is a chain of steps. -/
theorem Prepares.chain {world start : World} (prepares : Prepares env world start) :
    ProcessChain env world start := by
  -- What an event does before the bridge is called is one step, or two for the timer.
  cases prepares with
  | stay => exact .refl
  | enroll => exact .single (.enroll world)
  | disconnected sessionId stored => exact .single (.disconnected world sessionId stored)
  | logout sessionId error stored => exact .single (.reply world sessionId _ stored)
  | cleanup nextCleanup => exact .trans (.single (.schedule world _)) (.single (.removeZombies _))
  | gatewayConnected sourceId sourceName =>
    exact .single (.gatewayConnected world sourceId sourceName)
  | gatewayDisconnected sourceId sourceName =>
    exact .single (.gatewayDisconnected world sourceId sourceName)

/-- Every event but a read prepares something, and then the bridge has control. -/
theorem Process.handle_cases (event : Event) {world : World} (calm : world.NeverReady) :
    ∃ start, Prepares env world start ∧ BridgeChain env start (handle env event world) := by
  have stays : ∃ start, Prepares env world start ∧ BridgeChain env start world :=
    ⟨world, .stay world, .refl⟩
  cases event with
  -- The session is stored before the bridge is told about it.
  | accept =>
    have enrolled : ProcessStep env world (SessionManager.enroll world) := .enroll world
    exact ⟨_, .enroll world, Controller.callbacks_chain env _ (enrolled.neverReady calm)⟩
  | read sessionId bytes => exact stays
  | disconnected sessionId =>
    -- The event is lost when the session has been removed already.
    simp only [handle, SessionManager.getSession]
    cases located : world.session sessionId with
    | none => exact stays
    | some session =>
      have stored := World.mem_sessionIds.mpr ⟨session, located⟩
      have ended : ProcessStep env world (Session.conclude env false true sessionId world) :=
        .disconnected world sessionId stored
      exact ⟨_, .disconnected world sessionId stored,
        Session.handOver_chain env _ (ended.neverReady calm)⟩
  | bridge calls => exact ⟨world, .stay world, Controller.callbacks_chain env calls calm⟩
  | timer now =>
    simp only [handle, SessionManager.timer]
    -- A cleanup is scheduled and done if its time has come.
    split
    · exact ⟨_, .cleanup world _, .refl⟩
    · exact stays
  | gatewayConnected sourceId sourceName calls =>
    exact ⟨_, .gatewayConnected world sourceId sourceName,
      Controller.callbacks_chain env calls calm⟩
  | gatewayDisconnected sourceId sourceName calls =>
    exact ⟨_, .gatewayDisconnected world sourceId sourceName,
      Controller.callbacks_chain env calls calm⟩
  | logout sessionId error =>
    simp only [handle, SessionManager.getSession]
    cases located : world.session sessionId with
    | none => exact stays
    | some session =>
      -- The logout is sent before the connection is closed.
      have stored := World.mem_sessionIds.mpr ⟨session, located⟩
      have sent : ProcessStep env world
          (Session.sendHelper env .reply sessionId (.logout error.getText) world) :=
        .reply world sessionId _ stored
      exact ⟨_, .logout world sessionId error stored,
        Session.close_chain env (Session.handOver_chain env) sessionId (sent.neverReady calm)⟩

/-- Every event but a read is a chain of steps. -/
theorem Process.handle_chain (event : Event) {world : World} (calm : world.NeverReady) :
    ProcessChain env world (handle env event world) := by
  -- First what the event does itself, then what the calls of the bridge do.
  obtain ⟨start, prepares, chain⟩ := handle_cases env event calm
  exact .trans (prepares.chain env) (BridgeChain.process chain)

/-- Every event is a chain of steps. -/
theorem Process.step_chain (event : Event) {process : Process}
    (calm : process.world.NeverReady) :
    ProcessChain env process.world (process.step env event).world := by
  -- Only bytes go through the parser; every other event is handled at once.
  cases event with
  | read sessionId bytes => exact read_chain env sessionId bytes calm
  | accept => exact handle_chain env .accept calm
  | disconnected sessionId => exact handle_chain env (.disconnected sessionId) calm
  | bridge calls => exact handle_chain env (.bridge calls) calm
  | timer now => exact handle_chain env (.timer now) calm
  | gatewayConnected sourceId sourceName calls =>
    exact handle_chain env (.gatewayConnected sourceId sourceName calls) calm
  | gatewayDisconnected sourceId sourceName calls =>
    exact handle_chain env (.gatewayDisconnected sourceId sourceName calls) calm
  | logout sessionId error => exact handle_chain env (.logout sessionId error) calm

/-- No session is ready in a new process. -/
theorem World.neverReady_initial : ({} : World).NeverReady := by
  -- There is no session yet.
  intro sessionId session located
  cases located

/-- A run with one more event is a run followed by a step. -/
theorem Process.run_concat (events : List Event) (event : Event) :
    run env (events ++ [event]) = (run env events).step env event :=
  List.foldl_concat ..

/-- Every run is a chain of steps, so no session is ever ready. -/
theorem Process.run_chain (events : List Event) :
    ProcessChain env {} (run env events).world := by
  induction events using List.reverseRecOn with
  -- The induction is on the last event, since a run is extended at its end.
  | nil => exact .refl
  | append_singleton events event ih =>
    rw [run_concat]
    exact .trans ih (step_chain env event (ProcessChain.neverReady ih World.neverReady_initial))

/-- No session is ready after a run. -/
theorem Process.run_neverReady (events : List Event) :
    (run env events).world.NeverReady :=
  ProcessChain.neverReady (run_chain env events) World.neverReady_initial

/-- A longer run has a longer log. -/
theorem Process.run_log {earlier events : List Event} (begins : earlier <+: events) :
    (run env earlier).world.log <+: (run env events).world.log := by
  obtain ⟨rest, rfl⟩ := begins
  -- Adding the events one by one lengthens the log each time.
  induction rest using List.reverseRecOn with
  | nil => simp
  | append_singleton rest event ih =>
    rw [← List.append_assoc, run_concat]
    have calm := run_neverReady env (earlier ++ rest)
    exact ih.trans (ProcessChain.log (step_chain env event calm) calm)

/-- The list of zombies is empty in a new process. -/
theorem World.listed_initial : ({} : World).Listed := by
  intro sessionId
  -- There are no sessions and no zombies, so both sides of the equivalence are false.
  have nobody : ¬ ({} : World).Zombie sessionId := by
    intro ended
    obtain ⟨_, located, -⟩ := World.zombie_iff.mp ended
    cases located
  exact iff_of_false (AList.notMem_empty sessionId) nobody

/-- The list of zombies is complete and correct after a run. -/
theorem Process.run_listed (events : List Event) :
    (run env events).world.Listed := by
  -- A cleanup keeps the list only where nobody is ready, so the two are carried together.
  have both := History.chain_preserves
    (fun world => world.NeverReady ∧ world.Listed)
    (fun step holds => ⟨step.neverReady holds.1, step.listed holds.1 holds.2⟩)
    (run_chain env events) ⟨World.neverReady_initial, World.listed_initial⟩
  exact both.2

/--
An invariant of the steps holds in every world that they lead to.

The steps start without a ready session and with a correct list of zombies.
-/
theorem ProcessChain.invariant (invariant : World → Prop) (initial : invariant {})
    (kept : ∀ {world next : World}, ProcessStep env world next → world.NeverReady →
      world.Listed → invariant world → invariant next)
    {world : World} (chain : ProcessChain env {} world) : invariant world := by
  -- The invariant may use that nobody is ready and that the list is correct.
  have all := History.chain_preserves
    (fun world => world.NeverReady ∧ world.Listed ∧ invariant world)
    (fun step holds => ⟨step.neverReady holds.1, step.listed holds.1 holds.2.1,
      kept step holds.1 holds.2.1 holds.2.2⟩)
    chain ⟨World.neverReady_initial, World.listed_initial, initial⟩
  exact all.2.2

/-- An invariant of the steps holds in every run. -/
theorem Process.run_invariant (invariant : World → Prop)
    (initial : invariant {})
    (kept : ∀ {world next : World}, ProcessStep env world next → world.NeverReady →
      world.Listed → invariant world → invariant next)
    (events : List Event) : invariant (run env events).world :=
  ProcessChain.invariant env invariant initial kept (run_chain env events)

end Chains

end FixBridge
