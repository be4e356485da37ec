import FixBridge.Library.Throttle
import FixBridge.Session.Lifecycle
import FixBridge.Session.Turns
import Mathlib.Algebra.Order.Group.Int

/-! When sessions are removed: by which events, how often, and how long a zombie has to wait. -/

namespace FixBridge

/-- The time of the cleanup timer, for an event that is one of its firings. -/
def Event.timer? : Event → Option Int
  | .timer now => some now
  | _ => none

namespace World

variable {world middle later : World}

/-- The time that has to pass before the next cleanup. -/
def nextCleanup (world : World) : Int := world.controller.sessionManager.nextCleanup

/-- No cleanup has taken place. -/
structure Spares (world later : World) : Prop where
  nextCleanup : later.nextCleanup = world.nextCleanup
  stored : world.sessionIds ⊆ later.sessionIds

/-- Without an event there is no cleanup. -/
theorem Spares.refl (world : World) : world.Spares world := ⟨rfl, fun _ => id⟩

/-- There is no cleanup in two parts of which neither has one. -/
theorem Spares.trans (before : world.Spares middle) (after : middle.Spares later) :
    world.Spares later where
  nextCleanup := after.nextCleanup.trans before.nextCleanup
  stored _ member := after.stored (before.stored member)

/-- What leaves the session manager alone is no cleanup. -/
theorem Spares.of_manager
    (same : later.controller.sessionManager = world.controller.sessionManager) :
    world.Spares later where
  -- Both facts are about the session manager, which is the same.
  nextCleanup := congrArg SessionManager.nextCleanup same
  stored := by
    rw [sessionIds, sessionIds, same]
    exact List.Subset.refl _

/-- An action by itself is no cleanup. -/
theorem Spares.record (world : World) (action : Action) : world.Spares (world.record action) :=
  .of_manager rfl

/-- Neither is an assignment to a session. -/
theorem Spares.modifySession (world : World) (sessionId : SessionId)
    (change : Session → Session) : world.Spares (world.modifySession sessionId change) where
  nextCleanup := rfl
  stored := by rw [modifySession_sessionIds]; exact List.Subset.refl _

end World

section Spares

variable {env : Environment} {world next later : World} {sessionId : SessionId}

/-- A send removes nobody. -/
theorem Session.sendHelper_spares (env : Environment) (cause : Cause) (sessionId : SessionId)
    (value : Outbound) (world : World) :
    world.Spares (sendHelper env cause sessionId value world) := by
  -- A session that is stored notes the message and counts it, and stays stored.
  cases located : world.session sessionId with
  | none =>
    rw [sendHelper_of_missing located]
    exact .refl world
  | some session =>
    obtain ⟨sent, -, -, -, -, same⟩ := sendHelper_of_stored env cause value located
    rw [same]
    exact (World.Spares.record world _).trans (.modifySession _ sessionId _)

/-- An ending only makes a zombie. -/
theorem Session.conclude_spares (env : Environment) {closes peer : Bool}
    (calm : world.NeverReady) (ends : Ends closes peer sessionId world) :
    world.Spares (conclude env closes peer sessionId world) where
  nextCleanup := by
    -- An open session becomes a zombie, and one that is a zombie is left alone.
    rcases ends with alive | ⟨ended, rfl, rfl⟩
    · rw [conclude_of_open closes peer calm alive]
      cases closes <;> cases peer <;> rfl
    · rw [conclude_of_zombie ended]
      rfl
  stored := by
    -- The frame of the ending says that the ids that are stored stay the same.
    rw [(conclude_frame env calm ends).1]
    exact List.Subset.refl _

/-- The bridge cannot cause a cleanup. -/
theorem BridgeStep.spares (step : BridgeStep env world next) (calm : world.NeverReady) :
    world.Spares next := by
  -- The bridge sends and closes, and neither of the two removes a session.
  cases step with
  | send sessionId value stored => exact Session.sendHelper_spares ..
  | executionReport value =>
    exact Controller.executionReport_preserves world.Spares (.record world _)
      fun _ before => before.trans (Session.sendHelper_spares ..)
  | close peer sessionId alive => exact Session.conclude_spares env calm (Or.inl alive)
  | again => exact .record world _

/-- So it does not cause one, however long it has control. -/
theorem BridgeChain.spares (chain : BridgeChain env world later) (calm : world.NeverReady) :
    world.Spares later := by
  -- Induction on the chain; no session is ever ready on the way.
  induction chain with
  | refl => exact .refl world
  | tail before step ih => exact ih.trans (step.spares ((BridgeChain.follows before calm).neverReady calm))

/-- Handling a message removes nobody. -/
theorem Session.Handles.spares {message : Message} {result : Except World World}
    (handles : Handles env sessionId message world result) (calm : world.NeverReady) :
    world.Spares (outcome result) := by
  -- What the bridge does with the message comes first in all cases but two.
  have controlled : ∀ {next}, BridgeChain env (handed sessionId message world) next →
      world.Spares next := fun chain =>
    (World.Spares.record world _).trans (BridgeChain.spares chain calm)
  cases handles with
  | refused undelivered => exact .refl world
  | rejected unsupported => exact sendHelper_spares ..
  | passed supported delivered other chain => exact controlled chain
  | thrown supported delivered chain reason => exact controlled chain
  | settled kind created chain kept named =>
    -- A user request settles the routes and sends its reply, and neither removes a session.
    obtain ⟨middle, userStatus, text, settles, same⟩ := settle_cases env sessionId _ _ _
    rw [outcome_ok, same]
    exact (controlled chain).trans (.trans (.of_manager settles.manager) (sendHelper_spares ..))

/-- Parsing a frame removes nobody. -/
theorem Session.receiveFrame_spares (frame : List UInt8) (calm : world.NeverReady)
    (alive : world.Open sessionId) : world.Spares (receiveFrame env sessionId frame world) := by
  rcases receiveFrame_cases env sessionId frame calm alive with
    ⟨-, chain⟩ | ⟨message, result, -, handles, chain⟩
  · exact BridgeChain.spares chain calm
  · have checked : ProcessStep env world (check sessionId message.header world) :=
      .check world sessionId message.header alive
    have calm' := checked.neverReady calm
    have looked : world.Spares (check sessionId message.header world) :=
      (World.Spares.record world _).trans (.modifySession _ sessionId _)
    -- A close that follows an exception removes nobody either.
    exact (looked.trans (handles.spares calm')).trans
      (BridgeChain.spares chain ((handles.ages calm').neverReady calm'))

/-- A new session takes nobody's place. -/
theorem SessionManager.enroll_spares (world : World) : world.Spares (enroll world) where
  nextCleanup := rfl
  stored sessionId stored := by
    -- The new session is stored beside the older ones.
    obtain ⟨session, located⟩ := World.mem_sessionIds.mp stored
    rw [World.mem_sessionIds, enroll_session]
    split
    · exact ⟨_, rfl⟩
    · exact ⟨session, located⟩

/-- Removing sessions postpones no cleanup. -/
theorem SessionManager.removeSessions_nextCleanup (sessionIds : List SessionId) (world : World) :
    (removeSessions sessionIds world).nextCleanup = world.nextCleanup := by
  -- Induction on the ids; a removal does not touch the time of the next cleanup.
  induction sessionIds generalizing world with
  | nil => rfl
  | cons sessionId rest ih => exact ih _

/-- A firing of the timer schedules the next cleanup if this one is due. -/
theorem SessionManager.timer_nextCleanup (env : Environment) (now : Int) (world : World) :
    (timer env now world).nextCleanup =
      Throttle.next cleanupFrequency world.nextCleanup now := by
  -- A timer that fires too early does nothing, and one that is late enough sets the time anew.
  unfold timer Throttle.next World.nextCleanup
  split
  · unfold removeZombies
    split
    · rfl
    · exact removeSessions_nextCleanup _ _
  · rfl

end Spares

namespace Process

variable (env : Environment)

/-- A read removes nobody. -/
theorem read_spares (earlier : List Event) (sessionId : SessionId) (bytes : List UInt8) :
    (run env earlier).world.Spares ((run env earlier).read env sessionId bytes).world := by
  have split : earlier ++ [.read sessionId bytes] = earlier ++ .read sessionId bytes :: [] := rfl
  -- A read is a sequence of frames, each of which spares everybody.
  refine read_turns env (run env earlier).world.Spares split (fun receives before => ?_) (.refl _)
  exact before.trans (Session.receiveFrame_spares _ receives.neverReady receives.alive)

/-- No event removes anybody but a firing of the timer. -/
theorem handle_spares (event : Event) (other : event.timer? = none) {world : World}
    (calm : world.NeverReady) : world.Spares (handle env event world) := by
  have controlled (calls : List Callback) {start : World} (before : world.Spares start)
      (calm' : start.NeverReady) : world.Spares (Controller.callbacks env calls start) :=
    before.trans (BridgeChain.spares (Controller.callbacks_chain env calls calm') calm')
  -- Only the event itself has to be looked at, as the bridge causes no cleanup afterwards.
  cases event with
  | accept =>
    have enrolled : ProcessStep env world (SessionManager.enroll world) := .enroll world
    exact controlled _ (SessionManager.enroll_spares world) (enrolled.neverReady calm)
  | read sessionId bytes => exact .refl world
  | disconnected sessionId =>
    simp only [handle, SessionManager.getSession]
    cases located : world.session sessionId with
    | none => exact .refl world
    | some session =>
      have stored := World.mem_sessionIds.mpr ⟨session, located⟩
      have ended : ProcessStep env world (Session.conclude env false true sessionId world) :=
        .disconnected world sessionId stored
      exact controlled _ (Session.conclude_spares env calm (Session.ends_of_stored stored))
        (ended.neverReady calm)
  | bridge calls => exact controlled calls (.refl world) calm
  | timer now => cases other
  | gatewayConnected sourceId sourceName calls =>
    exact controlled calls (.record world _) calm
  | gatewayDisconnected sourceId sourceName calls =>
    exact controlled calls (.record world _) calm
  | logout sessionId error =>
    simp only [handle, SessionManager.getSession]
    cases located : world.session sessionId with
    | none => exact .refl world
    | some session =>
      have stored := World.mem_sessionIds.mpr ⟨session, located⟩
      have sent : ProcessStep env world
          (Session.sendHelper env .reply sessionId (.logout error.getText) world) :=
        .reply world sessionId _ stored
      have calm' := sent.neverReady calm
      exact (Session.sendHelper_spares env .reply sessionId _ world).trans
        (BridgeChain.spares (Session.close_chain env (Session.handOver_chain env) sessionId calm')
          calm')

/-- Neither does any event of a run but a firing of the timer. -/
theorem step_spares (earlier : List Event) (event : Event) (other : event.timer? = none) :
    (run env earlier).world.Spares ((run env earlier).step env event).world := by
  -- Bytes are read by the session, and any other event is handled at once.
  by_cases plain : ∀ sessionId bytes, event ≠ .read sessionId bytes
  · rw [step_world env plain]
    exact handle_spares env event other (run_neverReady env earlier)
  · simp only [not_forall, not_not] at plain
    obtain ⟨sessionId, bytes, rfl⟩ := plain
    exact read_spares env earlier sessionId bytes

/-- The times at which the timer has fired. -/
def timers (events : List Event) : List Int := events.filterMap Event.timer?

/-- The time that has to pass before the next cleanup. -/
def cleanupDue (events : List Event) : Int :=
  Throttle.due SessionManager.cleanupFrequency 0 (timers events)

/-- One more event matters if it is a firing of the timer. -/
theorem cleanupDue_concat (earlier : List Event) (event : Event) :
    cleanupDue (earlier ++ [event]) =
      event.timer?.elim (cleanupDue earlier)
        (Throttle.next SessionManager.cleanupFrequency (cleanupDue earlier)) := by
  -- Only timers count, so that the new event adds a time or nothing.
  rw [cleanupDue, timers, List.filterMap_append]
  cases fired : event.timer? with
  | none => simp [fired, cleanupDue, timers]
  | some now => simpa [fired, cleanupDue, timers] using Throttle.due_concat

/-- When the next cleanup may take place depends on the firings of the timer alone. -/
theorem run_nextCleanup (events : List Event) :
    (run env events).world.nextCleanup = cleanupDue events := by
  -- Induction on the run; the member changes at timers alone, and as the history says.
  induction events using List.reverseRecOn with
  | nil => rfl
  | append_singleton earlier event ih =>
    rw [run_concat, cleanupDue_concat, ← ih]
    cases fired : event.timer? with
    | none => exact (step_spares env earlier event fired).nextCleanup
    | some now =>
      obtain rfl : event = .timer now := by cases event <;> cases fired; rfl
      exact SessionManager.timer_nextCleanup env now _

/-- A firing that is late enough removes the zombies and nobody else. -/
theorem late_removes (earlier : List Event) {now : Int} (late : cleanupDue earlier < now)
    (sessionId : SessionId) :
    (run env (earlier ++ [.timer now])).world.session sessionId =
      if sessionId ∈ (run env earlier).world.zombies then none
      else (run env earlier).world.session sessionId := by
  -- The member has the time that the history of timers gives it.
  rw [run_concat]
  exact SessionManager.timer_session ((run_nextCleanup env earlier).trans_lt late) sessionId

/-- No session goes without a firing that is late enough. -/
theorem early_spares (earlier : List Event) {event : Event}
    (early : ∀ now, event = .timer now → now ≤ cleanupDue earlier) :
    (run env earlier).world.sessionIds ⊆ (run env (earlier ++ [event])).world.sessionIds := by
  rw [run_concat]
  cases fired : event.timer? with
  | none => exact (step_spares env earlier event fired).stored
  | some now =>
    obtain rfl : event = .timer now := by cases event <;> cases fired; rfl
    -- A firing that is too early changes nothing.
    have waits : ((run env earlier).step env (.timer now)).world = (run env earlier).world :=
      if_neg (not_lt.mpr ((early now rfl).trans_eq (run_nextCleanup env earlier).symm))
    intro sessionId stored
    rw [waits]
    exact stored

/-- A session is removed by a firing of the timer that is late enough. -/
theorem late_of_removed {earlier : List Event} {event : Event} {sessionId : SessionId}
    (stored : sessionId ∈ (run env earlier).world.sessionIds)
    (removed : sessionId ∉ (run env (earlier ++ [event])).world.sessionIds) :
    ∃ now, event = .timer now ∧ cleanupDue earlier < now := by
  -- An event that is no timer spares the sessions, and so does one that comes too early.
  by_contra none_
  push Not at none_
  exact removed (early_spares env earlier none_ stored)

/--
A run removes the zombies, and nobody else, exactly when the timer fires late enough.

How late depends on the earlier firings alone: the first one has to be positive, and every other
cleanup is due one second after the one before it. All other events keep every session stored.
-/
theorem run_cleanups (earlier : List Event) (event : Event) :
    let world := (run env earlier).world
    let next := (run env (earlier ++ [event])).world
    (∀ now, event = .timer now → cleanupDue earlier < now → ∀ sessionId,
      (world.Zombie sessionId → next.session sessionId = none) ∧
      (¬ world.Zombie sessionId → next.session sessionId = world.session sessionId)) ∧
    ((∀ now, event = .timer now → now ≤ cleanupDue earlier) →
      world.sessionIds ⊆ next.sessionIds) := by
  refine ⟨?_, early_spares env earlier⟩
  rintro now rfl late sessionId
  rw [late_removes env earlier late]
  -- The zombies are those that are listed for their removal.
  have listed := run_listed env earlier sessionId
  exact ⟨fun ended => if_pos (listed.mpr ended), fun other => if_neg (mt listed.mp other)⟩

variable {env}

/-- Two events that both remove somebody are firings more than one second apart. -/
theorem run_spaced {earlier middle : List Event} {first second : Event}
    {sessionId other : SessionId} (stored : sessionId ∈ (run env earlier).world.sessionIds)
    (removed : sessionId ∉ (run env (earlier ++ [first])).world.sessionIds)
    (stored' : other ∈ (run env (earlier ++ first :: middle)).world.sessionIds)
    (removed' : other ∉ (run env (earlier ++ first :: middle ++ [second])).world.sessionIds) :
    ∃ now later, first = .timer now ∧ second = .timer later ∧
      now + SessionManager.cleanupFrequency < later := by
  obtain ⟨now, rfl, late⟩ := late_of_removed env stored removed
  obtain ⟨later, rfl, again⟩ := late_of_removed env stored' removed'
  -- The first firing is one of those that determine when the second is late enough.
  have between : timers (earlier ++ .timer now :: middle) = timers earlier ++ now :: timers middle := by
    simp [timers, Event.timer?]
  rw [cleanupDue, between] at again
  exact ⟨now, later, rfl, rfl, Throttle.apart (by decide) late again⟩

/-- A second zombie is not removed at once, but the firing that removes it is late enough. -/
theorem run_spaced_twice :
    let first := [Event.accept, .disconnected 1, .timer 1, .accept, .disconnected 2, .timer 2]
    2 ∈ (run .plain first).world.sessionIds ∧
      (1 : Int) + SessionManager.cleanupFrequency < 1000000002 := by
  -- Each of the two firings removes the one session that has ended by then.
  refine ⟨by decide +kernel, ?_⟩
  obtain ⟨now, later, first, second, apart⟩ := @run_spaced .plain [.accept, .disconnected 1]
    [.accept, .disconnected 2, .timer 2] (.timer 1) (.timer 1000000002) 1 2 (by decide +kernel)
    (by decide +kernel) (by decide +kernel) (by decide +kernel)
  cases first
  cases second
  exact apart

/-- A session that has raised Disconnect is not open again. -/
theorem not_open_later {earlier middle : List Event} {sessionId : SessionId}
    (few : (run env (earlier ++ middle)).world.enrolled.length < 2 ^ 64)
    (ended : (run env earlier).world.Zombie sessionId) :
    ¬ (run env (earlier ++ middle)).world.Open sessionId := by
  have grown := run_log env (List.prefix_append earlier middle)
  have before := Lifecycle.of_run env earlier (Nat.lt_of_le_of_lt (World.enrolled_mono grown) few)
  have after := Lifecycle.of_run env (earlier ++ middle) few
  obtain ⟨session, located, -⟩ := World.zombie_iff.mp ended
  have added := before.created sessionId (World.mem_sessionIds.mpr ⟨session, located⟩)
  have raised := before.disconnects sessionId
  rw [if_pos ⟨added, ended.not_open⟩] at raised
  -- What was raised once is still in the log, and an open session has raised nothing.
  intro alive
  have silent := after.disconnects sessionId
  rw [if_neg fun both => both.2 alive] at silent
  have least : (run env earlier).world.disconnects sessionId ≤
      (run env (earlier ++ middle)).world.disconnects sessionId :=
    grown.sublist.countP_le
  omega

/--
A zombie is removed by the first firing that comes more than one second after all the others.

It does not matter when the session has ended, or what has happened since then.
-/
theorem run_reclaimed {earlier middle : List Event} {now : Int} {sessionId : SessionId}
    (few : (run env (earlier ++ middle)).world.enrolled.length < 2 ^ 64)
    (ended : (run env earlier).world.Zombie sessionId) (positive : 0 < now)
    (late : ∀ before ∈ timers (earlier ++ middle),
      before + SessionManager.cleanupFrequency < now) :
    (run env (earlier ++ middle ++ [.timer now])).world.session sessionId = none := by
  rw [late_removes env (earlier ++ middle) (Throttle.due_lt positive late)]
  -- The session is a zombie still, or it has been removed before.
  split
  · rfl
  · next unlisted =>
    have gone := mt (run_listed env (earlier ++ middle) sessionId).mpr unlisted
    cases located : (run env (earlier ++ middle)).world.session sessionId with
    | none => rfl
    | some session =>
      rcases World.open_or_zombie located with alive | still
      · exact absurd alive (not_open_later few ended)
      · exact absurd still gone

/-- A session that ends right after a cleanup is removed by a firing that is late enough. -/
theorem run_reclaimed_second :
    (run .plain ([.accept, .timer 1, .disconnected 1] ++ [.timer 2] ++
      [.timer 1000000003])).world.session 1 = none :=
  @run_reclaimed .plain [.accept, .timer 1, .disconnected 1] [.timer 2] 1000000003 1
    (by decide +kernel) ⟨_, rfl, rfl⟩ (by decide) (by decide)

end Process

end FixBridge
