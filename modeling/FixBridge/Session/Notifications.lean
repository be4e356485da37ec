import FixBridge.Session.Lifecycle

/-! How often the bridge is told that a session disconnected. -/

namespace FixBridge

/-- How often an action was taken. -/
def tally (action : Action) (history : List Step) : Nat :=
  history.countP fun step => step.action = action

section Tally

variable (action : Action) (history rest : List Step) (step : Step)

@[simp] theorem tally_nil : tally action [] = 0 := rfl

@[simp] theorem tally_append :
    tally action (history ++ rest) = tally action history + tally action rest :=
  List.countP_append

@[simp] theorem tally_cons : tally action (step :: rest) =
    tally action rest + if step.action = action then 1 else 0 := by
  simp [tally, List.countP_cons]

end Tally

/-- What the bridge was told about a session before it is removed, or before it sends a message. -/
def Told (earlier : List Step) (step : Step) : Prop :=
  match step.action with
  | .removeSession sessionId =>
    tally (.disconnected sessionId) earlier = tally (.peerDisconnected sessionId) earlier
  | .message sessionId _ => tally (.disconnected sessionId) earlier = 0
  | _ => True

/-- The bridge is told what the connections report, and only about sessions that have ended. -/
structure Balanced (world : World) : Prop where
  /-- Disconnected is passed on as often as the connections report it. -/
  balanced : ∀ sessionId, tally (.disconnected sessionId) world.log =
    tally (.peerDisconnected sessionId) world.log
  /-- A session whose connection reported Disconnected has ended. -/
  ended : ∀ sessionId, tally (.peerDisconnected sessionId) world.log ≠ 0 →
    sessionId ∈ world.enrolled ∧ ¬ world.Open sessionId
  told : History.Each Told world.log

/-- An action that neither removes a session, nor concerns messages or reports of Disconnected. -/
def Action.Silent : Action → Prop
  | .removeSession _ | .message _ _ | .disconnected _ | .peerDisconnected _ => False
  | _ => True

namespace Balanced

variable {world next : World}

/-- Silent actions can be taken at any time if they open no session. -/
theorem extend (balance : Balanced world)
    (grown : History.Extends (fun step => step.action.Silent) world.log next.log)
    (closed : ∀ sessionId ∈ world.enrolled, next.Open sessionId → world.Open sessionId) :
    Balanced next := by
  -- None of the new actions is one that is counted.
  have disconnected : ∀ sessionId, tally (.disconnected sessionId) next.log =
      tally (.disconnected sessionId) world.log := fun sessionId =>
    grown.countP fun step silent => by
      cases action : step.action <;> simp_all [Action.Silent]
  have reported : ∀ sessionId, tally (.peerDisconnected sessionId) next.log =
      tally (.peerDisconnected sessionId) world.log := fun sessionId =>
    grown.countP fun step silent => by
      cases action : step.action <;> simp_all [Action.Silent]
  refine ⟨fun sessionId => ?_, fun sessionId some_ => ?_, ?_⟩
  · -- Both numbers are as they were.
    rw [disconnected, reported]
    exact balance.balanced sessionId
  · rw [reported] at some_
    -- A session that had ended was not opened by any of the actions.
    obtain ⟨added, ended⟩ := balance.ended sessionId some_
    exact ⟨World.mem_enrolled_of_log grown.isPrefix added, mt (closed sessionId added) ended⟩
  · refine grown.each balance.told fun earlier step silent => ?_
    -- The new steps are neither removals nor messages, so nothing is asked of them.
    cases action : step.action <;> simp_all [Action.Silent, Told]

/-- An ending tells the bridge what the connection reports, if it reports anything. -/
theorem conclude_tally (env : Environment) {closes peer : Bool} {sessionId : SessionId}
    (calm : world.NeverReady) (ends : Session.Ends closes peer sessionId world)
    (other : SessionId) :
    tally (.disconnected other) (Session.conclude env closes peer sessionId world).log =
      tally (.disconnected other) world.log + (if peer ∧ sessionId = other then 1 else 0) ∧
    tally (.peerDisconnected other) (Session.conclude env closes peer sessionId world).log =
      tally (.peerDisconnected other) world.log + (if peer ∧ sessionId = other then 1 else 0) := by
  -- With a report of the connection, both numbers grow by one.
  rcases ends with alive | ⟨ended, rfl, rfl⟩
  · rw [Session.conclude_of_open closes peer calm alive]
    cases closes <;> cases peer <;> simp [Session.closeConnection]
  · rw [Session.conclude_of_zombie ended]
    simp

/-- An ending tells the bridge what the connection reports, and the session has ended then. -/
theorem conclude (balance : Balanced world) (life : Lifecycle world) {env : Environment}
    {closes peer : Bool} {sessionId : SessionId} (calm : world.NeverReady)
    (ends : Session.Ends closes peer sessionId world) :
    Balanced (Session.conclude env closes peer sessionId world) := by
  have tallies := conclude_tally env calm ends
  have grown := Session.conclude_extends env calm ends
  refine ⟨fun other => ?_, fun other some_ => ?_, ?_⟩
  · -- The two numbers grow together.
    rw [(tallies other).1, (tallies other).2, balance.balanced]
  · rw [(tallies other).2] at some_
    rw [Session.conclude_open env calm ends]
    -- The session that ends has ended now, and the others keep what they had.
    by_cases same : sessionId = other
    · subst same
      -- Whichever way it ends, the session is stored.
      have stored : sessionId ∈ world.sessionIds := by
        rcases ends with ⟨session, located, -⟩ | ⟨⟨session, located, -⟩, -⟩ <;>
          exact World.mem_sessionIds.mpr ⟨session, located⟩
      exact ⟨World.mem_enrolled_of_log grown.isPrefix (life.created sessionId stored), by simp⟩
    · obtain ⟨added, ended⟩ := balance.ended other (by simpa [same] using some_)
      exact ⟨World.mem_enrolled_of_log grown.isPrefix added, fun alive => ended alive.2⟩
  · refine grown.each balance.told fun earlier step kind => ?_
    -- An ending neither removes a session nor hands over a message.
    rcases kind with action | action | action | action | action <;> simp [Told, action]

/-- A cleanup finds the bridge told about all that the connections reported. -/
theorem removeSessions (sessionIds : List SessionId) {world : World}
    (balanced : ∀ sessionId, tally (.disconnected sessionId) world.log =
      tally (.peerDisconnected sessionId) world.log)
    (told : History.Each Told world.log) :
    History.Each Told (SessionManager.removeSessions sessionIds world).log := by
  -- The removals come one after the other, and none of them changes a number.
  induction sessionIds generalizing world with
  | nil => exact told
  | cons sessionId rest ih =>
    have log : (SessionManager.removeSession sessionId world).log =
        world.log ++ [⟨.removeSession sessionId, world.controller⟩] := rfl
    refine ih (fun other => ?_) ?_
    · rw [log]
      simpa using balanced other
    · rw [log]
      simp only [History.each_append, History.each_cons, History.each_nil]
      -- At a removal, what the bridge was told is what the connection reported.
      exact ⟨told, by simpa [Told] using balanced sessionId, trivial⟩

/-- A new process has told the bridge nothing. -/
theorem initial : Balanced {} where
  balanced _ := rfl
  ended _ some_ := absurd rfl some_
  told := History.each_nil Told

/-- Every step of the process keeps the bridge informed. -/
theorem kept (balance : Balanced world) (life : Lifecycle world) {env : Environment}
    (step : ProcessStep env world next) (calm : world.NeverReady) (listed : world.Listed)
    (few : next.enrolled.length < 2 ^ 64) : Balanced next := by
  -- A send is silent.
  have sent : ∀ cause sessionId value,
      Balanced (Session.sendHelper env cause sessionId value world) := by
    intro cause sessionId value
    refine balance.extend ((Session.sendHelper_extends ..).mono ?_) fun other _ alive =>
      (Session.sendHelper_frame env cause sessionId value world other).1.mp alive
    intro step sends
    obtain ⟨sent, action⟩ := sends
    simp [action, Action.Silent]
  cases step with
  | reply sessionId value stored => exact sent .reply sessionId value
  | bridge step =>
    cases step with
    | send sessionId value stored => exact sent .addressed sessionId value
    | executionReport value =>
      refine balance.extend ((Controller.executionReport_extends ..).mono ?_) fun other _ alive =>
        (Controller.executionReport_frame env value world other).1.mp alive
      rintro step (action | ⟨_, _, action⟩) <;> simp [action, Action.Silent]
    | close peer sessionId alive => exact balance.conclude life calm (Or.inl alive)
    | again => exact balance.extend (.single trivial) fun _ _ alive => alive
  | enroll =>
    -- The steps of an addition are silent, but one of them opens a session.
    obtain ⟨first, second, log, -⟩ := SessionManager.enroll_log world
    refine balance.extend ⟨_, log, by simp [Action.Silent]⟩ fun other added alive => ?_
    -- That session is none of those whose connections reported something.
    exact life.open_before_enroll few added alive
  | disconnected sessionId stored =>
    exact balance.conclude life calm (Session.ends_of_stored stored)
  | check sessionId header alive =>
    exact balance.extend (.single trivial) fun other _ alive => Session.check_open.mp alive
  | message sessionId message alive =>
    -- A session that sends a message is open, so its connection has not reported Disconnected.
    have none_ : tally (.disconnected sessionId) world.log = 0 := by
      rw [balance.balanced]
      by_contra some_
      exact (balance.ended sessionId some_).2 alive
    refine ⟨fun other => ?_, fun other some_ => ?_, ?_⟩
    · simpa using balance.balanced other
    · simpa [World.enrolled] using balance.ended other (by simpa using some_)
    · simp only [World.record_log, History.each_append, History.each_cons, History.each_nil]
      exact ⟨balance.told, by simpa [Told] using none_, trivial⟩
  | addRoute | removeRoute | gatewayConnected | gatewayDisconnected =>
    exact balance.extend (.single trivial) fun _ _ alive => alive
  | schedule => exact balance.extend (.refl _ _) fun _ _ alive => alive
  | removeZombies =>
    -- A removal is not counted.
    have grown := SessionManager.removeZombies_extends env world
    have counts : ∀ action, (∀ sessionId, .removeSession sessionId ≠ action) →
        tally action (SessionManager.removeZombies env world).log = tally action world.log := by
      intro action different
      apply grown.countP
      intro step removes
      obtain ⟨sessionId, removal⟩ := removes
      simp [removal, different sessionId]
    refine ⟨fun other => ?_, fun other some_ => ?_, ?_⟩
    · rw [counts _ (by simp), counts _ (by simp)]
      exact balance.balanced other
    · -- A session that was reported is not opened by a cleanup.
      rw [counts _ (by simp)] at some_
      obtain ⟨added, ended⟩ := balance.ended other some_
      exact ⟨World.mem_enrolled_of_log grown.isPrefix added,
        mt (listed.removeZombies_open env other).mp ended⟩
    · -- The sessions are removed after everything that was told until then.
      unfold SessionManager.removeZombies
      split
      next => exact balance.told
      next => exact removeSessions _ balance.balanced balance.told

/-- In every run with fewer than 2^64 connections the bridge is informed. -/
theorem of_run (env : Environment) (events : List Event)
    (few : (Process.run env events).world.enrolled.length < 2 ^ 64) :
    Balanced (Process.run env events).world := by
  -- That identifiers are fresh is needed on the way, so both invariants are carried together.
  have both := Process.run_invariant env
    (fun world => world.enrolled.length < 2 ^ 64 → Lifecycle world ∧ Balanced world)
    (fun _ => ⟨Lifecycle.initial, initial⟩)
    (fun {world next} step calm listed holds few => by
      obtain ⟨life, balance⟩ :=
        holds (Nat.lt_of_le_of_lt (World.enrolled_mono (step.log calm)) few)
      exact ⟨life.kept step calm listed few, balance.kept life step calm listed few⟩)
    events few
  exact both.2

end Balanced

/-- The bridge is told once about every session that is removed, and not while it sends messages. -/
structure Notified (log : List Step) : Prop where
  /-- A session is removed after the bridge was told once that it disconnected. -/
  before : ∀ earlier step later, log = earlier ++ step :: later →
    ∀ sessionId, step.action = .removeSession sessionId →
      tally (.disconnected sessionId) earlier = 1
  /-- The bridge is not told again. -/
  once : ∀ sessionId, tally (.disconnected sessionId) log ≤ 1
  /-- The bridge is given no message of a session that it was told had disconnected. -/
  after : ∀ earlier step later, log = earlier ++ step :: later →
    ∀ sessionId message, step.action = .message sessionId message →
      tally (.disconnected sessionId) earlier = 0

/--
The bridge is told once about every session exactly if every session that is removed had its
connection report Disconnected.

Identifiers do not repeat, and a connection reports Disconnected at most once.
-/
theorem Process.run_notified (env : Environment) (events : List Event)
    (few : (run env events).world.enrolled.length < 2 ^ 64)
    (single : ∀ sessionId, tally (.peerDisconnected sessionId) (run env events).world.log ≤ 1) :
    Notified (run env events).world.log ↔
      ∀ earlier step later, (run env events).world.log = earlier ++ step :: later →
        ∀ sessionId, step.action = .removeSession sessionId →
          ∃ report ∈ earlier, report.action = .peerDisconnected sessionId := by
  have balance := Balanced.of_run env events few
  -- At a removal the bridge was told as often as the connection reported.
  have balanced : ∀ earlier step later, (run env events).world.log = earlier ++ step :: later →
      ∀ sessionId, step.action = .removeSession sessionId →
        tally (.disconnected sessionId) earlier = tally (.peerDisconnected sessionId) earlier := by
    intro earlier step later split sessionId action
    have told := balance.told earlier step later split
    simpa only [Told, action] using told
  -- To be counted is to be found in the log.
  have reported : ∀ earlier sessionId, 0 < tally (.peerDisconnected sessionId) earlier ↔
      ∃ report ∈ earlier, report.action = .peerDisconnected sessionId := by
    intro earlier sessionId
    simp [tally, List.countP_pos_iff]
  constructor
  · -- Before a removal the bridge was told once, so the connection must have reported.
    intro notified earlier step later split sessionId action
    rw [← reported, ← balanced earlier step later split sessionId action,
      notified.before earlier step later split sessionId action]
    exact Nat.one_pos
  · intro removed
    refine ⟨fun earlier step later split sessionId action => ?_, fun sessionId => ?_,
      fun earlier step later split sessionId message action => ?_⟩
    · -- The connection reported once before the removal, and at most once in the whole run.
      have some_ := (reported earlier sessionId).mpr
        (removed earlier step later split sessionId action)
      have most := single sessionId
      rw [split, tally_append] at most
      rw [balanced earlier step later split sessionId action]
      omega
    · rw [balance.balanced]
      exact single sessionId
    · -- That no message follows holds in every run.
      have told := balance.told earlier step later split
      simpa only [Told, action] using told

/-- A session whose connection reports Disconnected is removed after the bridge was told. -/
theorem Process.run_notified_disconnected :
    let log := (run .plain [.accept, .read 1 logOn, .disconnected 1, .timer 1]).world.log
    Notified log ↔ ∀ earlier step later, log = earlier ++ step :: later →
      ∀ sessionId, step.action = .removeSession sessionId →
        ∃ report ∈ earlier, report.action = .peerDisconnected sessionId := by
  refine run_notified .plain _ (by decide +kernel) fun sessionId => ?_
  -- At most one report of any kind is in the log, hence at most one for each session.
  have reports : (run .plain [.accept, .read 1 logOn, .disconnected 1, .timer 1]).world.log.countP
      (fun step => step.action matches .peerDisconnected _) ≤ 1 := by decide +kernel
  refine Nat.le_trans (List.countP_mono_left fun step _ report => ?_) reports
  simp [of_decide_eq_true report]

/-- A session that the bridge disconnects is removed, and the bridge is never told. -/
theorem Process.run_notified_closed :
    ¬ Notified (run .plain [.accept, .bridge [.disconnect 1 []], .timer 1]).world.log := by
  intro notified
  let log := (run .plain [.accept, .bridge [.disconnect 1 []], .timer 1]).world.log
  -- The sixth step of the run removes the session.
  have long : 5 < log.length := by decide +kernel
  have split : log = log.take 5 ++ log[5] :: log.drop 6 := by
    rw [← List.drop_eq_getElem_cons long, List.take_append_drop]
  have removed : ∀ step ∈ log[5]?, step.action = .removeSession 1 := by decide +kernel
  have told := notified.before _ _ _ split 1 (removed _ (List.getElem?_eq_getElem long))
  have untold : tally (.disconnected 1) (log.take 5) = 0 := by decide +kernel
  rw [untold] at told
  cases told

end FixBridge
