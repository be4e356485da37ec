import FixBridge.Library.Publishing
import FixBridge.Session.Life

/-! Reports without a session id are published to the stored sessions, in one order for all. -/

namespace FixBridge

/-- What a step is to the group of the stored sessions. -/
def Step.publication? (step : Step) : Option (Publishing.Event SessionId ExecutionReport) :=
  match step.action with
  | .addSession sessionId => some (.join sessionId)
  | .removeSession sessionId => some (.leave sessionId)
  | .executionReport value => some (.publish value)
  | _ => none

/-- What a session sends that is addressed to nobody. -/
def Step.forwarded? (observed : SessionId) (step : Step) : Option Outbound :=
  match step.action with
  | .send sessionId .unaddressed sent => if sessionId = observed then some sent.value else none
  | _ => none

namespace World

/-- What has happened to the group of the stored sessions. -/
def publications (world : World) : List (Publishing.Event SessionId ExecutionReport) :=
  world.log.filterMap Step.publication?

/-- Everything that a session has sent that was addressed to nobody, in order. -/
def forwarded (observed : SessionId) (world : World) : List Outbound :=
  world.log.filterMap (Step.forwarded? observed)

/-- The sessions that join the group are those that are enrolled. -/
theorem joined_publications (world : World) :
    Publishing.joined world.publications = world.enrolled := by
  -- A session joins where it is created, step by step.
  rw [Publishing.joined, publications, enrolled, List.filterMap_filterMap]
  refine List.filterMap_congr fun step _ => ?_
  unfold Step.publication?
  cases step.action <;> rfl

end World

/-- A step by which a session sends a report that is addressed to nobody. -/
def Step.Forwards (value : ExecutionReport) (sessionId : SessionId) (step : Step) : Prop :=
  ∃ sent, step.action = .send sessionId .unaddressed sent ∧ sent.value = .executionReport value

/-- Every report is followed at once by a send of every session that is stored. -/
def Atomic (log : List Step) : Prop :=
  ∀ earlier value before later, log = earlier ++ ⟨.executionReport value, before⟩ :: later →
    ∃ sessionIds sends rest, later = sends ++ rest ∧
      sessionIds.Perm before.sessionManager.sessions.keys ∧
      List.Forall₂ (Step.Forwards value) sessionIds sends

/-- The stored sessions are the members of a group, and send what is published to it. -/
structure Publishes (world : World) : Prop where
  member : ∀ sessionId, Publishing.after sessionId false world.publications =
    decide (sessionId ∈ world.sessionIds)
  forwarded : ∀ sessionId, world.forwarded sessionId =
    (Publishing.received sessionId false world.publications).map .executionReport
  atomic : Atomic world.log

namespace Publishes

variable {world next : World}

/-- Nothing is published in a new process. -/
theorem initial : Publishes {} where
  member _ := rfl
  forwarded _ := rfl
  atomic earlier value before later cut := by simp at cut

/-- Single actions separate no report from its sends. -/
theorem atomic_extend {log grown : List Step} (atomic : Atomic log)
    (extends_ : History.Extends (fun step => step.action.Single) log grown) : Atomic grown := by
  obtain ⟨rest, rfl, single⟩ := extends_
  intro earlier value before later cut
  rcases List.append_eq_append_iff.mp cut with ⟨middle, rfl, appended⟩ | ⟨middle, rfl, appended⟩
  · -- The report would be one of the single actions.
    have member : (⟨.executionReport value, before⟩ : Step) ∈ rest := by rw [appended]; simp
    exact (single _ member).elim
  · rcases List.cons_eq_append_iff.mp appended with ⟨rfl, appended⟩ | ⟨others, rfl, rfl⟩
    · have member : (⟨.executionReport value, before⟩ : Step) ∈ rest := by
        rw [← List.nil_append rest, ← appended]
        exact List.mem_cons_self
      exact (single _ member).elim
    · obtain ⟨sessionIds, sends, between, rfl, stored, forwards⟩ := atomic earlier value before _ rfl
      exact ⟨sessionIds, sends, between ++ rest, List.append_assoc _ _ _, stored, forwards⟩

/-- Where no report is published, membership has to be followed. -/
theorem extend (publishes : Publishes world) {rest : List Step}
    (grown : next.log = world.log ++ rest) (single : ∀ step ∈ rest, step.action.Single)
    (member : ∀ sessionId, Publishing.after sessionId (decide (sessionId ∈ world.sessionIds))
      (rest.filterMap Step.publication?) =
        decide (sessionId ∈ next.sessionIds)) : Publishes next where
  member sessionId := by
    rw [World.publications, grown, List.filterMap_append, Publishing.after_append]
    exact (congrArg (Publishing.after sessionId · _) (publishes.member sessionId)).trans
      (member sessionId)
  forwarded sessionId := by
    -- A single action is no report, and no send that is addressed to nobody.
    have unsent : (rest.filterMap (Step.forwarded? sessionId)) = [] := by
      refine List.filterMap_eq_nil_iff.mpr fun step member => ?_
      have kind := single step member
      unfold Step.forwarded?
      split
      next action => rw [action] at kind; exact kind.elim
      next => rfl
    have silent : Publishing.published (rest.filterMap Step.publication?) = [] := by
      rw [Publishing.published, List.filterMap_filterMap]
      refine List.filterMap_eq_nil_iff.mpr fun step member => ?_
      have kind := single step member
      unfold Step.publication?
      cases action : step.action <;> first | rfl | (rw [action] at kind; exact kind.elim)
    have before := publishes.forwarded sessionId
    simp only [World.forwarded, World.publications] at before
    simp only [World.forwarded, World.publications, grown, List.filterMap_append, unsent, before,
      Publishing.received_append, Publishing.received_of_silent silent, List.append_nil]
  atomic := atomic_extend publishes.atomic ⟨rest, grown, single⟩

/-- Where nobody comes or goes, nothing has to be followed. -/
theorem extend_quiet (publishes : Publishes world)
    (extends_ : History.Extends (fun step => step.action.Single ∧ step.publication? = none)
      world.log next.log)
    (same : next.sessionIds = world.sessionIds) : Publishes next := by
  -- The added steps publish nothing, so that each member stays what it was.
  obtain ⟨rest, grown, kind⟩ := extends_
  refine publishes.extend grown (fun step member => (kind step member).1) fun sessionId => ?_
  -- None of them is a publication, and the stored sessions are the same.
  have nothing : (rest.filterMap Step.publication?) = [] :=
    List.filterMap_eq_nil_iff.mpr fun step member => (kind step member).2
  rw [nothing, same]
  rfl

/-- A walk over sessions makes each of them send, in the order of the walk. -/
theorem forSessions_log (env : Environment) (value : ExecutionReport)
    (sessionIds : List SessionId) {world : World}
    (stored : ∀ sessionId ∈ sessionIds, sessionId ∈ world.sessionIds) :
    let final := SessionManager.forSessions (fun sessionId => Session.sendHelper env .unaddressed
      sessionId (.executionReport value)) sessionIds world
    final.sessionIds = world.sessionIds ∧ ∃ sends, final.log = world.log ++ sends ∧
      List.Forall₂ (Step.Forwards value) sessionIds sends := by
  induction sessionIds generalizing world with
  | nil => exact ⟨rfl, [], (List.append_nil _).symm, .nil⟩
  | cons sessionId rest ih =>
    obtain ⟨session, located⟩ := World.mem_sessionIds.mp (stored sessionId List.mem_cons_self)
    obtain ⟨sent, content, -, -, -, sends⟩ := Session.sendHelper_of_stored env
      .unaddressed (.executionReport value) located
    have log : (Session.sendHelper env .unaddressed sessionId (.executionReport value) world).log =
        world.log ++ [⟨.send sessionId .unaddressed sent, world.controller⟩] := by rw [sends]; rfl
    -- The others of the walk are still stored after this one has sent.
    have kept := Session.sendHelper_sessionIds env .unaddressed sessionId
      (.executionReport value) world
    obtain ⟨same, others, grown, forwards⟩ := ih fun other member => by
      rw [kept]
      exact stored other (List.mem_cons_of_mem _ member)
    refine ⟨same.trans kept, ⟨.send sessionId .unaddressed sent, world.controller⟩ :: others, ?_,
      .cons ⟨sent, rfl, content⟩ forwards⟩
    rw [SessionManager.forSessions, grown, log, List.append_assoc]
    rfl

/-- Each send of a walk is one of the session that is visited. -/
theorem forwarded_of_forwards {value : ExecutionReport} {sessionIds : List SessionId}
    {sends : List Step} (forwards : List.Forall₂ (Step.Forwards value) sessionIds sends)
    (observed : SessionId) : (sends.filterMap (Step.forwarded? observed)) =
      List.replicate (sessionIds.count observed) (.executionReport value) := by
  -- Induction on the ids; each send is for its own session.
  induction forwards with
  | nil => rfl
  | @cons sessionId step _ _ head _ ih =>
    obtain ⟨sent, action, content⟩ := head
    have first : step.forwarded? observed =
        if sessionId = observed then some (.executionReport value) else none := by
      rw [Step.forwarded?, action, ← content]
    -- It is counted for the session that is observed, and skipped for the others.
    by_cases same : sessionId = observed
    · rw [if_pos same] at first
      rw [List.filterMap_cons_some first, ih, same, List.count_cons_self, List.replicate_succ]
    · rw [if_neg same] at first
      rw [List.filterMap_cons_none first, ih, List.count_cons_of_ne same]

/-- Sends do not show in the history of the group. -/
theorem publications_of_forwards {value : ExecutionReport} {sessionIds : List SessionId}
    {sends : List Step} (forwards : List.Forall₂ (Step.Forwards value) sessionIds sends) :
    (sends.filterMap Step.publication?) = [] := by
  -- Induction on the sends, none of which is a publication itself.
  induction forwards with
  | nil => rfl
  | @cons _ step _ _ head _ ih =>
    obtain ⟨sent, action, -⟩ := head
    have first : step.publication? = none := by rw [Step.publication?, action]
    rw [List.filterMap_cons_none first, ih]

/-- A send is no report. -/
theorem notMem_of_forwards {value : ExecutionReport} {sessionIds : List SessionId}
    {sends : List Step} (forwards : List.Forall₂ (Step.Forwards value) sessionIds sends)
    (other : ExecutionReport) (before : Controller) :
    (⟨.executionReport other, before⟩ : Step) ∉ sends := by
  -- Induction on the sends; a send is not the report that caused it.
  induction forwards with
  | nil => exact List.not_mem_nil
  | cons head _ ih =>
    rw [List.mem_cons, not_or]
    refine ⟨?_, ih⟩
    rintro rfl
    obtain ⟨sent, action, -⟩ := head
    cases action

/-- A report that is followed by the sends of all stored sessions can come at any time. -/
theorem atomic_report {log sends : List Step} (atomic : Atomic log) {value : ExecutionReport}
    {controller : Controller} {sessionIds : List SessionId}
    (stored : sessionIds.Perm controller.sessionManager.sessions.keys)
    (forwards : List.Forall₂ (Step.Forwards value) sessionIds sends) :
    Atomic (log ++ ⟨.executionReport value, controller⟩ :: sends) := by
  intro earlier other before later cut
  rcases List.append_eq_append_iff.mp cut with ⟨middle, rfl, appended⟩ | ⟨middle, rfl, appended⟩
  · rcases List.cons_eq_append_iff.mp appended with ⟨rfl, same⟩ | ⟨others, rfl, rfl⟩
    · -- This is the report that has been added.
      cases same
      exact ⟨sessionIds, sends, [], (List.append_nil _).symm, stored, forwards⟩
    · -- A report would be one of the sends.
      exact (notMem_of_forwards forwards other before (by simp)).elim
  · rcases List.cons_eq_append_iff.mp appended with ⟨rfl, same⟩ | ⟨others, rfl, rfl⟩
    · cases same
      exact ⟨sessionIds, sends, [], (List.append_nil _).symm, stored, forwards⟩
    · -- An earlier report has its own sends.
      obtain ⟨among, those, between, rfl, stored', forwards'⟩ := atomic earlier other before _ rfl
      exact ⟨among, those, _, List.append_assoc _ _ _, stored', forwards'⟩

/-- A report is published, and all stored sessions send it. -/
theorem executionReport (publishes : Publishes world) (env : Environment)
    (value : ExecutionReport) : Publishes (Controller.executionReport env value world) := by
  have nodup : world.sessionIds.Nodup := world.controller.sessionManager.sessions.keys_nodup
  have walk (order : List SessionId) (sessionId : SessionId) :
      sessionId ∈ visit order world.sessionIds ↔ sessionId ∈ world.sessionIds := mem_visit
  let start := world.record (.executionReport value)
  let visited := visit (env.order start) world.sessionIds
  have once : visited.Nodup := visit_nodup _ nodup
  obtain ⟨same, sends, grown, forwards⟩ := @forSessions_log env value visited start
    fun sessionId => (walk _ sessionId).mp
  have log : (Controller.executionReport env value world).log =
      world.log ++ ⟨.executionReport value, world.controller⟩ :: sends :=
    grown.trans (List.append_assoc _ [_] _)
  have publications : World.publications (Controller.executionReport env value world) =
      world.publications ++ [.publish value] := by
    rw [World.publications, log, List.filterMap_append]
    exact congrArg (world.publications ++ .publish value :: ·) (publications_of_forwards forwards)
  refine ⟨fun sessionId => ?_, fun sessionId => ?_, ?_⟩
  · rw [publications, Publishing.after_append, publishes.member sessionId]
    exact congrArg (fun sessionIds => decide (sessionId ∈ sessionIds)) same.symm
  · -- A session sends the report once if it is stored, and then it is a member.
    have sent : (Controller.executionReport env value world).forwarded sessionId =
        world.forwarded sessionId ++
          List.replicate (visited.count sessionId) (.executionReport value) := by
      rw [World.forwarded, log, List.filterMap_append, ← forwarded_of_forwards forwards]
      rfl
    rw [sent, publications, Publishing.received_append, publishes.member, publishes.forwarded,
      List.map_append, once.count, if_congr (walk _ sessionId) rfl rfl]
    by_cases stored : sessionId ∈ world.sessionIds
    · simp [stored, Publishing.received, Publishing.Event.value?]
    · simp [stored, Publishing.received]
  · rw [log]
    exact atomic_report publishes.atomic
      ((List.perm_ext_iff_of_nodup once nodup).mpr (walk _)) forwards

/-- An enrolment adds one member to the group. -/
theorem enroll (publishes : Publishes world) : Publishes (SessionManager.enroll world) := by
  obtain ⟨first, second, log, -⟩ := SessionManager.enroll_log world
  refine publishes.extend log (by simp [Action.Single]) fun sessionId => ?_
  have stored : sessionId ∈ (SessionManager.enroll world).sessionIds ↔
      sessionId = world.nextSessionId + 1 ∨ sessionId ∈ world.sessionIds := AList.mem_emplace
  -- The member is added first, and then the bridge is told.
  show (decide (sessionId ∈ world.sessionIds) || decide (world.nextSessionId + 1 = sessionId)) = _
  rw [← Bool.decide_or, decide_eq_decide, stored, or_comm, eq_comm]

/-- A removal takes one member from the group. -/
theorem removeSession (publishes : Publishes world) (sessionId : SessionId) :
    Publishes (SessionManager.removeSession sessionId world) := by
  -- One step is added, with which the session that is removed leaves.
  refine @extend world (SessionManager.removeSession sessionId world) publishes
    [⟨.removeSession sessionId, world.controller⟩] rfl (by simp [Action.Single]) fun other => ?_
  have stored : other ∈ (SessionManager.removeSession sessionId world).sessionIds ↔
      other ≠ sessionId ∧ other ∈ world.sessionIds := AList.mem_erase
  show (decide (other ∈ world.sessionIds) && decide (sessionId ≠ other)) = _
  rw [← Bool.decide_and, decide_eq_decide, stored, and_comm, ne_comm]

/-- A cleanup takes members from the group, one after the other. -/
theorem removeZombies (publishes : Publishes world) (env : Environment) :
    Publishes (SessionManager.removeZombies env world) := by
  -- Induction on the ids that are removed, one session leaving with each.
  have removals (sessionIds : List SessionId) :
      Publishes (SessionManager.removeSessions sessionIds world) := by
    induction sessionIds generalizing world with
    | nil => exact publishes
    | cons sessionId rest ih => exact ih (publishes.removeSession sessionId)
  unfold SessionManager.removeZombies
  -- Without zombies nothing happens, and else only the log and the sessions matter.
  split
  · exact publishes
  · exact ⟨(removals _).member, (removals _).forwarded, (removals _).atomic⟩

/-- Every step of the process keeps the sessions a group to which reports are published. -/
theorem kept (publishes : Publishes world) {env : Environment} (step : ProcessStep env world next)
    (calm : world.NeverReady) : Publishes next := by
  -- An ending and a send that is addressed to somebody are nothing to the group.
  have concluded : ∀ {closes peer sessionId}, Session.Ends closes peer sessionId world →
      Publishes (Session.conclude env closes peer sessionId world) := by
    intro closes peer sessionId ends
    refine publishes.extend_quiet ((Session.conclude_extends env calm ends).mono ?_)
      (Session.conclude_frame env calm ends).1
    intro step kind
    rcases kind with action | action | action | action | action <;>
      simp [Step.publication?, action, Action.Single]
  have sent : ∀ cause sessionId value, cause ≠ .unaddressed →
      Publishes (Session.sendHelper env cause sessionId value world) := by
    intro cause sessionId value addressed
    refine publishes.extend_quiet ((Session.sendHelper_extends env cause sessionId value world).mono
      ?_) (Session.sendHelper_sessionIds env cause sessionId value world)
    intro step sends
    obtain ⟨sent, action⟩ := sends
    cases cause <;> simp_all [Step.publication?, Action.Single]
  cases step with
  | bridge step =>
    cases step with
    | send sessionId value stored => exact sent .addressed sessionId value (by simp)
    | executionReport value => exact publishes.executionReport env value
    | close peer sessionId alive => exact concluded (Or.inl alive)
    | again => exact publishes.extend_quiet (.single ⟨trivial, rfl⟩) rfl
  | reply sessionId value stored => exact sent .reply sessionId value (by simp)
  | enroll => exact publishes.enroll
  | disconnected sessionId stored => exact concluded (Session.ends_of_stored stored)
  | check =>
    exact publishes.extend_quiet (.single ⟨trivial, rfl⟩)
      (World.modifySession_sessionIds _ _ _)
  | message | addRoute | removeRoute | gatewayConnected | gatewayDisconnected =>
    exact publishes.extend_quiet (.single ⟨trivial, rfl⟩) rfl
  | schedule => exact publishes.extend_quiet (.refl _ _) rfl
  | removeZombies => exact publishes.removeZombies env

end Publishes

namespace Process

/-- In every run the stored sessions are a group to which reports are published. -/
theorem run_publishes (env : Environment) (events : List Event) :
    Publishes (run env events).world :=
  run_invariant env Publishes .initial (fun step calm _ publishes => publishes.kept step calm)
    events

/--
Reports without a session id are published to the stored sessions, in one order for all of them.

A session sends those that are emitted from its addition until its removal, each of them once, so
that what it sends is one stretch of what the bridge emits; all stored sessions send a report
before anything else happens.
-/
theorem run_published (env : Environment) (events : List Event)
    (few : (run env events).world.enrolled.length < 2 ^ 64) :
    let world := (run env events).world
    (∀ sessionId, world.forwarded sessionId =
      (Publishing.received sessionId false world.publications).map .executionReport) ∧
    (∀ sessionId, world.forwarded sessionId <:+:
      (Publishing.published world.publications).map .executionReport) ∧
    Atomic world.log := by
  intro world
  have publishes := run_publishes env events
  refine ⟨publishes.forwarded, fun sessionId => ?_, publishes.atomic⟩
  -- As long as identifiers do not wrap around, nobody joins twice.
  have once : (Publishing.joined world.publications).Nodup := by
    rw [World.joined_publications]
    exact (Lifecycle.of_run env events few).once
  rw [publishes.forwarded sessionId]
  exact (Publishing.received_isInfix once).map _

/-- A report of which only the number of the order matters. -/
def numbered (strategyId : StrategyId) : ExecutionReport := { account := "A1", strategyId, fields := [] }

/-- A session that is removed before the third report, and one that is added after the first. -/
def threeReports : List Event :=
  [.accept, .bridge [.executionReport (numbered 1)], .accept,
    .bridge [.executionReport (numbered 2)], .disconnected 1, .timer 1,
    .bridge [.executionReport (numbered 3)]]

/-- Each of two sessions sends two of three reports. -/
theorem run_published_three :
    let world := (run .plain threeReports).world
    world.enrolled.length < 2 ^ 64 ∧
      Publishing.published world.publications = [numbered 1, numbered 2, numbered 3] ∧
      world.forwarded 1 = [.executionReport (numbered 1), .executionReport (numbered 2)] ∧
      world.forwarded 2 = [.executionReport (numbered 2), .executionReport (numbered 3)] := by
  -- Each session receives the stretch between its creation and its end.
  have few : (run .plain threeReports).world.enrolled.length < 2 ^ 64 := by decide +kernel
  obtain ⟨received, -, -⟩ := run_published .plain threeReports few
  exact ⟨few, by decide +kernel, (received 1).trans (by decide +kernel),
    (received 2).trans (by decide +kernel)⟩

end Process

end FixBridge
