import FixBridge.Session.Chains
import FixBridge.Session.Plain

/-! To which sessions the execution reports go that the bridge emits without a session id. -/

namespace FixBridge

/-- The user that the bridge logged on at a session, unless it was logged out since. -/
def Session.username (session : Session) : Option String :=
  session.connection.sent.foldl (fun current sent =>
    match sent.value with
    | .logon username => some username
    | .logout _ => none
    | _ => current) none

/--
A session is entitled to an execution report.

It is open and logged on. When routing is by strategy, it owns the route of the report's strategy;
otherwise the report's account is that of its user.
-/
def Entitled (env : Environment) (value : ExecutionReport) (sessionId : SessionId)
    (controller : Controller) : Prop :=
  ∃ session username, controller.session sessionId = some session ∧ session.state ≠ .zombie ∧
    session.username = some username ∧
    if env.settings.omsRouteByStrategy then
      controller.shared.routes.strategyIdToSessionId.lookup value.strategyId = some sessionId
    else ∃ user, env.users.lookup username = some user ∧ user.account = value.account

/-- A message addressed to nobody is an execution report to which its session is entitled. -/
def Step.Routed (env : Environment) (step : Step) : Prop :=
  ∀ sessionId sent, step.action = .send sessionId .unaddressed sent →
    ∃ value, sent.value = .executionReport value ∧ Entitled env value sessionId step.before

/-- An unaddressed message is sent by a session at which nobody is logged on. -/
def Step.uninvited (step : Step) : Bool :=
  match step.action with
  | .send sessionId .unaddressed _ => (step.before.session sessionId).bind (·.username) = none
  | _ => false

/-- When the bridge emits a report, all stored sessions are entitled to it. -/
def Step.AllEntitled (env : Environment) (step : Step) : Prop :=
  ∀ value, step.action = .executionReport value →
    ∀ sessionId session, step.before.session sessionId = some session →
      Entitled env value sessionId step.before

/-- The routes are the same, and so are the states of the sessions and the users logged on there. -/
def SameLogons (controller later : Controller) : Prop :=
  later.shared.routes = controller.shared.routes ∧
  ∀ sessionId, (later.session sessionId).map (fun session => (session.state, session.username)) =
    (controller.session sessionId).map fun session => (session.state, session.username)

namespace SameLogons

variable {controller middle later : Controller}

/-- What does not change stays the same. -/
theorem refl (controller : Controller) : SameLogons controller controller :=
  ⟨rfl, fun _ => rfl⟩

/-- What stays the same twice stays the same. -/
theorem trans (first : SameLogons controller middle) (second : SameLogons middle later) :
    SameLogons controller later :=
  ⟨second.1.trans first.1, fun sessionId => (second.2 sessionId).trans (first.2 sessionId)⟩

/-- An entitlement rests on the routes, the states and the users. -/
theorem entitled_of (same : SameLogons controller later) {env : Environment}
    {value : ExecutionReport} {sessionId : SessionId}
    (entitled : Entitled env value sessionId later) :
    Entitled env value sessionId controller := by
  obtain ⟨session, username, located, alive, loggedOn, belongs⟩ := entitled
  -- The session is found in both states, with the same state and the same user.
  have keys := same.2 sessionId
  rw [located, Option.map_some] at keys
  obtain ⟨before, found, key⟩ := Option.map_eq_some_iff.mp keys.symm
  obtain ⟨state, user⟩ := Prod.mk.inj key
  refine ⟨before, username, found, by rw [state]; exact alive, user.trans loggedOn, ?_⟩
  -- Routes and users decide the rest, and neither has changed.
  rw [← same.1]
  exact belongs

/-- What is the same later was the same before. -/
theorem symm (same : SameLogons controller later) : SameLogons later controller :=
  ⟨same.1.symm, fun sessionId => (same.2 sessionId).symm⟩

/-- Entitlements stay the same. -/
theorem entitled (same : SameLogons controller later) (env : Environment)
    (value : ExecutionReport) (sessionId : SessionId) :
    Entitled env value sessionId later ↔ Entitled env value sessionId controller :=
  ⟨same.entitled_of, same.symm.entitled_of⟩

/-- Sending a report logs nobody on or off. -/
theorem sendHelper (env : Environment) (cause : Cause) (sessionId : SessionId)
    (value : ExecutionReport) (world : World) : SameLogons world.controller
      (Session.sendHelper env cause sessionId (.executionReport value) world).controller := by
  -- A report is no Logon and no Logout, so the user of the sender stays the same.
  cases located : world.session sessionId with
  | none =>
    rw [Session.sendHelper_of_missing located]
    exact refl _
  | some session =>
    obtain ⟨sent, content, -, -, -, same⟩ := Session.sendHelper_of_stored env cause
      (.executionReport value) located
    rw [same]
    refine ⟨rfl, fun other => ?_⟩
    have found := World.modifySession_session (world.record (.send sessionId cause sent)) sessionId
      other (Session.advance sent)
    have kept : (Session.advance sent session).username = session.username := by
      simp [Session.advance, Session.username, content]
    show ((World.modifySession sessionId _ _).session other).map _ = (world.session other).map _
    rw [found]
    have state : (Session.advance sent session).state = session.state := rfl
    -- The sender keeps its state and its user, and the others are not touched.
    by_cases here : other = sessionId
    · subst here
      simp [located, kept, state]
    · simp [here]

end SameLogons

/-- A send that a report caused, seen from the report: the same report, stored and same logons. -/
structure CausedBy (origin step : Step) (sessionId : SessionId) (sent : Sent)
    (value : ExecutionReport) : Prop where
  report : origin.action = .executionReport value
  send : step.action = .send sessionId .unaddressed sent
  content : sent.value = .executionReport value
  stored : ∃ session, origin.before.session sessionId = some session
  same : SameLogons origin.before step.before

/-- Unaddressed sends and reports explain each other. -/
structure Fanned (log : List Step) : Prop where
  /-- Every unaddressed send was caused by a report. -/
  caused : ∀ step ∈ log, ∀ sessionId sent, step.action = .send sessionId .unaddressed sent →
    ∃ origin ∈ log, ∃ value, CausedBy origin step sessionId sent value
  /-- Every report caused all sessions to send. -/
  causes : ∀ origin ∈ log, ∀ value, origin.action = .executionReport value →
    ∀ sessionId session, origin.before.session sessionId = some session →
      ∃ step ∈ log, ∃ sent, CausedBy origin step sessionId sent value

namespace Fanned

variable {world next : World}

/-- Other actions can be taken at any time. -/
theorem extend {log grown : List Step} (fanned : Fanned log)
    (extends_ : History.Extends (fun step => step.action.Single) log grown) : Fanned grown := by
  have older := extends_.isPrefix.subset
  constructor
  · intro step member sessionId sent action
    -- A new step is a single action, so it is neither a report nor caused by one.
    rcases extends_.mem member with old | single
    · obtain ⟨origin, found, value, caused⟩ := fanned.caused step old sessionId sent action
      exact ⟨origin, older found, value, caused⟩
    · rw [action] at single
      exact single.elim
  · intro origin member value action sessionId session located
    -- The reports are the old ones, with the sends that they caused.
    rcases extends_.mem member with old | single
    · obtain ⟨step, found, sent, caused⟩ :=
        fanned.causes origin old value action sessionId session located
      exact ⟨step, older found, sent, caused⟩
    · rw [action] at single
      exact single.elim

/-- A walk over sessions sends the report to each of them, and leaves the logons alone. -/
theorem forSessions (env : Environment) (value : ExecutionReport) (sessionIds : List SessionId)
    (world : World) (stored : ∀ sessionId ∈ sessionIds, sessionId ∈ world.sessionIds) :
    let final := SessionManager.forSessions (fun sessionId => Session.sendHelper env .unaddressed
      sessionId (.executionReport value)) sessionIds world
    SameLogons world.controller final.controller ∧
    (History.Extends (fun step => SameLogons world.controller step.before ∧
      ∃ sessionId ∈ sessionIds, ∃ sent, step.action = .send sessionId .unaddressed sent ∧
        sent.value = .executionReport value) world.log final.log) ∧
    (∀ sessionId ∈ sessionIds, ∃ step ∈ final.log, ∃ sent,
      step.action = .send sessionId .unaddressed sent ∧ sent.value = .executionReport value ∧
        SameLogons world.controller step.before) := by
  -- Each session that is visited sends once, and leaves the logons as they were.
  induction sessionIds generalizing world with
  | nil => exact ⟨.refl _, .refl _ _, by simp⟩
  | cons sessionId rest ih =>
    obtain ⟨session, located⟩ := World.mem_sessionIds.mp (stored sessionId (by simp))
    obtain ⟨sent, content, -, -, -, sends⟩ := Session.sendHelper_of_stored env
      .unaddressed (.executionReport value) located
    have kept := SameLogons.sendHelper env .unaddressed sessionId value world
    have log : (Session.sendHelper env .unaddressed sessionId (.executionReport value) world).log =
        world.log ++ [⟨.send sessionId .unaddressed sent, world.controller⟩] := by rw [sends]; rfl
    obtain ⟨same, grown, all⟩ := ih (Session.sendHelper env .unaddressed sessionId
      (.executionReport value) world) fun other member => by
        -- The sessions that remain to be visited stay stored.
        rw [Session.sendHelper_sessionIds]
        exact stored other (by simp [member])
    refine ⟨kept.trans same, ?_, ?_⟩
    · -- The first send is followed by those of the other sessions.
      refine History.Extends.trans ?_ (grown.mono fun step visited => ?_)
      · rw [log]
        exact .single ⟨.refl _, sessionId, by simp, sent, rfl, content⟩
      · obtain ⟨same, other, member, sends⟩ := visited
        exact ⟨kept.trans same, other, by simp [member], sends⟩
    · intro other member
      -- A session is the first to send or is visited later.
      rcases List.mem_cons.mp member with rfl | member
      · refine ⟨⟨.send other .unaddressed sent, world.controller⟩, ?_, sent, rfl, content, .refl _⟩
        apply grown.isPrefix.subset
        rw [log]
        simp
      · obtain ⟨step, found, sent, action, content, same⟩ := all other member
        exact ⟨step, found, sent, action, content, kept.trans same⟩

/-- A report is sent to all stored sessions. -/
theorem executionReport (fanned : Fanned world.log) (env : Environment)
    (value : ExecutionReport) : Fanned (Controller.executionReport env value world).log := by
  have start : World.sessionIds (world.record (.executionReport value)) = world.sessionIds := rfl
  obtain ⟨-, grown, all⟩ := forSessions env value
    (visit (env.order (world.record (.executionReport value))) world.sessionIds)
    (world.record (.executionReport value)) fun sessionId member => by
      rw [start]
      exact mem_visit.mp member
  show Fanned (SessionManager.forSessions _ (visit _ world.sessionIds) _).log
  have older := grown.isPrefix.subset
  have origin : (⟨.executionReport value, world.controller⟩ : Step) ∈
      (world.record (.executionReport value)).log := by simp
  constructor
  · intro step member sessionId sent action
    -- An unaddressed send was there before, or belongs to this walk.
    rcases grown.mem member with old | ⟨same, other, visited, sent', action', content⟩
    · rcases List.mem_append.mp old with old | new
      · obtain ⟨origin, found, value, caused⟩ := fanned.caused step old sessionId sent action
        exact ⟨origin, older (by simp [found]), value, caused⟩
      · -- The report itself is no send.
        rw [List.mem_singleton.mp new] at action
        cases action
    · rw [action] at action'
      cases action'
      -- The walk visits stored sessions.
      exact ⟨_, older origin, value, rfl, action, content,
        World.mem_sessionIds.mp (mem_visit.mp visited), same⟩
  · intro origin' member value' action sessionId session located
    -- A report was there before, or is the one that starts the walk.
    rcases grown.mem member with old | ⟨_, _, _, _, action', _⟩
    · rcases List.mem_append.mp old with old | new
      · obtain ⟨step, found, sent, caused⟩ :=
          fanned.causes origin' old value' action sessionId session located
        exact ⟨step, older (by simp [found]), sent, caused⟩
      · obtain rfl := List.mem_singleton.mp new
        cases action
        -- All stored sessions are visited, and each of them sends.
        obtain ⟨step, found, sent, action, content, same⟩ := all sessionId
          (mem_visit.mpr (World.mem_sessionIds.mpr ⟨session, located⟩))
        exact ⟨step, found, sent, rfl, action, content, ⟨session, located⟩, same⟩
    · rw [action] at action'
      cases action'

/-- Every step of the process keeps reports and sends in step. -/
theorem kept (fanned : Fanned world.log) {env : Environment} (step : ProcessStep env world next)
    (calm : world.NeverReady) : Fanned next.log := by
  -- The step is a report with its walk, or something that does not matter here.
  rcases step.report_or_single calm with ⟨value, rfl⟩ | single
  · exact fanned.executionReport env value
  · exact fanned.extend single

end Fanned

namespace Process

variable (env : Environment)

/-- In every run reports and sends explain each other. -/
theorem run_fanned (events : List Event) : Fanned (run env events).world.log :=
  run_invariant env (fun world => Fanned world.log)
    ⟨fun _ member => (by cases member), fun _ member => (by cases member)⟩
    (fun step calm _ fanned => fanned.kept step calm) events

/--
Reports that the bridge emits without a session id go to entitled sessions only exactly if all
stored sessions are entitled whenever the bridge emits one.
-/
theorem run_routed (events : List Event) :
    (∀ step ∈ (run env events).world.log, step.Routed env) ↔
      ∀ step ∈ (run env events).world.log, step.AllEntitled env := by
  have fanned := run_fanned env events
  constructor
  · intro routed origin member value action sessionId session located
    -- The report caused the session to send, and the send was a rightful one.
    obtain ⟨step, found, sent, caused⟩ :=
      fanned.causes origin member value action sessionId session located
    obtain ⟨value', content, entitled⟩ := routed step found sessionId sent caused.send
    -- The message that was sent is the report that caused it.
    rw [caused.content] at content
    cases content
    exact (caused.same.entitled env value sessionId).mp entitled
  · intro shared step member sessionId sent action
    -- The send was caused by a report, to which all sessions were entitled then.
    obtain ⟨origin, found, value, caused⟩ := fanned.caused step member sessionId sent action
    obtain ⟨session, located⟩ := caused.stored
    have entitled := shared origin found value caused.report sessionId session located
    exact ⟨value, caused.content, (caused.same.entitled env value sessionId).mpr entitled⟩

/-- A client that is connected and not logged on is sent a report about somebody else's account. -/
theorem run_routed_connected :
    ∃ step ∈ (run .byAccount [.accept, .bridge [.executionReport
        { account := "A1", strategyId := 7, fields := [] }]]).world.log,
      ¬ step.Routed .byAccount := by
  -- The report has been sent to a session for which nobody has logged on.
  have uninvited : ∃ step ∈ (run .byAccount [.accept, .bridge [.executionReport
      { account := "A1", strategyId := 7, fields := [] }]]).world.log, step.uninvited := by
    decide +kernel
  obtain ⟨⟨action, before⟩, member, uninvited⟩ := uninvited
  refine ⟨⟨action, before⟩, member, fun routed => ?_⟩
  unfold Step.uninvited at uninvited
  split at uninvited
  next sessionId sent sends =>
    -- A routed report goes to a session with a username, and this one has none.
    obtain ⟨value, -, session, username, located, -, loggedOn, -⟩ := routed sessionId sent sends
    simp [located, loggedOn] at uninvited
  next => cases uninvited

end Process

end FixBridge
