import FixBridge.Session.Plain
import FixBridge.Session.Turns

/-! What a client can bring about before the bridge has answered its Logon. -/

namespace FixBridge

/-- The bridge has answered the Logon of a session's client. -/
def Session.Welcomed (session : Session) : Prop :=
  ∃ sent ∈ session.connection.sent, ∃ username, sent.value = .logon username

/-- The message that a session sends by itself, if an action is one. -/
def Action.reply (observed : SessionId) : Action → Option Sent
  | .send sessionId .reply sent => if sessionId = observed then some sent else none
  | _ => none

/-- Everything that a session has sent by itself, in order. -/
def World.replies (observed : SessionId) (world : World) : List Sent :=
  world.log.filterMap fun step => step.action.reply observed

/-- A tacit action is no reply. -/
theorem Action.Tacit.reply {action : Action} (tacit : action.Tacit) (observed : SessionId) :
    action.reply observed = none := by
  -- A reply is a send, and a tacit action is none.
  unfold Action.reply
  split
  · exact tacit.elim
  · rfl

namespace Session

/-- A frame changes no route and makes its session send nothing by itself. -/
def Ineffective (env : Environment) (sessionId : SessionId) (frame : List UInt8)
    (world : World) : Prop :=
  (receiveFrame env sessionId frame world).routes = world.routes ∧
    (receiveFrame env sessionId frame world).replies sessionId = world.replies sessionId

/-- A frame is ineffective exactly if its message does not make the session answer. -/
theorem ineffective_iff {env : Environment} {sessionId : SessionId} {frame : List UInt8}
    {world : World} (calm : world.NeverReady) (alive : world.Open sessionId) :
    Ineffective env sessionId frame world ↔ ∀ message, env.decode frame = some message →
      ¬ Answers env sessionId message (check sessionId message.header world) := by
  -- An answer is one reply more, which makes the frame effective whatever became of the routes.
  have answered : ∀ {sent}, Replies sessionId sent world (receiveFrame env sessionId frame world) →
      ¬ Ineffective env sessionId frame world := by
    intro sent replies ineffective
    have more := replies.filterMap fun tacit => Action.Tacit.reply tacit sessionId
    have same : (receiveFrame env sessionId frame world).log.filterMap _ =
      world.log.filterMap _ := ineffective.2
    rw [same] at more
    simp [Action.reply] at more
  cases receiveFrame_reacts env frame calm alive with
  | tacitly unanswered routes tacit =>
    exact iff_of_true ⟨routes, tacit.filterMap fun step => fun tacit => tacit.reply sessionId⟩
      unanswered
  | byReject decoded unsupported routes value replies =>
    refine iff_of_false (answered replies) fun unanswered => ?_
    exact unanswered _ decoded (Or.inl unsupported)
  | byResponse decoded answers kind created named settles before routes value replies =>
    exact iff_of_false (answered replies) fun unanswered => unanswered _ decoded answers

/-- A route that a frame gives away goes to the session that parses it. -/
theorem receiveFrame_owner {env : Environment} {sessionId : SessionId} {frame : List UInt8}
    {world : World} (calm : world.NeverReady) (alive : world.Open sessionId)
    {strategyId : StrategyId} {owner : SessionId}
    (owned : (receiveFrame env sessionId frame world).routes.owner strategyId = some owner) :
    world.routes.owner strategyId = some owner ∨ owner = sessionId := by
  cases receiveFrame_reacts env frame calm alive with
  | tacitly unanswered routes tacit => exact Or.inl (routes ▸ owned)
  | byReject decoded unsupported routes value replies => exact Or.inl (routes ▸ owned)
  | byResponse decoded answers kind created named settles before routes value replies =>
    rw [routes] at owned
    rw [← before]
    -- A route is given to the session, taken from it, or left alone.
    cases settles with
    | granted free =>
      rw [addRoute_owner free, Function.update_apply] at owned
      split at owned
      · exact Or.inr (Option.some.inj owned).symm
      · exact Or.inl owned
    | released mine =>
      rw [removeRoute_owner mine, Function.update_apply] at owned
      split at owned
      · cases owned
      · exact Or.inl owned
    | declined same manager extends_ => exact Or.inl (same ▸ owned)

end Session

namespace Process

/-- A session parses a frame in the course of a run, before its client's Logon is answered. -/
structure Unwelcome (env : Environment) (events : List Event) (sessionId : SessionId)
    (frame : List UInt8) (world : World) : Prop where
  receives : Receives env events sessionId frame world
  unwelcomed : ∀ session, world.session sessionId = some session → ¬ session.Welcomed

/-- A route was acquired by a session whose client's Logon had been answered. -/
def Earned (env : Environment) (events : List Event) (sessionId : SessionId) : Prop :=
  ∃ frame world session, Receives env events sessionId frame world ∧
    world.session sessionId = some session ∧ session.Welcomed

/-- Clients bring about nothing before their Logon is answered. -/
structure LogonFirst (env : Environment) (events : List Event) : Prop where
  /-- A message that comes too early changes no route and is not answered by its session. -/
  ineffective : ∀ {sessionId frame world}, Unwelcome env events sessionId frame world →
    Session.Ineffective env sessionId frame world
  /-- Routes are owned by nobody else but sessions whose client's Logon was answered. -/
  owners : ∀ {strategyId sessionId},
    (run env events).world.routes.owner strategyId = some sessionId → Earned env events sessionId

/-- Where nothing is brought about too early, all routes were acquired after a Logon. -/
theorem run_owners {env : Environment} {events : List Event}
    (early : ∀ {sessionId frame world}, Unwelcome env events sessionId frame world →
      Session.Ineffective env sessionId frame world) {strategyId : StrategyId}
    {sessionId : SessionId}
    (owned : (run env events).world.routes.owner strategyId = some sessionId) :
    Earned env events sessionId := by
  refine run_turns env (fun world => ∀ sessionId,
    world.routes.owner strategyId = some sessionId → Earned env events sessionId) events
    ?_ ?_ ?_ List.prefix_rfl sessionId owned
  · intro sessionId owned
    cases owned
  · intro reader frame world receives holds sessionId owned
    have calm := receives.neverReady
    obtain ⟨session, located, -⟩ := World.open_iff.mp receives.alive
    by_cases welcomed : session.Welcomed
    · -- The frame gives routes to a session that has been welcomed.
      rcases Session.receiveFrame_owner calm receives.alive owned with before | rfl
      · exact holds sessionId before
      · exact ⟨frame, world, session, receives, located, welcomed⟩
    · -- The frame comes too early and changes no routes.
      have routes := (early ⟨receives, fun other found => by
        rw [located] at found
        cases found
        exact welcomed⟩).1
      exact holds sessionId (routes ▸ owned)
  · intro event world happens holds sessionId owned
    exact holds sessionId ((handle_unprompted env event happens.neverReady).1 ▸ owned)

/--
Clients bring about nothing before their Logon is answered exactly if none of them sends a message
by then that makes its session answer.
-/
theorem run_logonFirst (env : Environment) (events : List Event) :
    LogonFirst env events ↔ ∀ {sessionId frame world},
      Unwelcome env events sessionId frame world → ∀ message, env.decode frame = some message →
        ¬ Session.Answers env sessionId message (Session.check sessionId message.header world) := by
  -- For one frame it is known when it has no effect; an unwelcome one is received by an
  -- open session.
  have pointwise : ∀ {sessionId frame world}, Unwelcome env events sessionId frame world →
      (Session.Ineffective env sessionId frame world ↔ ∀ message, env.decode frame = some message →
        ¬ Session.Answers env sessionId message (Session.check sessionId message.header world)) :=
    fun early => Session.ineffective_iff early.receives.neverReady early.receives.alive
  constructor
  · intro first sessionId frame world early
    exact (pointwise early).mp (first.ineffective early)
  · -- Frames without effect leave every route with its owner, which is the other half.
    intro unanswered
    have early : ∀ {sessionId frame world}, Unwelcome env events sessionId frame world →
        Session.Ineffective env sessionId frame world :=
      fun early => (pointwise early).mpr (unanswered early)
    exact ⟨early, run_owners early⟩

/-- A client that has only connected acquires a route with the first message that it sends. -/
theorem run_logonFirst_logOn : ¬ LogonFirst .plain [.accept, .read 1 logOn] := by
  intro first
  let world := (run .plain [.accept]).world
  have frames : (Environment.plain.framer.frames
      ((run .plain [.accept]).buffer 1 ++ logOn)).1 = [logOn] := by
    decide +kernel
  have alive : world.Open 1 := by decide +kernel
  have nothing : ∀ session ∈ world.session 1, session.connection.sent = [] := by decide +kernel
  have routed : (Session.receiveFrame .plain 1 logOn world).routes.owner 7 = some 1 := by
    decide +kernel
  have receives : Receives .plain [.accept, .read 1 logOn] 1 logOn world := by
    refine ⟨[.accept], logOn, [], 0, rfl, ?_, rfl, fun fewer least => ?_⟩
    · rw [frames]
      rfl
    · rw [Nat.le_zero.mp least]
      exact alive
  -- No Logon has been answered, and still the routes change.
  have same := (first.ineffective ⟨receives, fun session located welcomed => by
    obtain ⟨sent, member, -⟩ := welcomed
    rw [nothing session located] at member
    cases member⟩).1
  rw [same] at routed
  cases routed

end Process

end FixBridge
