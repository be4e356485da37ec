import FixBridge.Session.Plain
import FixBridge.Session.Turns

/-! Which client owns a strategy, as the clients can tell from the answers that they get. -/

namespace FixBridge

/-- What can be told about the ownership of strategies from outside. -/
inductive Answer where
  | response (sessionId : SessionId) (value : UserResponse)
  | removeAllRoutes (sessionId : SessionId)

/-- The response that a session generates, if an action is one. -/
def Action.answer : Action → Option Answer
  | .send sessionId .reply sent =>
    match sent.value with
    | .userResponse value => some (.response sessionId value)
    | _ => none
  | _ => none

/-- A tacit action is no response. -/
theorem Action.Tacit.answer {action : Action} (tacit : action.Tacit) : action.answer = none := by
  -- An answer is a send, and a tacit action is none.
  unfold Action.answer
  split
  · exact tacit.elim
  · rfl

/-- An action that is no reaction to a message is no response either. -/
theorem Action.Unprompted.answer {action : Action} (unprompted : action.Unprompted) :
    action.answer = none := by
  unfold Action.answer
  split
  · -- Without a message, a session sends nothing by itself but a logout.
    obtain ⟨text, value⟩ := unprompted
    rw [value]
  · rfl

namespace World

variable {world later : World}

/-- The responses that sessions have generated, in order. -/
def answers (world : World) : List Answer :=
  world.log.filterMap fun step => step.action.answer

/-- The responses that sessions have generated since an earlier world. -/
def answersSince (world later : World) : List Answer :=
  (later.log.drop world.log.length).filterMap fun step => step.action.answer

/-- The responses of a world are the earlier ones and those since then. -/
theorem answers_append (grown : world.log <+: later.log) :
    later.answers = world.answers ++ world.answersSince later := by
  -- The answers are read off the log, and the log has only grown.
  obtain ⟨rest, same⟩ := grown
  unfold answers answersSince
  rw [← same, List.filterMap_append, List.drop_left]

/-- What stands behind the earlier responses are those since then. -/
theorem answersSince_eq (grown : world.log <+: later.log) {fresh : List Answer}
    (same : later.answers = world.answers ++ fresh) : world.answersSince later = fresh := by
  -- The older answers are a prefix of both sides.
  rw [answers_append grown] at same
  exact List.append_cancel_left same

/-- Actions that are no responses add none. -/
theorem answersSince_of_extends {kind : Action → Prop}
    (silent : ∀ {action : Action}, kind action → action.answer = none)
    (extends_ : History.Extends (fun step => kind step.action) world.log later.log) :
    world.answersSince later = [] := by
  -- None of the added steps is an answer.
  refine answersSince_eq extends_.isPrefix ?_
  unfold answers
  rw [extends_.filterMap fun step => silent, List.append_nil]

end World

namespace Session

/-- A reply is the only message that is sent from the one world to the other. -/
theorem Replies.answersSince {sessionId : SessionId} {sent : Sent} {world later : World}
    (replies : Replies sessionId sent world later) :
    world.answersSince later = (Action.send sessionId .reply sent).answer.toList := by
  -- What happens before and after the reply is tacit.
  obtain ⟨middle, before, after⟩ := id replies
  refine World.answersSince_eq ?_ (replies.filterMap Action.Tacit.answer)
  exact (before.isPrefix.trans (List.prefix_append _ _)).trans after.isPrefix

end Session

/-- What a response decides about a strategy, if its username is one. -/
def Answer.ruling (env : Environment) : Answer → Option (Ownership.Ruling StrategyId SessionId)
  | .response sessionId value =>
    match env.fromChars value.username with
    | none => none
    | some strategyId =>
      match value.userStatus with
      | .loggedIn => some (.granted sessionId strategyId)
      | .notLoggedIn => some (.released sessionId strategyId)
      | .other => none
  | .removeAllRoutes sessionId => some (.releasedAll sessionId)

/--
Any interleaving of what arrives from the clients, other events, and the removal of all routes of
a session, together with the answers that come out of it.
-/
inductive Traffic (env : Environment) : World → List Answer → Prop where
  | start : Traffic env {} []
  | frame {world : World} {answers : List Answer} (before : Traffic env world answers)
      {sessionId : SessionId} (alive : world.Open sessionId) (frame : List UInt8) :
      Traffic env (Session.receiveFrame env sessionId frame world)
        (answers ++ world.answersSince (Session.receiveFrame env sessionId frame world))
  | event {world : World} {answers : List Answer} (before : Traffic env world answers)
      (event : Event) :
      Traffic env (Process.handle env event world)
        (answers ++ world.answersSince (Process.handle env event world))
  | removeAllRoutes {world : World} {answers : List Answer} (before : Traffic env world answers)
      (sessionId : SessionId) :
      Traffic env (world.setRoutes (world.routes.removeAllRoutes sessionId))
        (answers ++ [.removeAllRoutes sessionId])

/-- What the answers decide about the strategies, in order. -/
def rulings (env : Environment) (answers : List Answer) :
    List (Ownership.Ruling StrategyId SessionId) :=
  answers.filterMap (Answer.ruling env)

/-- What is decided by answers that come later is decided later. -/
theorem rulings_append (env : Environment) (answers fresh : List Answer) :
    rulings env (answers ++ fresh) = rulings env answers ++ rulings env fresh :=
  List.filterMap_append

namespace Session

variable {env : Environment} {sessionId : SessionId} {world later : World}

/-- The tables stay inverse when a request is settled. -/
theorem Settles.inverse {strategyId : StrategyId} {userStatus : UserStatus}
    (settles : Settles sessionId strategyId world later userStatus)
    (inverse : world.routes.Inverse) : later.routes.Inverse := by
  -- Both operations keep the two tables inverse, and a refusal changes neither.
  cases settles with
  | granted free => exact Routes.addRoute_inverse inverse sessionId strategyId
  | released owned => exact Routes.removeRoute_inverse inverse sessionId strategyId
  | declined routes manager extends_ =>
    rw [routes]
    exact inverse

/-- The owners of strategies are those that the response tells. -/
theorem Settles.ruled {strategyId : StrategyId} {value : UserResponse}
    (settles : Settles sessionId strategyId world later value.userStatus)
    (named : env.fromChars value.username = some strategyId) :
    later.routes.owner =
      (rulings env [.response sessionId value]).foldl Ownership.rule world.routes.owner := by
  -- Logged in is a grant, not logged in is a release, and anything else rules nothing.
  obtain ⟨userRequestId, username, userStatus, text⟩ := value
  cases settles with
  | granted free =>
    rw [addRoute_owner free]
    simp [rulings, Answer.ruling, named, Ownership.rule]
  | released owned =>
    rw [removeRoute_owner owned]
    simp [rulings, Answer.ruling, named, Ownership.rule]
  | declined routes manager extends_ =>
    rw [routes]
    simp [rulings, Answer.ruling, named]

/-- A frame changes the owners of strategies as the responses tell, and keeps the tables inverse. -/
theorem receiveFrame_ruled (frame : List UInt8) (calm : world.NeverReady)
    (alive : world.Open sessionId) (inverse : world.routes.Inverse) :
    let later := receiveFrame env sessionId frame world
    later.routes.Inverse ∧ later.routes.owner =
      (rulings env (world.answersSince later)).foldl Ownership.rule world.routes.owner := by
  -- A frame is answered by nothing, by a reject or by a response.
  intro later
  cases receiveFrame_reacts env frame calm alive with
  | tacitly unanswered routes tacit =>
    rw [World.answersSince_of_extends Action.Tacit.answer tacit, routes]
    exact ⟨inverse, rfl⟩
  | byReject decoded unsupported routes value replies =>
    rw [replies.answersSince, routes]
    refine ⟨inverse, ?_⟩
    simp [Action.answer, value, rulings]
  -- Only a response rules, and it says what became of the route.
  | byResponse decoded answers kind created named settles before routes value replies =>
    rw [replies.answersSince, routes, ← before]
    refine ⟨settles.inverse (before ▸ inverse), ?_⟩
    simp only [Action.answer, value, Option.toList_some]
    exact settles.ruled named

end Session

/-- What holds between the turns, however they follow each other. -/
structure Tells (env : Environment) (world : World) (answers : List Answer) : Prop where
  calm : world.NeverReady
  inverse : world.routes.Inverse
  /-- The owners of strategies are those that the answers tell. -/
  owners : world.routes.owner = (rulings env answers).foldl Ownership.rule fun _ => none

namespace Tells

variable {env : Environment} {world later : World} {answers fresh : List Answer}

/-- The answers go on telling the owners when a turn changes them as its answers tell. -/
theorem append (told : Tells env world answers) (calm : later.NeverReady)
    (inverse : later.routes.Inverse)
    (ruled : later.routes.owner = (rulings env fresh).foldl Ownership.rule world.routes.owner) :
    Tells env later (answers ++ fresh) := by
  -- The rulings of the older answers come first, and then those of the fresh ones.
  refine ⟨calm, inverse, ?_⟩
  rw [ruled, told.owners, rulings_append, List.foldl_append]

end Tells

/-- Whatever the interleaving, the answers tell the owners of the strategies. -/
theorem Traffic.told {env : Environment} {world : World} {answers : List Answer}
    (traffic : Traffic env world answers) : Tells env world answers := by
  induction traffic with
  | start => exact ⟨World.neverReady_initial, Routes.empty_inverse, rfl⟩
  | @frame world answers before sessionId alive frame ih =>
    have chain := Session.receiveFrame_chain env sessionId frame ih.calm alive
    obtain ⟨inverse, ruled⟩ := Session.receiveFrame_ruled frame ih.calm alive ih.inverse
    exact ih.append (chain.neverReady ih.calm) inverse ruled
  | @event world answers before event ih =>
    -- Without a message, the routes stay as they are.
    have chain := Process.handle_chain env event ih.calm
    obtain ⟨routes, unprompted⟩ := Process.handle_unprompted env event ih.calm
    rw [World.answersSince_of_extends Action.Unprompted.answer unprompted]
    refine ih.append (chain.neverReady ih.calm) (routes ▸ ih.inverse) ?_
    rw [routes]
    rfl
  | @removeAllRoutes world answers before sessionId ih =>
    refine ih.append ih.calm (Routes.removeAllRoutes_inverse ih.inverse sessionId) ?_
    exact Routes.removeAllRoutes_owner ih.inverse sessionId

namespace Session

variable {env : Environment} {sessionId : SessionId} {frame : List UInt8} {request : UserRequest}
  {world : World}

/-- A frame holds a request that is handled without an exception. -/
def Completes (env : Environment) (sessionId : SessionId) (frame : List UInt8)
    (request : UserRequest) (world : World) : Prop :=
  ∃ message next, env.decode frame = some message ∧ message.header.msgType = .userRequest ∧
    env.createUserRequest message = some request ∧ parseFrame env sessionId frame world = .ok next

/-- What a response to a request says, and what it says about the routes. -/
structure Responds (env : Environment) (sessionId : SessionId) (request : UserRequest)
    (world later : World) (value : UserResponse) : Prop where
  /-- Nobody has generated another response. -/
  once : world.answersSince later = [.response sessionId value]
  userRequestId : value.userRequestId = request.userRequestId
  username : value.username = request.username
  /-- A session can only release what it owns. -/
  released : value.userStatus = .notLoggedIn → ∀ strategyId,
    env.fromChars value.username = some strategyId →
      world.routes.owner strategyId = some sessionId
  /-- A request that is declined changes nothing. -/
  declined : value.userStatus = .other → later.routes = world.routes

/-- A request that is handled without an exception makes its session answer. -/
theorem Completes.answers (completes : Completes env sessionId frame request world)
    (calm : world.NeverReady) (alive : world.Open sessionId) :
    ∃ message, env.decode frame = some message ∧ message.header.msgType = .userRequest ∧
      env.createUserRequest message = some request ∧
      Answers env sessionId message (check sessionId message.header world) := by
  obtain ⟨message, next, decoded, kind, created, handled⟩ := completes
  refine ⟨message, decoded, kind, created, ?_⟩
  have checked : ProcessStep env world (check sessionId message.header world) :=
    .check world sessionId message.header alive
  have handles := parseHelper_handles env sessionId message (checked.neverReady calm)
  simp only [parseFrame, decoded] at handled
  rw [handled] at handles
  -- Without an exception, there is only one way in which a request is handled.
  cases handles with
  | rejected unsupported => exact Or.inl unsupported
  | passed supported delivered other chain => exact absurd kind other
  | settled kind created chain kept named => exact Or.inr ⟨kind, kept, _, _, created, named⟩

/-- A request that is handled without an exception gets a response. -/
theorem Completes.responds (completes : Completes env sessionId frame request world)
    (calm : world.NeverReady) (alive : world.Open sessionId) :
    ∃ value, Responds env sessionId request world (receiveFrame env sessionId frame world)
      value := by
  obtain ⟨message, decoded, kind, created, answers⟩ := completes.answers calm alive
  cases receiveFrame_reacts env frame calm alive with
  | tacitly unanswered routes tacit => exact absurd answers (unanswered message decoded)
  | byReject decoded' unsupported routes value replies =>
    -- Requests are supported.
    cases decoded.symm.trans decoded'
    rw [kind] at unsupported
    cases unsupported
  | @byResponse _ _ strategyId _ _ userStatus text sent decoded' answers' kind' created' named
      settles before routes value replies =>
    cases decoded.symm.trans decoded'
    cases created.symm.trans created'
    refine ⟨⟨request.userRequestId, request.username, userStatus, text⟩, ?_, rfl, rfl, ?_, ?_⟩
    · rw [replies.answersSince]
      simp [Action.answer, value]
    · intro status other same
      cases named.symm.trans same
      cases status
      cases settles with
      | released owned => exact before ▸ owned
    · intro status
      cases status
      cases settles with
      | declined same manager extends_ => rw [routes, same, before]

end Session

/-- The clients can rely on the answers that they get. -/
structure Reliable (env : Environment) (world : World) (answers : List Answer) : Prop where
  /-- A request that is handled without an exception gets exactly one response. -/
  responds : ∀ {sessionId frame request}, world.Open sessionId →
    Session.Completes env sessionId frame request world →
    ∃ value, Session.Responds env sessionId request world
      (Session.receiveFrame env sessionId frame world) value
  /-- A session owns a strategy if the latest answer that concerns the two has granted it. -/
  owners : ∀ sessionId strategyId, world.routes.owner strategyId = some sessionId ↔
    History.latest (Ownership.Ruling.concerns sessionId strategyId) (rulings env answers) =
      some (.granted sessionId strategyId)
  /-- No two sessions hold the same strategy without having released it. -/
  exclusive : ∀ first second strategyId,
    History.latest (Ownership.Ruling.concerns first strategyId) (rulings env answers) =
      some (.granted first strategyId) →
    History.latest (Ownership.Ruling.concerns second strategyId) (rulings env answers) =
      some (.granted second strategyId) → first = second

/-- Whatever the interleaving, the clients can rely on the answers that they get. -/
theorem Traffic.reliable {env : Environment} {world : World} {answers : List Answer}
    (traffic : Traffic env world answers) : Reliable env world answers := by
  have told := traffic.told
  have owners : ∀ sessionId strategyId, world.routes.owner strategyId = some sessionId ↔
      History.latest (Ownership.Ruling.concerns sessionId strategyId) (rulings env answers) =
        some (.granted sessionId strategyId) := by
    intro sessionId strategyId
    rw [told.owners]
    exact Ownership.owner_iff_latest (rulings env answers) sessionId strategyId
  refine ⟨fun alive completes => completes.responds told.calm alive, owners, ?_⟩
  -- Both would own the strategy, which has one owner at most.
  intro first second strategyId granted granted'
  have owned := (owners first strategyId).mpr granted
  rw [(owners second strategyId).mpr granted'] at owned
  exact (Option.some.inj owned).symm

namespace Process

/-- A run of the process is such an interleaving, with the responses that stand in its log. -/
theorem run_traffic (env : Environment) (events : List Event) :
    Traffic env (run env events).world (run env events).world.answers := by
  -- Induction over the turns of the run: a frame is received, or another event happens.
  refine run_turns env (fun world => Traffic env world world.answers) events .start ?_ ?_
    List.prefix_rfl
  · intro sessionId frame world receives traffic
    have chain := Session.receiveFrame_chain env sessionId frame receives.neverReady receives.alive
    rw [World.answers_append (chain.log receives.neverReady)]
    exact .frame traffic receives.alive frame
  · intro event world happens traffic
    have calm := happens.neverReady
    rw [World.answers_append ((handle_chain env event calm).log calm)]
    exact .event traffic event

end Process

/-- The client that has logged on for strategy 7 can rely on the answer, and owns the strategy. -/
theorem Traffic.reliable_logOn :
    Reliable .plain (Process.run .plain [.accept, .read 1 logOn]).world
      (Process.run .plain [.accept, .read 1 logOn]).world.answers ∧
      (Process.run .plain [.accept, .read 1 logOn]).world.routes.owner 7 = some 1 :=
  ⟨Traffic.reliable (Process.run_traffic .plain [.accept, .read 1 logOn]), by decide +kernel⟩

end FixBridge
