import FixBridge.Session.Intake

/-! What one turn of the process does: a frame that a session parses, or another event. -/

namespace FixBridge

/-- An action that the bridge can cause while it has control. -/
def Action.Bridged : Action → Prop
  | .send _ .addressed _ | .send _ .unaddressed _ | .executionReport _ | .close _
  | .peerDisconnected _ | .makeZombie _ | .disconnect _ | .disconnected _ => True
  | _ => False

/-- An action by which no session sends anything by itself. -/
def Action.Tacit : Action → Prop
  | .send _ .reply _ => False
  | _ => True

/-- The bridge makes no session answer. -/
theorem Action.Bridged.tacit {action : Action} (bridged : action.Bridged) : action.Tacit := by
  -- Each action of the bridge is one of those that are tacit.
  unfold Bridged at bridged
  unfold Tacit
  split at bridged <;> trivial

/-- Whatever the bridge does, its actions are of this kind. -/
theorem BridgeStep.extends {env : Environment} {world next : World}
    (step : BridgeStep env world next) (calm : world.NeverReady) :
    History.Extends (fun step => step.action.Bridged) world.log next.log := by
  -- The bridge sends, forwards a report or closes, and each way has its own actions.
  cases step with
  | send sessionId value stored =>
    refine (Session.sendHelper_extends ..).mono fun step sends => ?_
    obtain ⟨sent, action⟩ := sends
    simp [action, Action.Bridged]
  | executionReport value =>
    refine (Controller.executionReport_extends ..).mono fun step kind => ?_
    rcases kind with action | ⟨_, _, action⟩
    · simp [action, Action.Bridged]
    · simp [action, Action.Bridged]
  | close peer sessionId alive =>
    refine (Session.conclude_extends env calm (Or.inl alive)).mono fun step kind => ?_
    -- The five actions of an ending.
    rcases kind with action | action | action | action | action <;>
      simp [action, Action.Bridged]
  | again => exact .single trivial

/-- So are the actions of a chain of its steps. -/
theorem BridgeChain.extends {env : Environment} {world later : World}
    (chain : BridgeChain env world later) (calm : world.NeverReady) :
    History.Extends (fun step => step.action.Bridged) world.log later.log := by
  -- Induction on the chain; no session is ever ready on the way.
  induction chain with
  | refl => exact .refl _ _
  | tail before step ih =>
    exact ih.trans (step.extends ((BridgeChain.follows before calm).neverReady calm))

namespace Session

variable (env : Environment) (sessionId : SessionId)

/-- A frame is not decoded and closes the session, or its message is handled after a check. -/
theorem receiveFrame_cases (frame : List UInt8) {world : World} (calm : world.NeverReady)
    (alive : world.Open sessionId) :
    (env.decode frame = none ∧ BridgeChain env world (receiveFrame env sessionId frame world)) ∨
      ∃ message result, env.decode frame = some message ∧
        Handles env sessionId message (check sessionId message.header world) result ∧
        BridgeChain env (outcome result) (receiveFrame env sessionId frame world) := by
  have calm' := (parseFrame_chain env frame calm alive).neverReady calm
  cases decoded : env.decode frame with
  | none =>
    refine Or.inl ⟨rfl, ?_⟩
    have failed : parseFrame env sessionId frame world = .error world := by
      rw [parseFrame, decoded]
    rw [receiveFrame, failed]
    exact close_chain env (handOver_chain env) sessionId calm
  | some message =>
    have checked : ProcessStep env world (check sessionId message.header world) :=
      .check world sessionId message.header alive
    have parsed : parseFrame env sessionId frame world =
        parseHelper env sessionId message (check sessionId message.header world) := by
      rw [parseFrame, decoded]
    refine Or.inr ⟨message, _, rfl,
      parseHelper_handles env sessionId message (checked.neverReady calm), ?_⟩
    rw [← parsed, receiveFrame]
    -- Only an exception is followed by something, which is a close.
    cases result : parseFrame env sessionId frame world with
    | ok next => exact .refl
    | error thrown =>
      rw [result] at calm'
      exact close_chain env (handOver_chain env) sessionId calm'

/-- A handled frame is a chain of steps. -/
theorem receiveFrame_chain (frame : List UInt8) {world : World} (calm : world.NeverReady)
    (alive : world.Open sessionId) :
    ProcessChain env world (receiveFrame env sessionId frame world) := by
  -- The frame is parsed first, and an exception closes the session afterwards.
  have chain := parseFrame_chain env frame calm alive
  have calm' := chain.neverReady calm
  unfold receiveFrame
  cases result : parseFrame env sessionId frame world with
  | ok next =>
    rw [result] at chain
    exact chain
  | error thrown =>
    rw [result] at chain calm'
    exact .trans chain (close_chain env (handOver_chain env) sessionId calm').process

/-- A free strategy goes to the session that adds its route. -/
theorem addRoute_owner {sessionId : SessionId} {strategyId : StrategyId} {world : World}
    (free : world.routes.owner strategyId = none) :
    (addRoute sessionId strategyId world).1.routes.owner =
      Function.update world.routes.owner strategyId (some sessionId) := by
  -- The table of routes refines the ownership, in which a free key is acquired.
  have refines := Routes.addRoute_refines world.routes sessionId strategyId
  rw [Ownership.acquire_of_free free] at refines
  exact (congrArg Prod.fst refines).symm

/-- A strategy is free when its session has removed the route. -/
theorem removeRoute_owner {sessionId : SessionId} {strategyId : StrategyId} {world : World}
    (owned : world.routes.owner strategyId = some sessionId) :
    (removeRoute sessionId strategyId world).1.routes.owner =
      Function.update world.routes.owner strategyId none := by
  -- The table of routes refines the ownership, in which the owner releases its key.
  have refines := Routes.removeRoute_refines world.routes sessionId strategyId
  rw [Ownership.release_of_owned owned] at refines
  exact (congrArg Prod.fst refines).symm

/-- The only step of settling a request is about its route. -/
theorem Settles.extends {sessionId : SessionId} {strategyId : StrategyId} {world middle : World}
    {userStatus : UserStatus} (settles : Settles sessionId strategyId world middle userStatus) :
    History.Extends (fun step => step.action = .addRoute sessionId strategyId ∨
      step.action = .removeRoute sessionId strategyId) world.log middle.log := by
  -- One change of a route, or what was noted when it was declined.
  cases settles with
  | granted free => exact .single (Or.inl rfl)
  | released owned => exact .single (Or.inr rfl)
  | declined routes manager extends_ => exact extends_

/-- Settling a request changes no session. -/
theorem Settles.manager {sessionId : SessionId} {strategyId : StrategyId} {world middle : World}
    {userStatus : UserStatus} (settles : Settles sessionId strategyId world middle userStatus) :
    middle.controller.sessionManager = world.controller.sessionManager := by
  -- Routes are no matter of the session manager.
  cases settles with
  | granted free => rfl
  | released owned => rfl
  | declined routes manager extends_ => exact manager

/-- Handling a message ages the sessions. -/
theorem Handles.ages {env : Environment} {sessionId : SessionId} {message : Message}
    {world : World} {result : Except World World}
    (handles : Handles env sessionId message world result) (calm : world.NeverReady) :
    world.Ages (outcome result) := by
  have follows : ∀ {next}, BridgeChain env (handed sessionId message world) next →
      world.Follows next := fun chain =>
    (World.Follows.record world _).trans (BridgeChain.follows chain calm)
  cases handles with
  | refused undelivered => exact (World.Follows.refl world).ages
  | rejected unsupported => exact (sendHelper_follows ..).ages
  | passed supported delivered other chain => exact (follows chain).ages
  | thrown supported delivered chain reason => exact (follows chain).ages
  | settled kind created chain kept named =>
    obtain ⟨middle, userStatus, text, settles, same⟩ := settle_cases env sessionId _ _ _
    -- The answer is sent by a session that is still stored.
    rw [outcome_ok, same]
    exact ((follows chain).ages.trans (.of_manager settles.manager)).trans
      (sendHelper_follows ..).ages

/-- A frame ages the sessions, after the one that parses it has read its header. -/
theorem receiveFrame_ages (frame : List UInt8) {world : World} (calm : world.NeverReady)
    (alive : world.Open sessionId) :
    ((env.decode frame).elim world fun message => check sessionId message.header world).Ages
      (receiveFrame env sessionId frame world) := by
  rcases receiveFrame_cases env sessionId frame calm alive with
    ⟨decoded, chain⟩ | ⟨message, result, decoded, handles, chain⟩
  · rw [decoded]
    exact (BridgeChain.follows chain calm).ages
  · rw [decoded]
    have checked : ProcessStep env world (check sessionId message.header world) :=
      .check world sessionId message.header alive
    have ages := handles.ages (checked.neverReady calm)
    -- A close that follows an exception ages the sessions once more.
    exact ages.trans
      (BridgeChain.follows chain (ages.neverReady (checked.neverReady calm))).ages

/-- A session that is stored after a frame has aged, perhaps after it has read the header. -/
theorem receiveFrame_session {env : Environment} {sessionId : SessionId} {frame : List UInt8}
    {world : World} (calm : world.NeverReady) (alive : world.Open sessionId) {other : SessionId}
    {session : Session}
    (located : (receiveFrame env sessionId frame world).session other = some session) :
    ∃ before, world.session other = some before ∧ (before.Aged session ∨
      (other = sessionId ∧ ∃ message, env.decode frame = some message ∧
        (before.receive message.header).Aged session)) := by
  -- The session has aged since the header was checked, if there was one.
  obtain ⟨middle, found, aged⟩ :=
    (receiveFrame_ages env sessionId frame calm alive).session_of_later located
  cases decoded : env.decode frame with
  | none =>
    rw [decoded] at found
    exact ⟨middle, found, Or.inl aged⟩
  | some message =>
    rw [decoded, Option.elim_some, check, World.modifySession_session] at found
    split at found
    · -- The session itself has received the header before everything else.
      next same =>
      obtain ⟨before, found', rfl⟩ := Option.map_eq_some_iff.mp found
      exact ⟨before, same ▸ found', Or.inr ⟨same, message, rfl, aged⟩⟩
    · exact ⟨middle, found, Or.inl aged⟩

/-- A message that makes its session answer: one that it does not support, or a good request. -/
def Answers (env : Environment) (sessionId : SessionId) (message : Message) (world : World) :
    Prop :=
  message.header.msgType.supported = false ∨
    (message.header.msgType = .userRequest ∧
      (env.onMessage (handed sessionId message world)).throws = false ∧
      ∃ request strategyId, env.createUserRequest message = some request ∧
        env.fromChars request.username = some strategyId)

/-- A session sends one message by itself, and no session sends another one. -/
def Replies (sessionId : SessionId) (sent : Sent) (world later : World) : Prop :=
  ∃ middle : World, History.Extends (fun step => step.action.Tacit) world.log middle.log ∧
    History.Extends (fun step => step.action.Tacit)
      (middle.log ++ [⟨.send sessionId .reply sent, middle.controller⟩]) later.log

/-- What a frame can lead to, as far as routes and answers are concerned. -/
inductive Reacts (env : Environment) (sessionId : SessionId) (frame : List UInt8)
    (world later : World) : Prop where
  /-- Nothing, because the frame holds no message that makes the session answer. -/
  | tacitly (unanswered : ∀ message, env.decode frame = some message →
        ¬ Answers env sessionId message (check sessionId message.header world))
      (routes : later.routes = world.routes)
      (tacit : History.Extends (fun step => step.action.Tacit) world.log later.log)
  /-- A message of an unsupported type is rejected. -/
  | byReject {message : Message} {sent : Sent} (decoded : env.decode frame = some message)
      (unsupported : message.header.msgType.supported = false)
      (routes : later.routes = world.routes)
      (value : sent.value = .businessMessageReject (unexpectedMsgType message.header))
      (replies : Replies sessionId sent world later)
  /-- A request is settled and answered. -/
  | byResponse {message : Message} {request : UserRequest} {strategyId : StrategyId}
      {next middle : World} {userStatus : UserStatus} {text : String} {sent : Sent}
      (decoded : env.decode frame = some message)
      (answers : Answers env sessionId message (check sessionId message.header world))
      (kind : message.header.msgType = .userRequest)
      (created : env.createUserRequest message = some request)
      (named : env.fromChars request.username = some strategyId)
      (settles : Settles sessionId strategyId next middle userStatus)
      (before : next.routes = world.routes) (routes : later.routes = middle.routes)
      (value : sent.value = .userResponse
        ⟨request.userRequestId, request.username, userStatus, text⟩)
      (replies : Replies sessionId sent world later)

/-- A reply is the one action that an observer of replies can see. -/
theorem Replies.filterMap {β : Type} {observe : Action → Option β}
    (blind : ∀ {action : Action}, action.Tacit → observe action = none) {sessionId : SessionId}
    {sent : Sent} {world later : World} (replies : Replies sessionId sent world later) :
    later.log.filterMap (fun step => observe step.action) =
      world.log.filterMap (fun step => observe step.action) ++
        (observe (.send sessionId .reply sent)).toList := by
  obtain ⟨middle, before, after⟩ := replies
  rw [after.filterMap fun step => blind, List.filterMap_append,
    before.filterMap fun step => blind]
  -- The reply stands alone at the end of what came before.
  cases seen : observe (.send sessionId .reply sent) <;> simp [seen]

/-- An answer is all that a session sends by itself. -/
theorem sendHelper_replies (env : Environment) {sessionId : SessionId} (value : Outbound)
    {first world later : World} (stored : sessionId ∈ world.sessionIds)
    (before : History.Extends (fun step => step.action.Tacit) first.log world.log)
    (after : History.Extends (fun step => step.action.Tacit)
      (sendHelper env .reply sessionId value world).log later.log) :
    ∃ sent, sent.value = value ∧ Replies sessionId sent first later := by
  -- A stored session logs exactly one send, which is the reply.
  obtain ⟨session, located⟩ := World.mem_sessionIds.mp stored
  obtain ⟨sent, content, -, -, -, same⟩ := sendHelper_of_stored env .reply value located
  rw [same] at after
  exact ⟨sent, content, world, before, after⟩

/-- A message that makes its session answer is rejected, or it is a request that is settled. -/
theorem Answers.handled {env : Environment} {sessionId : SessionId} {message : Message}
    {world : World} {result : Except World World} (answers : Answers env sessionId message world)
    (handles : Handles env sessionId message world result) :
    (message.header.msgType.supported = false ∧
      result = .ok (sendHelper env .reply sessionId
        (.businessMessageReject (unexpectedMsgType message.header)) world)) ∨
      ∃ next request strategyId, message.header.msgType = .userRequest ∧
        env.createUserRequest message = some request ∧
        env.fromChars request.username = some strategyId ∧
        BridgeChain env (handed sessionId message world) next ∧
        result = .ok (settle env sessionId request strategyId next) := by
  have unlike : message.header.msgType.supported = false →
      message.header.msgType.supported ≠ true := fun unsupported supported => by
    rw [unsupported] at supported
    cases supported
  cases handles with
  | refused undelivered =>
    -- A message that is refused with an exception is neither unsupported nor a good request.
    unfold Message.delivery at undelivered
    rcases answers with unsupported | ⟨kind, -, request, strategyId, created, -⟩
    · have other : message.header.msgType ≠ .userRequest := by
        intro kind
        rw [kind] at unsupported
        cases unsupported
      rw [if_neg other, unsupported] at undelivered
      cases undelivered
    · rw [if_pos kind, created] at undelivered
      cases undelivered
  | rejected unsupported => exact Or.inl ⟨unsupported, rfl⟩
  | passed supported delivered other chain =>
    rcases answers with unsupported | ⟨kind, -⟩
    · exact absurd supported (unlike unsupported)
    · exact absurd kind other
  | thrown supported delivered chain reason =>
    rcases answers with unsupported | ⟨-, kept, request, strategyId, created, named⟩
    · exact absurd supported (unlike unsupported)
    · -- The exception was thrown by the bridge, or by the conversion of the username.
      rcases reason with throws | ⟨-, request', created', unnamed⟩
      · rw [kept] at throws
        cases throws
      · rw [created] at created'
        cases created'
        rw [named] at unnamed
        cases unnamed
  | settled kind created chain kept named =>
    exact Or.inr ⟨_, _, _, kind, created, named, chain, rfl⟩

/-- While the bridge has control, no route changes and no session answers. -/
theorem tacit_of_chain {env : Environment} {first later : World}
    (chain : BridgeChain env first later) (calm : first.NeverReady) :
    later.routes = first.routes ∧
      History.Extends (fun step => step.action.Tacit) first.log later.log :=
  ⟨(BridgeChain.follows chain calm).routes,
    (BridgeChain.extends chain calm).mono fun _ => Action.Bridged.tacit⟩

/-- So it is while a message is handled that does not make its session answer. -/
theorem Handles.tacit {env : Environment} {sessionId : SessionId} {message : Message}
    {world : World} {result : Except World World}
    (handles : Handles env sessionId message world result) (calm : world.NeverReady)
    (unanswered : ¬ Answers env sessionId message world) :
    (outcome result).routes = world.routes ∧
      History.Extends (fun step => step.action.Tacit) world.log (outcome result).log := by
  -- The message is noted and the bridge is called, which is all tacit.
  have control : ∀ {next}, BridgeChain env (handed sessionId message world) next →
      next.routes = world.routes ∧
        History.Extends (fun step => step.action.Tacit) world.log next.log := by
    intro next chain
    obtain ⟨routes, tacit⟩ := tacit_of_chain chain calm
    have noted : History.Extends (fun step => step.action.Tacit) world.log
        (handed sessionId message world).log := .single trivial
    exact ⟨routes, noted.trans tacit⟩
  -- What is left of the cases are the two answers, and there is none.
  cases handles with
  | refused undelivered => exact ⟨rfl, .refl _ _⟩
  | rejected unsupported => exact absurd (Or.inl unsupported) unanswered
  | passed supported delivered other chain => exact control chain
  | thrown supported delivered chain reason => exact control chain
  | settled kind created chain kept named =>
    exact absurd (Or.inr ⟨kind, kept, _, _, created, named⟩) unanswered

/-- A good request is settled with one reply, before and after which everything is tacit. -/
theorem Settles.replies (env : Environment) {sessionId : SessionId} {request : UserRequest}
    {strategyId : StrategyId} {userStatus : UserStatus} {text : String}
    {first next middle later : World} (stored : sessionId ∈ next.sessionIds)
    (settles : Settles sessionId strategyId next middle userStatus)
    (before : History.Extends (fun step => step.action.Tacit) first.log next.log)
    (after : History.Extends (fun step => step.action.Tacit)
      (respond env sessionId request userStatus text middle).log later.log) :
    ∃ sent, sent.value = .userResponse
        ⟨request.userRequestId, request.username, userStatus, text⟩ ∧
      Replies sessionId sent first later := by
  -- The session is still stored once the route is settled.
  have stored' : sessionId ∈ middle.sessionIds := by
    rw [(World.Ages.of_manager settles.manager).sessionIds]
    exact stored
  -- Routes are changed without an answer, so that only the response is one.
  have routed : History.Extends (fun step => step.action.Tacit) next.log middle.log := by
    refine settles.extends.mono fun step about => ?_
    rcases about with action | action
    · simp [action, Action.Tacit]
    · simp [action, Action.Tacit]
  exact sendHelper_replies env _ stored' (before.trans routed) after

/-- What a frame leads to that holds a request, when the bridge has let it pass. -/
theorem receiveFrame_settles (env : Environment) {sessionId : SessionId} {frame : List UInt8}
    {message : Message} {request : UserRequest} {strategyId : StrategyId} {world : World}
    (calm : world.NeverReady) (alive : world.Open sessionId)
    (decoded : env.decode frame = some message) (kind : message.header.msgType = .userRequest)
    (created : env.createUserRequest message = some request)
    (named : env.fromChars request.username = some strategyId)
    (kept : (env.onMessage
      (handed sessionId message (check sessionId message.header world))).throws = false) :
    ∃ next, next.routes = world.routes ∧ ∀ {middle userStatus text},
      Settles sessionId strategyId next middle userStatus →
      settle env sessionId request strategyId next =
        respond env sessionId request userStatus text middle →
      (receiveFrame env sessionId frame world).routes = middle.routes ∧
        ∃ sent, sent.value = .userResponse
            ⟨request.userRequestId, request.username, userStatus, text⟩ ∧
          Replies sessionId sent world (receiveFrame env sessionId frame world) := by
  rcases receiveFrame_cases env sessionId frame calm alive with
    ⟨failed, -⟩ | ⟨other, result, decoded', handles, ended⟩
  · rw [decoded] at failed
    cases failed
  cases decoded.symm.trans decoded'
  have checked : ProcessStep env world (check sessionId message.header world) :=
    .check world sessionId message.header alive
  have calm' := checked.neverReady calm
  obtain ⟨lastRoutes, last⟩ := tacit_of_chain ended ((handles.ages calm').neverReady calm')
  have stored : sessionId ∈ (check sessionId message.header world).sessionIds := by
    obtain ⟨session, located, -⟩ := World.open_iff.mp (check_open.mpr alive)
    exact World.mem_sessionIds.mpr ⟨session, located⟩
  have answers : Answers env sessionId message (check sessionId message.header world) :=
    Or.inr ⟨kind, kept, request, strategyId, created, named⟩
  rcases answers.handled handles with ⟨unsupported, -⟩ |
    ⟨next, request', strategyId', -, created', named', chain, rfl⟩
  · -- Requests are supported.
    rw [kind] at unsupported
    cases unsupported
  · cases created.symm.trans created'
    cases named.symm.trans named'
    -- The bridge leaves the routes alone before the request is settled.
    obtain ⟨routes, controlled⟩ := tacit_of_chain chain calm'
    refine ⟨next, routes, ?_⟩
    intro middle userStatus text settles same
    have looked : History.Extends (fun step => step.action.Tacit) world.log
        (check sessionId message.header world).log := .single trivial
    have noted : History.Extends (fun step => step.action.Tacit)
        (check sessionId message.header world).log
        (handed sessionId message (check sessionId message.header world)).log := .single trivial
    have follows := (World.Follows.record _ _).trans (BridgeChain.follows chain calm')
    have stored' : sessionId ∈ next.sessionIds := by
      rw [follows.sessionIds]
      exact stored
    rw [same, outcome_ok] at last lastRoutes
    have answered := (sendHelper_follows env .reply sessionId (.userResponse
      ⟨request.userRequestId, request.username, userStatus, text⟩) middle).routes
    exact ⟨lastRoutes.trans answered,
      settles.replies env stored' ((looked.trans noted).trans controlled) last⟩

/-- Whatever arrives, a frame leads to one of these reactions. -/
theorem receiveFrame_reacts (env : Environment) {sessionId : SessionId} (frame : List UInt8)
    {world : World} (calm : world.NeverReady) (alive : world.Open sessionId) :
    Reacts env sessionId frame world (receiveFrame env sessionId frame world) := by
  rcases receiveFrame_cases env sessionId frame calm alive with
    ⟨decoded, ended⟩ | ⟨message, result, decoded, handles, ended⟩
  · obtain ⟨routes, tacit⟩ := tacit_of_chain ended calm
    exact .tacitly (fun message same => by rw [decoded] at same; cases same) routes tacit
  have checked : ProcessStep env world (check sessionId message.header world) :=
    .check world sessionId message.header alive
  have calm' := checked.neverReady calm
  have looked : History.Extends (fun step => step.action.Tacit) world.log
      (check sessionId message.header world).log := .single trivial
  -- What comes after the message has been handled is tacit.
  obtain ⟨lastRoutes, last⟩ := tacit_of_chain ended ((handles.ages calm').neverReady calm')
  by_cases answers : Answers env sessionId message (check sessionId message.header world)
  · rcases id answers with unsupported | ⟨kind, kept, request, strategyId, created, named⟩
    · rcases answers.handled handles with ⟨-, rfl⟩ | ⟨_, _, _, kind, -⟩
      · obtain ⟨session, located, -⟩ := World.open_iff.mp (check_open.mpr alive)
        obtain ⟨sent, value, replies⟩ := sendHelper_replies env
          (.businessMessageReject (unexpectedMsgType message.header))
          (World.mem_sessionIds.mpr ⟨session, located⟩) looked last
        have routes := (sendHelper_follows env .reply sessionId (.businessMessageReject
          (unexpectedMsgType message.header)) (check sessionId message.header world)).routes
        exact .byReject decoded unsupported (lastRoutes.trans routes) value replies
      · rw [kind] at unsupported
        cases unsupported
    · obtain ⟨next, before, reacts⟩ :=
        receiveFrame_settles env calm alive decoded kind created named kept
      obtain ⟨middle, userStatus, text, settles, same⟩ :=
        settle_cases env sessionId request strategyId next
      obtain ⟨routes, sent, value, replies⟩ := reacts settles same
      exact .byResponse decoded answers kind created named settles before routes value replies
  · obtain ⟨routes, tacit⟩ := handles.tacit calm' answers
    refine .tacitly (fun other same => ?_) (lastRoutes.trans routes)
      ((looked.trans tacit).trans last)
    rw [decoded] at same
    cases same
    exact answers

end Session

/-- An action that is not a session's reaction to a received message. -/
def Action.Unprompted : Action → Prop
  | .check _ _ | .message _ _ | .addRoute _ _ | .removeRoute _ _ => False
  | .send _ .reply sent => ∃ text, sent.value = .logout text
  | _ => True

/-- What the bridge causes is no reaction to a message. -/
theorem Action.Bridged.unprompted {action : Action} (bridged : action.Bridged) :
    action.Unprompted := by
  -- Each action of the bridge is one of those that nobody has asked for.
  unfold Bridged at bridged
  unfold Unprompted
  split at bridged <;> trivial

/-- What an event prepares leaves the routes alone, and is no reaction to a message. -/
theorem Prepares.unprompted {env : Environment} {world start : World}
    (prepares : Prepares env world start) (calm : world.NeverReady) :
    start.routes = world.routes ∧
      History.Extends (fun step => step.action.Unprompted) world.log start.log := by
  -- Each event has its own actions, and none of them touches a route.
  cases prepares with
  | stay => exact ⟨rfl, .refl _ _⟩
  | enroll =>
    obtain ⟨first, second, log, -⟩ := SessionManager.enroll_log world
    exact ⟨rfl, _, log, by simp [Action.Unprompted]⟩
  | disconnected sessionId stored =>
    have ends := Session.ends_of_stored stored
    refine ⟨(Session.conclude_frame env calm ends).2.2.2,
      (Session.conclude_extends env calm ends).mono fun step kind => ?_⟩
    rcases kind with action | action | action | action | action <;>
      simp [action, Action.Unprompted]
  | logout sessionId error stored =>
    -- A logout is sent without a request.
    obtain ⟨session, located⟩ := World.mem_sessionIds.mp stored
    obtain ⟨sent, value, -, -, -, same⟩ := Session.sendHelper_of_stored env .reply
      (.logout error.getText) located
    rw [same]
    exact ⟨rfl, .single ⟨error.getText, value⟩⟩
  | cleanup nextCleanup =>
    refine ⟨(SessionManager.removeZombies_frame env _).2.2,
      (SessionManager.removeZombies_extends env _).mono fun step removes => ?_⟩
    obtain ⟨sessionId, action⟩ := removes
    simp [action, Action.Unprompted]
  | gatewayConnected | gatewayDisconnected => exact ⟨rfl, .single trivial⟩

/-- A session that is stored after an event's preparation was stored before, or is new. -/
theorem Prepares.session {env : Environment} {world start : World}
    (prepares : Prepares env world start) (calm : world.NeverReady) {sessionId : SessionId}
    {session : Session} (located : start.session sessionId = some session) :
    (∃ before, world.session sessionId = some before ∧ before.Aged session) ∨
      (world.session sessionId = none ∧ session = { sessionId }) := by
  -- Sessions age, with two exceptions: one is created, and zombies are removed.
  have stays : ∀ {start : World}, world.Ages start → start.session sessionId = some session →
      ∃ before, world.session sessionId = some before ∧ before.Aged session :=
    fun ages located => ages.session_of_later located
  cases prepares with
  | stay => exact Or.inl ⟨session, located, .refl session⟩
  | enroll =>
    rcases SessionManager.enroll_stored located with before | ⟨-, missing, same⟩
    · exact Or.inl ⟨session, before, .refl session⟩
    · exact Or.inr ⟨missing, same⟩
  | disconnected other stored =>
    exact Or.inl (stays
      (Session.conclude_follows env calm (Session.ends_of_stored stored)).ages located)
  | logout other error stored => exact Or.inl (stays (Session.sendHelper_follows ..).ages located)
  | cleanup nextCleanup =>
    rw [SessionManager.removeZombies_session] at located
    split at located
    · cases located
    · exact Or.inl ⟨session, located, .refl session⟩
  | gatewayConnected | gatewayDisconnected => exact Or.inl ⟨session, located, .refl session⟩

namespace Process

/-- A session that is stored after an event other than a read has aged, or is new. -/
theorem handle_session (env : Environment) (event : Event) {world : World}
    (calm : world.NeverReady) {sessionId : SessionId} {session : Session}
    (located : (handle env event world).session sessionId = some session) :
    (∃ before, world.session sessionId = some before ∧ before.Aged session) ∨
      (world.session sessionId = none ∧ Session.Aged { sessionId } session) := by
  -- First what the event does itself, then what the calls of the bridge do.
  obtain ⟨start, prepares, chain⟩ := handle_cases env event calm
  have calm' := ProcessChain.neverReady (prepares.chain env) calm
  obtain ⟨middle, found, aged⟩ := (BridgeChain.follows chain calm').ages.session_of_later located
  rcases prepares.session calm found with ⟨before, found', aged'⟩ | ⟨missing, rfl⟩
  · exact Or.inl ⟨before, found', aged'.trans aged⟩
  · exact Or.inr ⟨missing, aged⟩

/-- No event but a read changes the routes or makes a session react to a message. -/
theorem handle_unprompted (env : Environment) (event : Event) {world : World}
    (calm : world.NeverReady) :
    (handle env event world).routes = world.routes ∧
      History.Extends (fun step => step.action.Unprompted) world.log
        (handle env event world).log := by
  -- First what the event does itself, then what the calls of the bridge do.
  obtain ⟨start, prepares, chain⟩ := handle_cases env event calm
  obtain ⟨routes, extends_⟩ := prepares.unprompted calm
  have calm' := ProcessChain.neverReady (prepares.chain env) calm
  exact ⟨(BridgeChain.follows chain calm').routes.trans routes,
    extends_.trans ((BridgeChain.extends chain calm').mono fun step => Action.Bridged.unprompted)⟩

/-- The world after the first frames of those that have arrived. -/
def afterFrames (env : Environment) (sessionId : SessionId) (frames : List (List UInt8))
    (world : World) (count : Nat) : World :=
  (frames.take count).foldl (fun world frame => Session.receiveFrame env sessionId frame world)
    world

/-- The next frame is parsed in the world that the frames before it have left. -/
theorem afterFrames_succ {env : Environment} {sessionId : SessionId} {frames : List (List UInt8)}
    {world : World} {count : Nat} {frame : List UInt8} (found : frames[count]? = some frame) :
    afterFrames env sessionId frames world (count + 1) =
      Session.receiveFrame env sessionId frame (afterFrames env sessionId frames world count) := by
  -- One more frame is taken, which is the last step of the fold.
  unfold afterFrames
  rw [List.take_add_one, found, Option.toList_some, List.foldl_append, List.foldl_cons,
    List.foldl_nil]

/--
A session parses a frame in the course of a run, in the world to which the run has led by then.

The frames that arrived with it and stand before it have all left the session open.
-/
def Receives (env : Environment) (events : List Event) (sessionId : SessionId)
    (frame : List UInt8) (world : World) : Prop :=
  ∃ earlier bytes later count, events = earlier ++ .read sessionId bytes :: later ∧
    let process := run env earlier
    let frames := (env.framer.frames (process.buffer sessionId ++ bytes)).1
    frames[count]? = some frame ∧
      world = afterFrames env sessionId frames process.world count ∧
      ∀ fewer ≤ count, (afterFrames env sessionId frames process.world fewer).Open sessionId

/-- The frames of a read are a chain of steps while the session is open. -/
theorem afterFrames_chain {env : Environment} {sessionId : SessionId} {frames : List (List UInt8)}
    {world : World} {fewer count : Nat}
    (calm : (afterFrames env sessionId frames world fewer).NeverReady) (least : fewer ≤ count)
    (within : count ≤ frames.length)
    (before : ∀ fewer < count, (afterFrames env sessionId frames world fewer).Open sessionId) :
    ProcessChain env (afterFrames env sessionId frames world fewer)
      (afterFrames env sessionId frames world count) := by
  -- The frames are added one by one behind those that the chain starts from.
  induction count, least using Nat.le_induction with
  | base => exact .refl
  | succ count least ih =>
    have chain := ih (by omega) fun fewer below => before fewer (by omega)
    rw [afterFrames_succ (List.getElem?_eq_getElem (Nat.lt_of_succ_le within))]
    exact .trans chain (Session.receiveFrame_chain env sessionId _
      (ProcessChain.neverReady chain calm) (before count (Nat.lt_succ_self count)))

/-- The world in which a frame is parsed is the end of a chain of steps. -/
theorem Receives.chain {env : Environment} {events : List Event} {sessionId : SessionId}
    {frame : List UInt8} {world : World} (receives : Receives env events sessionId frame world) :
    ProcessChain env {} world := by
  obtain ⟨earlier, bytes, later, count, -, found, rfl, before⟩ := receives
  obtain ⟨within, -⟩ := List.getElem?_eq_some_iff.mp found
  have start : ∀ {frames},
      (afterFrames env sessionId frames (run env earlier).world 0).NeverReady :=
    run_neverReady env earlier
  -- The frames before it were parsed by an open session.
  exact .trans (run_chain env earlier) (afterFrames_chain start (Nat.zero_le count)
    (Nat.le_of_lt within) fun fewer below => before fewer (Nat.le_of_lt below))

/-- While a frame is parsed nobody is ready. -/
theorem Receives.neverReady {env : Environment} {events : List Event} {sessionId : SessionId}
    {frame : List UInt8} {world : World} (receives : Receives env events sessionId frame world) :
    world.NeverReady :=
  ProcessChain.neverReady receives.chain World.neverReady_initial

/-- Frames are parsed while the session is open. -/
theorem Receives.alive {env : Environment} {events : List Event} {sessionId : SessionId}
    {frame : List UInt8} {world : World} (receives : Receives env events sessionId frame world) :
    world.Open sessionId := by
  -- The session was open before every frame up to this one.
  obtain ⟨earlier, bytes, later, count, -, -, rfl, before⟩ := receives
  exact before count (Nat.le_refl count)

/-- An event happens in the course of a run, in the world to which the run has led by then. -/
def Happens (env : Environment) (events : List Event) (event : Event) (world : World) : Prop :=
  ∃ earlier later, events = earlier ++ event :: later ∧ world = (run env earlier).world

/-- The world in which an event happens is the end of a chain of steps. -/
theorem Happens.chain {env : Environment} {events : List Event} {event : Event} {world : World}
    (happens : Happens env events event world) : ProcessChain env {} world := by
  -- It happens in the world that an earlier part of the run has led to.
  obtain ⟨earlier, later, -, rfl⟩ := happens
  exact run_chain env earlier

/-- When an event happens nobody is ready. -/
theorem Happens.neverReady {env : Environment} {events : List Event} {event : Event}
    {world : World} (happens : Happens env events event world) : world.NeverReady :=
  ProcessChain.neverReady happens.chain World.neverReady_initial

section Turns

variable (env : Environment) (invariant : World → Prop) {events earlier later : List Event}
  {sessionId : SessionId} {bytes : List UInt8}

/-- An invariant survives the frames that an open session parses, if each of them keeps it. -/
theorem frames_turns (split : events = earlier ++ .read sessionId bytes :: later)
    (framed : ∀ {frame world}, Receives env events sessionId frame world →
      invariant world → invariant (Session.receiveFrame env sessionId frame world))
    (holds : invariant (run env earlier).world) {count : Nat} :
    let frames := (env.framer.frames ((run env earlier).buffer sessionId ++ bytes)).1
    count ≤ frames.length →
    (∀ fewer < count, (afterFrames env sessionId frames (run env earlier).world fewer).Open
      sessionId) →
    invariant (afterFrames env sessionId frames (run env earlier).world count) := by
  -- Induction on the number of frames; the next one is received by an open session.
  intro frames within before
  induction count with
  | zero => exact holds
  | succ count ih =>
    have found := List.getElem?_eq_getElem (Nat.lt_of_succ_le within)
    rw [afterFrames_succ found]
    refine framed ⟨earlier, bytes, later, count, split, found, rfl, fun fewer least => ?_⟩ ?_
    · exact before fewer (Nat.lt_succ_of_le least)
    · exact ih (Nat.le_of_succ_le within) fun fewer below => before fewer (by omega)

/-- An invariant survives a read if each frame keeps it. -/
theorem read_turns (split : events = earlier ++ .read sessionId bytes :: later)
    (framed : ∀ {frame world}, Receives env events sessionId frame world →
      invariant world → invariant (Session.receiveFrame env sessionId frame world))
    (holds : invariant (run env earlier).world) :
    invariant ((run env earlier).read env sessionId bytes).world := by
  by_cases alive : (run env earlier).world.Open sessionId
  · -- The frames are parsed one by one, up to the one that ends the session.
    obtain ⟨count, processed⟩ := read_processed env bytes (run_neverReady env earlier) alive
    have all := frames_turns env invariant split framed holds processed.bounded processed.before
    have same : afterFrames env sessionId _ (run env earlier).world count = _ :=
      processed.processed.symm
    rw [same] at all
    exact all
  · -- A session that has ended parses nothing.
    rw [read_of_ended env alive]
    exact holds

/--
An invariant holds after every run if each frame and each event but the reads keeps it.

This is the rule for properties that hold between frames but not between the steps of one.
-/
theorem run_turns (events : List Event) (initial : invariant {})
    (framed : ∀ {sessionId frame world}, Receives env events sessionId frame world →
      invariant world → invariant (Session.receiveFrame env sessionId frame world))
    (handled : ∀ {event world}, Happens env events event world → invariant world →
      invariant (handle env event world)) {earlier : List Event} (begins : earlier <+: events) :
    invariant (run env earlier).world := by
  -- The events are taken one by one, whatever is still to come.
  induction earlier using List.reverseRecOn with
  | nil => exact initial
  | append_singleton earlier event ih =>
    obtain ⟨later, split⟩ := begins
    rw [List.append_assoc, List.singleton_append] at split
    have holds := ih ⟨event :: later, split⟩
    rw [run_concat]
    by_cases other : ∀ sessionId bytes, event ≠ .read sessionId bytes
    · rw [step_world env other]
      exact handled ⟨earlier, later, split.symm, rfl⟩ holds
    · simp only [not_forall, not_not] at other
      obtain ⟨sessionId, bytes, rfl⟩ := other
      exact read_turns env invariant split.symm framed holds

/-- Such an invariant holds whenever a frame is parsed. -/
theorem Receives.turns (initial : invariant {})
    (framed : ∀ {sessionId frame world}, Receives env events sessionId frame world →
      invariant world → invariant (Session.receiveFrame env sessionId frame world))
    (handled : ∀ {event world}, Happens env events event world → invariant world →
      invariant (handle env event world)) {frame : List UInt8} {world : World}
    (receives : Receives env events sessionId frame world) : invariant world := by
  obtain ⟨earlier, bytes, later, count, split, found, rfl, before⟩ := receives
  obtain ⟨within, -⟩ := List.getElem?_eq_some_iff.mp found
  -- The invariant holds before the read, and the frames that come first keep it.
  have begins : earlier <+: events := ⟨_, split.symm⟩
  exact frames_turns env invariant split framed
    (run_turns env invariant events initial framed handled begins) (Nat.le_of_lt within)
    fun fewer below => before fewer (Nat.le_of_lt below)

/-- What an event adds to the log of a run stays there. -/
theorem Happens.log {env : Environment} {events : List Event} {event : Event} {world : World}
    (happens : Happens env events event world) :
    (handle env event world).log <+: (run env events).world.log := by
  obtain ⟨earlier, later, rfl, rfl⟩ := happens
  by_cases other : ∀ sessionId bytes, event ≠ .read sessionId bytes
  · have begins : earlier ++ [event] <+: earlier ++ event :: later := ⟨later, by simp⟩
    have grows := run_log env begins
    rw [run_concat, step_world env other] at grows
    exact grows
  · -- A read is not handled here, so that nothing is added.
    simp only [not_forall, not_not] at other
    obtain ⟨sessionId, bytes, rfl⟩ := other
    exact run_log env (List.prefix_append earlier _)

/-- What a frame adds to the log of a run stays there. -/
theorem Receives.log {env : Environment} {events : List Event} {sessionId : SessionId}
    {frame : List UInt8} {world : World} (receives : Receives env events sessionId frame world) :
    (Session.receiveFrame env sessionId frame world).log <+: (run env events).world.log := by
  have calm := receives.neverReady
  have alive := receives.alive
  have parsed := Session.receiveFrame_chain env sessionId frame calm alive
  obtain ⟨earlier, bytes, later, count, rfl, found, rfl, before⟩ := receives
  obtain ⟨within, -⟩ := List.getElem?_eq_some_iff.mp found
  have first := before 0 (Nat.zero_le count)
  obtain ⟨all, processed⟩ := read_processed env bytes (run_neverReady env earlier) first
  -- The read has come to the frame, because all frames before it have left the session open.
  have further : count + 1 ≤ all := by
    by_contra short
    have still := before all (by omega)
    rw [afterFrames, ← processed.processed] at still
    have whole := (processed.everything still).1
    omega
  have next := @afterFrames_succ env sessionId _ (run env earlier).world _ _ found
  rw [← next] at parsed ⊢
  have rest := afterFrames_chain (parsed.neverReady calm) further processed.bounded processed.before
  -- The rest of the read and the later events come after the frame.
  have begins : earlier ++ [.read sessionId bytes] <+: earlier ++ .read sessionId bytes :: later :=
    ⟨later, by simp⟩
  have grows := run_log env begins
  rw [run_concat] at grows
  have same : afterFrames env sessionId _ (run env earlier).world all =
    ((run env earlier).read env sessionId bytes).world := processed.processed.symm
  rw [same] at rest
  exact (rest.log (parsed.neverReady calm)).trans grows

/--
A property holds of all steps of a run exactly if each frame and each event but the reads meets the
condition under which it adds only steps that have the property.
-/
theorem run_turns_iff {env : Environment} {events : List Event} {property : Step → Prop}
    {frameCondition : SessionId → List UInt8 → World → Prop}
    {eventCondition : Event → World → Prop}
    (framed : ∀ {sessionId frame world}, Receives env events sessionId frame world →
      History.ExtendsIff property (frameCondition sessionId frame world) world.log
        (Session.receiveFrame env sessionId frame world).log)
    (handled : ∀ {event world}, Happens env events event world →
      History.ExtendsIff property (eventCondition event world) world.log
        (handle env event world).log) :
    (∀ step ∈ (run env events).world.log, property step) ↔
      (∀ {sessionId frame world}, Receives env events sessionId frame world →
        frameCondition sessionId frame world) ∧
      ∀ {event world}, Happens env events event world → eventCondition event world := by
  constructor
  · intro all
    -- What a frame or an event has added is in the log of the whole run.
    refine ⟨fun receives => ?_, fun happens => ?_⟩
    · exact ((framed receives).all_iff.mp fun step member =>
        all step (receives.log.subset member)).2
    · exact ((handled happens).all_iff.mp fun step member =>
        all step (happens.log.subset member)).2
  · intro conditions
    obtain ⟨frames, others⟩ := conditions
    -- Each turn keeps the property of all steps up to then.
    exact run_turns env (fun world => ∀ step ∈ world.log, property step) events
      (fun _ member => by cases member)
      (fun receives holds => (framed receives).all_iff.mpr ⟨holds, frames receives⟩)
      (fun happens holds => (handled happens).all_iff.mpr ⟨holds, others happens⟩)
      List.prefix_rfl

end Turns

end Process

end FixBridge
