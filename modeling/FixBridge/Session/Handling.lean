import FixBridge.Session.Control
import FixBridge.Shared.RoutesLaws

/-! How the handling of a message can end, and what it has done by then. -/

namespace FixBridge

/-- What a session makes of a received frame. -/
inductive Delivery where
  /-- A message that is handed to the bridge. -/
  | message (message : Message)
  /-- An answer to a message of an unsupported type. -/
  | reject (value : BusinessMessageReject)
  deriving DecidableEq

/-- What a message leads to, unless its content is refused with an exception. -/
def Message.delivery (env : Environment) (message : Message) : Option Delivery :=
  if message.header.msgType = .userRequest then
    (env.createUserRequest message).map fun _ => .message message
  else if message.header.msgType.supported then
    if env.creates message then some (.message message) else none
  else some (.reject (Session.unexpectedMsgType message.header))

/-- The world in which a computation leaves the process, normally or by an exception. -/
def outcome : Except World World → World
  | .ok world => world
  | .error world => world

@[simp] theorem outcome_ok (world : World) : outcome (.ok world) = world := rfl

@[simp] theorem outcome_error (world : World) : outcome (.error world) = world := rfl

/-- Handing a message to the bridge is a chain of steps. -/
theorem Session.dispatch_chain (env : Environment) {sessionId : SessionId} (message : Message)
    {world : World} (calm : world.NeverReady) :
    BridgeChain env (world.record (.message sessionId message))
      (outcome (dispatch env sessionId message world)) := by
  have chain : BridgeChain env (world.record (.message sessionId message)) _ :=
    Controller.callbacks_chain env
      (env.onMessage (world.record (.message sessionId message))).callbacks calm
  unfold dispatch
  -- Whether the bridge throws or not, it has made its calls by then.
  by_cases throws : (env.onMessage (world.record (.message sessionId message))).throws = true
  · simpa [throws] using chain
  · simpa [throws] using chain

namespace Session

variable (env : Environment) (sessionId : SessionId)

/-- What becomes of a request whose username is a strategy, when the bridge has seen it. -/
def settle (request : UserRequest) (strategyId : StrategyId) (world : World) : World :=
  match request.userRequestType with
  | .undefined | .unknown | .logOnUser =>
    let (world, success) := addRoute sessionId strategyId world
    respond env sessionId request (if success then .loggedIn else .other) "" world
  | .logOffUser =>
    let (world, success) := removeRoute sessionId strategyId world
    respond env sessionId request (if success then .notLoggedIn else .other) "" world
  | .changePasswordForUser | .requestIndividualUserStatus =>
    respond env sessionId request .other Error.unsupportedUserRequestType.getText world

/-- A request is shown to the bridge, and settled if its username is a strategy. -/
theorem userRequest_eq (message : Message) (request : UserRequest) (world : World) :
    userRequest env sessionId message request world =
      (dispatch env sessionId message world).bind fun world =>
        match env.fromChars request.username with
        | none => .error world
        | some strategyId => .ok (settle env sessionId request strategyId world) := by
  unfold userRequest settle
  cases dispatch env sessionId message world with
  | error thrown => rfl
  | ok next =>
    simp only [bind, Except.bind, pure, Except.pure]
    -- The kind of the request decides what it is settled by.
    cases env.fromChars request.username with
    | none => rfl
    | some strategyId => cases request.userRequestType <;> rfl

/-- The world in which the bridge is given control over a message. -/
abbrev handed (message : Message) (world : World) : World :=
  world.record (.message sessionId message)

/-- How handling a message can end, and what must have been the case for it. -/
inductive Handles (message : Message) (world : World) : Except World World → Prop where
  /-- The content is refused with an exception. -/
  | refused (undelivered : message.delivery env = none) : Handles message world (.error world)
  /-- The type is not supported, and the session says so. -/
  | rejected (unsupported : message.header.msgType.supported = false) :
      Handles message world (.ok (sendHelper env .reply sessionId
        (.businessMessageReject (unexpectedMsgType message.header)) world))
  /-- The bridge has it, and there is nothing else to do. -/
  | passed {next : World} (supported : message.header.msgType.supported = true)
      (delivered : message.delivery env = some (.message message))
      (other : message.header.msgType ≠ .userRequest)
      (chain : BridgeChain env (handed sessionId message world) next) :
      Handles message world (.ok next)
  /-- The bridge throws, or the username of a request is no strategy. -/
  | thrown {next : World} (supported : message.header.msgType.supported = true)
      (delivered : message.delivery env = some (.message message))
      (chain : BridgeChain env (handed sessionId message world) next)
      (reason : (env.onMessage (handed sessionId message world)).throws = true ∨
        (message.header.msgType = .userRequest ∧ ∃ request,
          env.createUserRequest message = some request ∧
            env.fromChars request.username = none)) :
      Handles message world (.error next)
  /-- A request is settled after the bridge has seen it. -/
  | settled {next : World} {request : UserRequest} {strategyId : StrategyId}
      (kind : message.header.msgType = .userRequest)
      (created : env.createUserRequest message = some request)
      (chain : BridgeChain env (handed sessionId message world) next)
      (kept : (env.onMessage (handed sessionId message world)).throws = false)
      (named : env.fromChars request.username = some strategyId) :
      Handles message world (.ok (settle env sessionId request strategyId next))

/-- The bridge makes its calls before it throws or returns. -/
theorem dispatch_cases (message : Message) {world : World} (calm : world.NeverReady) :
    ∃ next, BridgeChain env (handed sessionId message world) next ∧
      ((dispatch env sessionId message world = .ok next ∧
          (env.onMessage (handed sessionId message world)).throws = false) ∨
        (dispatch env sessionId message world = .error next ∧
          (env.onMessage (handed sessionId message world)).throws = true)) := by
  -- The calls are made either way, and the handler may throw after them.
  refine ⟨_, dispatch_chain env message calm, ?_⟩
  unfold dispatch
  cases throws : (env.onMessage (handed sessionId message world)).throws with
  | false => exact Or.inl ⟨by simp [throws], rfl⟩
  | true => exact Or.inr ⟨by simp [throws], rfl⟩

/-- Handling a message ends in one of these ways. -/
theorem parseHelper_handles (message : Message) {world : World} (calm : world.NeverReady) :
    Handles env sessionId message world (parseHelper env sessionId message world) := by
  obtain ⟨next, chain, dispatched⟩ := dispatch_cases env sessionId message calm
  unfold parseHelper
  by_cases kind : message.header.msgType = .userRequest
  · rw [if_pos kind]
    have supported : message.header.msgType.supported = true := by rw [kind]; rfl
    cases created : env.createUserRequest message with
    | none => exact .refused (by simp [Message.delivery, kind, created])
    | some request =>
      -- A request goes to the bridge first, and the session settles it afterwards.
      have delivered : message.delivery env = some (.message message) := by
        simp [Message.delivery, kind, created]
      simp only [userRequest_eq]
      rcases dispatched with ⟨ended, kept⟩ | ⟨ended, throws⟩
      · rw [ended]
        simp only [Except.bind]
        cases named : env.fromChars request.username with
        | none => exact .thrown supported delivered chain (Or.inr ⟨kind, request, created, named⟩)
        | some strategyId => exact .settled kind created chain kept named
      · rw [ended]
        exact .thrown supported delivered chain (Or.inl throws)
  · rw [if_neg kind]
    cases supported : message.header.msgType.supported with
    | false => exact .rejected supported
    | true =>
      rw [if_pos rfl]
      by_cases creates : env.creates message = true
      · rw [if_pos creates]
        have delivered : message.delivery env = some (.message message) := by
          simp [Message.delivery, kind, supported, creates]
        rcases dispatched with ⟨ended, -⟩ | ⟨ended, throws⟩
        · rw [ended]
          exact .passed supported delivered kind chain
        · rw [ended]
          exact .thrown supported delivered chain (Or.inl throws)
      · rw [if_neg creates]
        exact .refused (by simp [Message.delivery, kind, supported, creates])

/-- What settling a request does to the routes, and the status with which it is answered. -/
inductive Settles (strategyId : StrategyId) (world : World) : World → UserStatus → Prop where
  /-- A free strategy goes to the session. -/
  | granted (free : world.routes.owner strategyId = none) :
      Settles strategyId world (addRoute sessionId strategyId world).1 .loggedIn
  /-- The session's own strategy is freed. -/
  | released (owned : world.routes.owner strategyId = some sessionId) :
      Settles strategyId world (removeRoute sessionId strategyId world).1 .notLoggedIn
  /-- The routes stay as they are. -/
  | declined {middle : World} (routes : middle.routes = world.routes)
      (manager : middle.controller.sessionManager = world.controller.sessionManager)
      (extends_ : History.Extends (fun step => step.action = .addRoute sessionId strategyId ∨
        step.action = .removeRoute sessionId strategyId) world.log middle.log) :
      Settles strategyId world middle .other

/-- Adding a route grants a free strategy, and declines one that has an owner. -/
theorem addRoute_settles (strategyId : StrategyId) (world : World) :
    Settles sessionId strategyId world (addRoute sessionId strategyId world).1
      (if (addRoute sessionId strategyId world).2 then .loggedIn else .other) := by
  -- The route is free, or somebody has it; even its owner is refused.
  cases owned : world.routes.owner strategyId with
  | none =>
    have success : (addRoute sessionId strategyId world).2 = true :=
      (Routes.addRoute_snd world.routes sessionId strategyId).mpr owned
    rw [if_pos success]
    exact .granted owned
  | some other =>
    have refused := @Routes.addRoute_of_owned _ sessionId _ _ owned
    have failure : (addRoute sessionId strategyId world).2 = false := congrArg Prod.snd refused
    rw [failure, if_neg Bool.false_ne_true]
    exact .declined (congrArg Prod.fst refused) rfl (.single (Or.inl rfl))

/-- Removing a route releases the session's own strategy, and declines any other. -/
theorem removeRoute_settles (strategyId : StrategyId) (world : World) :
    Settles sessionId strategyId world (removeRoute sessionId strategyId world).1
      (if (removeRoute sessionId strategyId world).2 then .notLoggedIn else .other) := by
  -- Only the owner of the route succeeds.
  by_cases owned : world.routes.owner strategyId = some sessionId
  · have success : (removeRoute sessionId strategyId world).2 = true :=
      (Routes.removeRoute_snd world.routes sessionId strategyId).mpr owned
    rw [if_pos success]
    exact .released owned
  · have refused := Routes.removeRoute_of_other owned
    have failure : (removeRoute sessionId strategyId world).2 = false :=
      congrArg Prod.snd refused
    rw [failure, if_neg Bool.false_ne_true]
    exact .declined (congrArg Prod.fst refused) rfl (.single (Or.inr rfl))

/-- Settling a request ends with one answer, and the routes are changed before it. -/
theorem settle_cases (request : UserRequest) (strategyId : StrategyId) (world : World) :
    ∃ middle userStatus text, Settles sessionId strategyId world middle userStatus ∧
      settle env sessionId request strategyId world =
        respond env sessionId request userStatus text middle := by
  unfold settle
  -- The routes answer whether they have changed.
  have added := addRoute_settles sessionId strategyId world
  have removed := removeRoute_settles sessionId strategyId world
  cases request.userRequestType with
  | undefined | unknown | logOnUser => exact ⟨_, _, _, added, rfl⟩
  | logOffUser => exact ⟨_, _, _, removed, rfl⟩
  | changePasswordForUser | requestIndividualUserStatus =>
    exact ⟨world, _, _, .declined rfl rfl (.refl _ _), rfl⟩

/-- A stored session settles a request in a chain of steps. -/
theorem settle_chain {sessionId : SessionId} (request : UserRequest) (strategyId : StrategyId)
    {world : World} (stored : sessionId ∈ world.sessionIds) :
    ProcessChain env world (settle env sessionId request strategyId world) := by
  have answered : ∀ {world' : World} (value : Outbound), sessionId ∈ world'.sessionIds →
      ProcessChain env world' (sendHelper env .reply sessionId value world') :=
    fun value stored => .single (.reply _ sessionId value stored)
  have added : ProcessChain env world (addRoute sessionId strategyId world).1 :=
    .single (.addRoute world sessionId strategyId stored)
  have removed : ProcessChain env world (removeRoute sessionId strategyId world).1 :=
    .single (.removeRoute world sessionId strategyId stored)
  unfold settle
  -- The status that was asked for decides between a new route, a freed one, and neither.
  cases request.userRequestType with
  | undefined | unknown | logOnUser => exact .trans added (answered _ stored)
  | logOffUser => exact .trans removed (answered _ stored)
  | changePasswordForUser | requestIndividualUserStatus => exact answered _ stored

/-- Handling a message of an open session is a chain of steps. -/
theorem parseHelper_chain {sessionId : SessionId} (message : Message) {world : World}
    (calm : world.NeverReady) (alive : world.Open sessionId) :
    ProcessChain env world (outcome (parseHelper env sessionId message world)) := by
  have stored : sessionId ∈ world.sessionIds := by
    obtain ⟨session, located, -⟩ := World.open_iff.mp alive
    exact World.mem_sessionIds.mpr ⟨session, located⟩
  have control : ∀ {next}, BridgeChain env (handed sessionId message world) next →
      ProcessChain env world next := fun chain =>
    .trans (.single (.message world sessionId message alive)) (BridgeChain.process chain)
  have handles := parseHelper_handles env sessionId message calm
  generalize parseHelper env sessionId message world = result at handles
  cases handles with
  | refused undelivered => exact .refl
  | rejected unsupported => exact .single (.reply world sessionId _ stored)
  | passed supported delivered other chain => exact control chain
  | thrown supported delivered chain reason => exact control chain
  | settled kind created chain kept named =>
    -- The bridge can end the session, but the session is stored until the next cleanup.
    have follows := BridgeChain.follows chain calm
    have stored' := follows.sessionIds ▸ stored
    exact .trans (control chain) (settle_chain env _ _ stored')

end Session

end FixBridge
