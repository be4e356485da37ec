import FixBridge.Session.Chains

/-! What a received frame leads to: a message for the bridge, or a reject for the client. -/

namespace FixBridge

/-- What a frame leads to, unless it is refused with an exception. -/
def Environment.delivery (env : Environment) (frame : List UInt8) : Option Delivery :=
  (env.decode frame).bind (Message.delivery env)

/-- A reject that a session sends by itself was caused by a frame. -/
def Outbound.delivery : Cause → Outbound → Option Delivery
  | .reply, .businessMessageReject value => some (.reject value)
  | _, _ => none

/-- What an action delivers for one session. -/
def Action.delivery (observed : SessionId) : Action → Option Delivery
  | .message sessionId content => if sessionId = observed then some (.message content) else none
  | .send sessionId cause sent =>
    if sessionId = observed then Outbound.delivery cause sent.value else none
  | _ => none

/-- Everything that was delivered for one session, in order. -/
def World.inbound (observed : SessionId) (world : World) : List Delivery :=
  world.log.filterMap fun step => step.action.delivery observed

/-- Something is delivered for one session, which can end meanwhile but does not begin. -/
structure World.Hears (observed : SessionId) (heard : List Delivery) (world later : World) :
    Prop where
  open_before : later.Open observed → world.Open observed
  inbound : later.inbound observed = world.inbound observed ++ heard

/-- Nothing is delivered. -/
abbrev World.Unheard (observed : SessionId) (world later : World) : Prop :=
  world.Hears observed [] later

namespace World

variable {observed : SessionId} {world middle later : World}

/-- Nothing has to happen. -/
theorem Unheard.refl (observed : SessionId) (world : World) : world.Unheard observed world :=
  ⟨id, by simp⟩

/-- Deliveries follow each other. -/
theorem Hears.trans {first second : List Delivery} (before : world.Hears observed first middle)
    (after : middle.Hears observed second later) :
    world.Hears observed (first ++ second) later where
  open_before alive := before.open_before (after.open_before alive)
  inbound := by rw [after.inbound, before.inbound, List.append_assoc]

/-- A delivery can be followed by something else. -/
theorem Hears.unheard {heard : List Delivery} (before : world.Hears observed heard middle)
    (after : middle.Unheard observed later) : world.Hears observed heard later := by
  -- Appending no deliveries leaves the list as it is.
  simpa using before.trans after

/-- Other steps deliver nothing. -/
theorem Unheard.of_extends {kind : Step → Prop} (ends : later.Open observed → world.Open observed)
    (extends_ : History.Extends kind world.log later.log)
    (others : ∀ step, kind step → step.action.delivery observed = none) :
    world.Unheard observed later where
  open_before := ends
  inbound := by
    -- A step that delivers nothing is skipped when the deliveries are collected.
    rw [inbound, extends_.filterMap others, List.append_nil]
    rfl

/-- Recording an action delivers what the action does. -/
theorem record_hears (observed : SessionId) (world : World) (action : Action) :
    world.Hears observed (action.delivery observed).toList (world.record action) where
  open_before := id
  inbound := by
    rw [inbound, record_log, List.filterMap_append]
    -- The recorded action is the last of the log, with its delivery or without one.
    cases delivered : action.delivery observed <;> simp [delivered, inbound]

end World

/-- A send delivers a reject if the session sends one by itself. -/
theorem Session.sendHelper_hears (env : Environment) (observed : SessionId) (cause : Cause)
    (value : Outbound) {sessionId : SessionId} {world : World}
    (stored : sessionId ∈ world.sessionIds) :
    world.Hears observed
      (if sessionId = observed then Outbound.delivery cause value else none).toList
      (sendHelper env cause sessionId value world) := by
  obtain ⟨session, located⟩ := World.mem_sessionIds.mp stored
  obtain ⟨sent, content, -, -, -, same⟩ := sendHelper_of_stored env cause value located
  -- The send is the only step, and the assignment that follows leaves the log alone.
  have noted := World.record_hears observed world (.send sessionId cause sent)
  rw [same]
  refine ⟨fun alive => ?_, ?_⟩
  · -- The session that sends is as open as before.
    exact (World.modifySession_open (world.record _) sessionId (advance sent) (fun _ => rfl)
      observed).mp alive
  · show (world.record _).inbound observed = _
    rw [noted.inbound, ← content]
    rfl

/-- An ending delivers nothing. -/
theorem Session.conclude_unheard (env : Environment) (observed : SessionId) {closes peer : Bool}
    {sessionId : SessionId} {world : World} (calm : world.NeverReady)
    (ends : Ends closes peer sessionId world) :
    world.Unheard observed (conclude env closes peer sessionId world) := by
  -- None of the steps of an ending is a delivery.
  refine .of_extends (fun alive => ((conclude_open env calm ends observed).mp alive).2)
    (conclude_extends env calm ends) fun step kind => ?_
  rcases kind with action | action | action | action | action <;> simp [action, Action.delivery]

/-- Nothing that the bridge does is a delivery. -/
theorem BridgeStep.unheard {env : Environment} {world next : World}
    (step : BridgeStep env world next) (calm : world.NeverReady) (observed : SessionId) :
    world.Unheard observed next := by
  cases step with
  -- What is addressed by the bridge is no answer of the session.
  | send sessionId value stored =>
    have sent := Session.sendHelper_hears env observed .addressed value stored
    simpa [Outbound.delivery] using sent
  | executionReport value =>
    refine .of_extends (Controller.executionReport_frame env value world observed).1.mp
      (Controller.executionReport_extends env value world) ?_
    -- Neither the report nor the messages that it causes are answers.
    rintro step (action | ⟨_, _, action⟩) <;> simp [action, Action.delivery, Outbound.delivery]
  | close peer sessionId alive => exact Session.conclude_unheard env observed calm (Or.inl alive)
  | again sessionId ended => exact World.record_hears observed world (.makeZombie sessionId)

/-- Nothing is delivered while the bridge has control. -/
theorem BridgeChain.unheard {env : Environment} {world later : World}
    (chain : BridgeChain env world later) (calm : world.NeverReady) (observed : SessionId) :
    world.Unheard observed later := by
  -- The chain is silent because each of its steps is.
  induction chain with
  | refl => exact .refl observed world
  | tail before step ih =>
    exact ih.unheard (step.unheard ((BridgeChain.follows before calm).neverReady calm) observed)

namespace Session

variable (env : Environment) (observed : SessionId) {sessionId : SessionId} {world : World}

/-- A close delivers nothing, and the session is not open afterwards. -/
theorem close_unheard (calm : world.NeverReady) :
    world.Unheard observed (close env (handOver env) sessionId world) :=
  BridgeChain.unheard (close_chain env (handOver_chain env) sessionId calm) calm observed

/-- Whatever the bridge does in the course of a close, the session has ended. -/
theorem close_ends (calm : world.NeverReady) :
    ¬ (close env (handOver env) sessionId world).Open sessionId := by
  -- An open session ends here, and one that is not open had ended before.
  by_cases alive : world.Open sessionId
  · obtain ⟨_, -, ended⟩ := close_ended env (handOver_chain env) calm alive
    exact ended.not_open
  · rw [close_eq, if_neg alive]
    exact alive

/-- A request is settled without a delivery. -/
theorem settle_unheard (request : UserRequest) (strategyId : StrategyId)
    (stored : sessionId ∈ world.sessionIds) :
    world.Unheard observed (settle env sessionId request strategyId world) := by
  -- The answer is sent by the session, but is no reject.
  have answered : ∀ {world' : World} (userStatus : UserStatus) (text : String),
      sessionId ∈ world'.sessionIds →
        world'.Unheard observed (respond env sessionId request userStatus text world') := by
    intro world' userStatus text stored
    have sent := sendHelper_hears env observed .reply
      (.userResponse ⟨request.userRequestId, request.username, userStatus, text⟩) stored
    simpa [Outbound.delivery, respond] using sent
  -- Routes are changed before the answer is sent.
  have added : world.Unheard observed (addRoute sessionId strategyId world).1 :=
    ⟨id, (World.record_hears observed world (.addRoute sessionId strategyId)).inbound⟩
  have removed : world.Unheard observed (removeRoute sessionId strategyId world).1 :=
    ⟨id, (World.record_hears observed world (.removeRoute sessionId strategyId)).inbound⟩
  unfold settle
  cases request.userRequestType with
  | undefined | unknown | logOnUser => exact added.unheard (answered _ _ stored)
  | logOffUser => exact removed.unheard (answered _ _ stored)
  | changePasswordForUser | requestIndividualUserStatus => exact answered _ _ stored

/-- A message leads to its delivery, once, for the session that received it. -/
theorem parseHelper_hears (message : Message) (calm : world.NeverReady)
    (alive : world.Open sessionId) :
    world.Hears observed
      (if sessionId = observed then message.delivery env else none).toList
      (outcome (parseHelper env sessionId message world)) := by
  have stored : sessionId ∈ world.sessionIds := by
    obtain ⟨session, located, -⟩ := World.open_iff.mp alive
    exact World.mem_sessionIds.mpr ⟨session, located⟩
  -- The message is recorded first, and what the bridge then does is silent.
  have control : ∀ {next}, message.delivery env = some (.message message) →
      BridgeChain env (handed sessionId message world) next → world.Hears observed
        (if sessionId = observed then message.delivery env else none).toList next := by
    intro next delivered chain
    rw [delivered]
    exact (World.record_hears observed world (.message sessionId message)).unheard
      (chain.unheard calm observed)
  have handles := parseHelper_handles env sessionId message calm
  generalize parseHelper env sessionId message world = result at handles
  cases handles with
  | refused undelivered => simpa [undelivered] using World.Unheard.refl observed world
  | rejected unsupported =>
    -- The reject is the delivery of a message of an unknown type.
    have other : message.header.msgType ≠ .userRequest := by
      intro kind
      rw [kind] at unsupported
      cases unsupported
    have delivered : message.delivery env = some (.reject (unexpectedMsgType message.header)) := by
      simp [Message.delivery, other, unsupported]
    rw [delivered]
    exact sendHelper_hears env observed .reply
      (.businessMessageReject (unexpectedMsgType message.header)) stored
  | passed supported delivered other chain => exact control delivered chain
  | thrown supported delivered chain reason => exact control delivered chain
  | settled kind created chain kept named =>
    -- The bridge can end the session, but the session is stored until the next cleanup.
    have stored' := (BridgeChain.follows chain calm).sessionIds ▸ stored
    have delivered : message.delivery env = some (.message message) := by
      simp [Message.delivery, kind, created]
    exact (control delivered chain).unheard (settle_unheard env observed _ _ stored')

/-- A message without a delivery is refused with an exception. -/
theorem parseHelper_of_refused {message : Message} (refused : message.delivery env = none) :
    parseHelper env sessionId message world = .error world := by
  unfold Message.delivery at refused
  unfold parseHelper
  -- Only a message that cannot be created has no delivery.
  split at refused
  next kind =>
    rw [if_pos kind, Option.map_eq_none_iff.mp refused]
  next other =>
    rw [if_neg other]
    split at refused
    next supported =>
      split at refused
      · cases refused
      · next fails => rw [if_pos supported, if_neg fails]
    next => cases refused

/-- A frame leads to its delivery, once, for the session that received it. -/
theorem parseFrame_hears (frame : List UInt8) (calm : world.NeverReady)
    (alive : world.Open sessionId) :
    world.Hears observed (if sessionId = observed then env.delivery frame else none).toList
      (outcome (parseFrame env sessionId frame world)) := by
  unfold parseFrame Environment.delivery
  -- A frame that cannot be decoded delivers nothing and throws.
  cases env.decode frame with
  | none => simpa using World.Unheard.refl observed world
  | some message =>
    -- The header is noted before the message is looked at.
    have checked : world.Unheard observed (check sessionId message.header world) :=
      ⟨check_open.mp, (World.record_hears observed world (.check sessionId message.header)).inbound⟩
    have step : ProcessStep env world (check sessionId message.header world) :=
      .check world sessionId message.header alive
    have calm' := step.neverReady calm
    exact checked.trans (parseHelper_hears env observed message calm' (check_open.mpr alive))

/-- One frame in the read handler: every exception is caught, and closes the session. -/
def receiveFrame (sessionId : SessionId) (frame : List UInt8) (world : World) : World :=
  match parseFrame env sessionId frame world with
  | .ok world => world
  | .error world => close env (handOver env) sessionId world

/-- A received frame leads to its delivery, whether or not it closes the session. -/
theorem receiveFrame_hears (frame : List UInt8) (calm : world.NeverReady)
    (alive : world.Open sessionId) :
    (receiveFrame env sessionId frame world).NeverReady ∧
    world.Hears observed (if sessionId = observed then env.delivery frame else none).toList
      (receiveFrame env sessionId frame world) := by
  have parsed := parseFrame_hears env observed frame calm alive
  have calm' := (parseFrame_chain env frame calm alive).neverReady calm
  unfold receiveFrame
  -- A thrown exception closes the session, which delivers nothing more.
  cases result : parseFrame env sessionId frame world with
  | ok next =>
    rw [result] at parsed calm'
    exact ⟨calm', parsed⟩
  | error thrown =>
    rw [result] at parsed calm'
    exact ⟨ProcessChain.neverReady (close_chain env (handOver_chain env) sessionId calm').process
      calm', parsed.unheard (close_unheard env observed calm')⟩

/-- A frame without a delivery closes the session. -/
theorem receiveFrame_of_refused {frame : List UInt8} (refused : env.delivery frame = none)
    (calm : world.NeverReady) (alive : world.Open sessionId) :
    ¬ (receiveFrame env sessionId frame world).Open sessionId := by
  have calm' := (parseFrame_chain env frame calm alive).neverReady calm
  have throws : ∃ thrown, parseFrame env sessionId frame world = .error thrown := by
    unfold Environment.delivery at refused
    unfold parseFrame
    -- Either the frame cannot be decoded, or the message in it cannot be created.
    cases decoded : env.decode frame with
    | none => exact ⟨world, rfl⟩
    | some message =>
      rw [decoded] at refused
      exact ⟨_, parseHelper_of_refused env refused⟩
  obtain ⟨thrown, failed⟩ := throws
  rw [failed] at calm'
  rw [receiveFrame, failed]
  exact close_ends env calm'

end Session

end FixBridge
