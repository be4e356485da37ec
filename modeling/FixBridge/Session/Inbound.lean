import FixBridge.Session.Manager

/-! The inbound half of a session: from received bytes to messages for the bridge. -/

namespace FixBridge

namespace Session

/-- What the bridge does when it is given Disconnected in the course of a close. -/
def handOver (env : Environment) (world : World) : World :=
  Controller.callbacks env (env.onDisconnected world) world

/-- `Session::check`; a sequence gap or replay is only logged. -/
def check (sessionId : SessionId) (header : Header) (world : World) : World :=
  (world.record (.check sessionId header)).modifySession sessionId fun session =>
    { session with
      connection :=
        { session.connection with received := session.connection.received ++ [header] }
      compId := if session.compId = "" then header.senderCompId else session.compId
      inbound := header.msgSeqNum }

/-- `Session::dispatch`: the bridge is given the message; the error is an exception it throws. -/
def dispatch (env : Environment) (sessionId : SessionId) (message : Message) (world : World) :
    Except World World :=
  let world := world.record (.message sessionId message)
  let reaction := env.onMessage world
  let world := Controller.callbacks env reaction.callbacks world
  if reaction.throws then .error world else .ok world

/-- `Shared::add_route`, called by a session. -/
def addRoute (sessionId : SessionId) (strategyId : StrategyId) (world : World) : World × Bool :=
  let (routes, success) := world.routes.addRoute sessionId strategyId
  ((world.record (.addRoute sessionId strategyId)).setRoutes routes, success)

/-- `Shared::remove_route`, called by a session. -/
def removeRoute (sessionId : SessionId) (strategyId : StrategyId) (world : World) :
    World × Bool :=
  let (routes, success) := world.routes.removeRoute sessionId strategyId
  ((world.record (.removeRoute sessionId strategyId)).setRoutes routes, success)

/-- The answer to a UserRequest. -/
def respond (env : Environment) (sessionId : SessionId) (request : UserRequest)
    (userStatus : UserStatus) (userStatusText : String) (world : World) : World :=
  sendHelper env .reply sessionId
    (.userResponse
      { userRequestId := request.userRequestId, username := request.username
        userStatus, userStatusText })
    world

/-- `Session::operator()(Trace<fix::codec::UserRequest> const &, fix::Header const &)`. -/
def userRequest (env : Environment) (sessionId : SessionId) (message : Message)
    (request : UserRequest) (world : World) : Except World World := do
  let world ← dispatch env sessionId message world
  -- The rejects for the other routing mode and for strategy zero are not implemented.
  match env.fromChars request.username with
  | none => .error world
  | some strategyId =>
    match request.userRequestType with
    | .undefined | .unknown | .logOnUser =>
      let (world, success) := addRoute sessionId strategyId world
      return respond env sessionId request (if success then .loggedIn else .other) "" world
    | .logOffUser =>
      let (world, success) := removeRoute sessionId strategyId world
      return respond env sessionId request (if success then .notLoggedIn else .other) "" world
    | .changePasswordForUser | .requestIndividualUserStatus =>
      return respond env sessionId request .other Error.unsupportedUserRequestType.getText world

/-- The reject that answers a message of a type without a case in `parse_helper`. -/
def unexpectedMsgType (header : Header) : BusinessMessageReject :=
  { refSeqNum := header.msgSeqNum
    refMsgType := header.msgType
    businessRejectRefId := ""
    businessRejectReason := .unsupportedMessageType
    text := Error.unexpectedMsgType.getText }

/-- `Session::parse_helper`; every supported type but UserRequest is decoded and dispatched. -/
def parseHelper (env : Environment) (sessionId : SessionId) (message : Message) (world : World) :
    Except World World :=
  if message.header.msgType = .userRequest then
    match env.createUserRequest message with
    | none => .error world
    | some request => userRequest env sessionId message request world
  else if message.header.msgType.supported then
    if env.creates message then dispatch env sessionId message world else .error world
  else
    .ok (sendHelper env .reply sessionId
      (.businessMessageReject (unexpectedMsgType message.header)) world)

/-- One call of `fix::Reader::dispatch` on a complete frame, with the parser of the read handler. -/
def parseFrame (env : Environment) (sessionId : SessionId) (frame : List UInt8) (world : World) :
    Except World World :=
  match env.decode frame with
  | none => .error world
  | some message => parseHelper env sessionId message (check sessionId message.header world)

/-- The loop of the read handler; the result is the number of bytes to drain. -/
def readLoop (env : Environment) (sessionId : SessionId) (buffer : List UInt8) (totalBytes : Nat)
    (world : World) : Except World (World × Nat) :=
  match _found : env.framer.frame buffer with
  | none => .ok (world, totalBytes)
  | some bytes =>
    match parseFrame env sessionId (buffer.take bytes) world with
    | .error world => .error world
    | .ok world =>
      if world.Open sessionId then
        readLoop env sessionId (buffer.drop bytes) (totalBytes + bytes) world
      else .ok (world, totalBytes + bytes)
termination_by buffer.length
decreasing_by exact env.framer.drop_shorter _found

section ReadLoop

variable {env : Environment} {sessionId : SessionId} {buffer : List UInt8} {bytes : Nat}
  {world next : World}

/-- Without a complete frame the loop ends. -/
theorem readLoop_of_none (none_ : env.framer.frame buffer = none) (totalBytes : Nat) :
    readLoop env sessionId buffer totalBytes world = .ok (world, totalBytes) := by
  -- Without a frame the loop ends with what it has.
  rw [readLoop]
  split
  · rfl
  · simp_all

/-- A frame is parsed, and its outcome decides whether the loop goes on. -/
theorem readLoop_of_some (found : env.framer.frame buffer = some bytes) (totalBytes : Nat) :
    readLoop env sessionId buffer totalBytes world =
      match parseFrame env sessionId (buffer.take bytes) world with
      | .error world => .error world
      | .ok world =>
        if world.Open sessionId then
          readLoop env sessionId (buffer.drop bytes) (totalBytes + bytes) world
        else .ok (world, totalBytes + bytes) := by
  -- The frame that was found is the one that the loop takes.
  rw [readLoop]
  split
  · simp_all
  · rename_i bytes' found'
    obtain rfl : bytes = bytes' := by simpa [found] using found'
    rfl

end ReadLoop

end Session

end FixBridge
