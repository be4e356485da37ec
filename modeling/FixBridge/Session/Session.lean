import FixBridge.Session.Environment

/-! The outbound half of a session: sending, closing, and turning into a zombie. -/

namespace FixBridge

/-- `SessionManager::operator()(Session::Disconnect const &)`. -/
def SessionManager.disconnect (sessionId : SessionId) (world : World) : World :=
  (world.record (.disconnect sessionId)).modifyManager fun manager =>
    { manager with zombies := (manager.zombies.add sessionId).1 }

namespace Session

/-- `client::Dispatcher::send` of a cancellation; the error is `NotConnected`. -/
def sendCancel (env : Environment) (sessionId : SessionId) (cancel : CancelAllOrders)
    (sourceId : UInt8) (world : World) : Except World World :=
  let sent := world.record (.cancelAllOrders sessionId cancel sourceId)
  if env.notConnected world sourceId then .error sent else .ok sent

/-- The loop of `cancel_all_orders` over the sources, which catches `NotConnected`. -/
def cancelSources (env : Environment) (sessionId : SessionId) (cancel : CancelAllOrders) :
    List (Sigma fun _ : String => UInt8 × Bool) → World → World
  | [], world => world
  | ⟨_, sourceId, ready⟩ :: rest, world =>
    let world :=
      -- Sources that are not ready are skipped.
      if ready then
        match sendCancel env sessionId cancel sourceId world with
        | .ok world => world
        | .error world => world
      else world
    cancelSources env sessionId cancel rest world

/-- `Session::cancel_all_orders`. -/
def cancelAllOrders (env : Environment) (sessionId : SessionId) (account : String)
    (world : World) : World :=
  -- A session without an account asks for nothing.
  if account = "" then world
  else cancelSources env sessionId { account } world.controller.shared.gateways.entries world

/-- `Session::make_zombie`; the body of `unsubscribe_all` is commented out in the source. -/
def makeZombie (env : Environment) (sessionId : SessionId) (world : World) : World :=
  match world.session sessionId with
  | none => world
  | some session =>
    let world := world.record (.makeZombie sessionId)
    let world :=
      -- Orders are cancelled and routes removed for a session that was ready, and for no other.
      if session.state = .ready then
        let world :=
          if env.settings.cancelOnDisconnect then
            cancelAllOrders env sessionId session.account world
          else world
        world.setRoutes (world.routes.removeAllRoutes sessionId)
      else world
    -- Disconnect is raised by the first call only.
    if session.state = .zombie then world
    else
      SessionManager.disconnect sessionId <|
        world.modifySession sessionId fun session => { session with state := .zombie }

/--
`Session::operator()(Connection::Disconnected const &)`.

Being given Disconnected, the bridge has control, and `during` is what it does with it.
-/
def disconnected (env : Environment) (during : World → World) (sessionId : SessionId)
    (world : World) : World :=
  let world := world.record (.peerDisconnected sessionId)
  -- The session becomes a zombie before the bridge is told.
  let world := makeZombie env sessionId world
  during (world.record (.disconnected sessionId))

/-- The call of `Connection::close`, before it returns or re-enters the session. -/
def closeConnection (sessionId : SessionId) (world : World) : World :=
  (world.record (.close sessionId)).modifySession sessionId fun session =>
    { session with connection := { session.connection with closed := true } }

/-- `Session::close`. -/
def close (env : Environment) (during : World → World) (sessionId : SessionId) (world : World) :
    World :=
  -- A session that has ended is left alone, so its connection is closed at most once.
  if world.Open sessionId then
    let reenters := env.closeReenters world sessionId
    let world := closeConnection sessionId world
    let world := if reenters then disconnected env during sessionId world else world
    makeZombie env sessionId world
  else world

/-- `Session::send_helper`, which advances the sequence number while it builds the header. -/
def sendHelper (env : Environment) (cause : Cause) (sessionId : SessionId) (value : Outbound)
    (world : World) : World :=
  match world.session sessionId with
  | none => world
  | some session =>
    -- The number is used up whether or not the connection accepts the message.
    let msgSeqNum := session.outbound + 1
    let header : Header :=
      { version := .fix44
        msgType := value.msgType
        senderCompId := env.settings.fixCompId
        targetCompId := session.compId
        msgSeqNum
        sendingTime := env.realtime world }
    let sent : Sent := { header, value, accepted := env.accepts world sessionId }
    (world.record (.send sessionId cause sent)).modifySession sessionId fun session =>
      { session with
        outbound := msgSeqNum
        connection := { session.connection with sent := session.connection.sent ++ [sent] } }

/-- `Session::logout`, through `send_and_close`. -/
def logout (env : Environment) (during : World → World) (error : Error) (sessionId : SessionId)
    (world : World) : World :=
  -- The session is closed whether or not the connection accepted the message.
  close env during sessionId (sendHelper env .reply sessionId (.logout error.getText) world)

end Session

end FixBridge
