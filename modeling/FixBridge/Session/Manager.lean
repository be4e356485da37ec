import FixBridge.Session.Session

/-! The session manager, and the controller through which the bridge reaches the sessions. -/

namespace FixBridge

namespace SessionManager

/-- `add_session`: emplacing a new session under its identifier. -/
def addSession (session : Session) (world : World) : World :=
  (world.record (.addSession session.sessionId)).modifyManager fun manager =>
    { manager with sessions := (manager.sessions.emplace session.sessionId session).1 }

/-- `remove_session`: erasing a session, which destroys it together with its connection. -/
def removeSession (sessionId : SessionId) (world : World) : World :=
  (world.record (.removeSession sessionId)).modifyManager fun manager =>
    { manager with sessions := manager.sessions.erase sessionId }

/-- The loop of `remove_zombies`. -/
def removeSessions : List SessionId → World → World
  | [], world => world
  | sessionId :: rest, world => removeSessions rest (removeSession sessionId world)

/-- `remove_zombies`. -/
def removeZombies (env : Environment) (world : World) : World :=
  if world.zombies.keys = [] then world
  else
    (removeSessions (visit (env.order world) world.zombies.keys) world).modifyManager
      fun manager => { manager with zombies := ∅ }

/-- `CLEANUP_FREQUENCY` in nanoseconds. -/
def cleanupFrequency : Int := 1000000000

/--
`operator()(io::sys::Timer::Event const &)`.

The sum is exact up to a time of `2 ^ 63 - 1 - cleanupFrequency`, where it overflows in the source.
-/
def timer (env : Environment) (now : Int) (world : World) : World :=
  if world.controller.sessionManager.nextCleanup < now then
    removeZombies env <| world.modifyManager fun manager =>
      { manager with nextCleanup := now + cleanupFrequency }
  else world

/-- `get_session`: the callback runs for a stored session only. -/
def getSession (sessionId : SessionId) (callback : World → World) (world : World) : World :=
  match world.session sessionId with
  | none => world
  | some _ => callback world

/-- The loop of `get_all_sessions`. -/
def forSessions (callback : SessionId → World → World) : List SessionId → World → World
  | [], world => world
  | sessionId :: rest, world => forSessions callback rest (callback sessionId world)

/-- `get_all_sessions`. -/
def getAllSessions (env : Environment) (callback : SessionId → World → World) (world : World) :
    World :=
  forSessions callback (visit (env.order world) world.controller.sessionManager.sessions.keys)
    world

end SessionManager

namespace Controller

/-- `operator()(Trace<T> const &, uint64_t session_id)` for the messages that a session sends. -/
def dispatch (env : Environment) (sessionId : SessionId) (value : Outbound) (world : World) :
    World :=
  SessionManager.getSession sessionId (Session.sendHelper env .addressed sessionId value) world

/-- `operator()(Trace<fix::codec::ExecutionReport> const &)`: every session sends the report. -/
def executionReport (env : Environment) (value : ExecutionReport) (world : World) : World :=
  SessionManager.getAllSessions env
    (fun sessionId => Session.sendHelper env .unaddressed sessionId (.executionReport value))
    (world.record (.executionReport value))

mutual

/-- One call of the bridge on the controller. -/
def callback (env : Environment) : Callback → World → World
  | .disconnect sessionId during, world =>
    SessionManager.getSession sessionId
      (Session.close env (fun world => callbacks env during world) sessionId) world
  | .message sessionId value, world => dispatch env sessionId value world
  | .executionReport value, world => executionReport env value world

/-- The calls that the bridge makes while it has control. -/
def callbacks (env : Environment) : List Callback → World → World
  | [], world => world
  | first :: rest, world => callbacks env rest (callback env first world)

end

end Controller

namespace SessionManager

/-- The listener's `operator()(Connection::Factory &)` and `helper`. -/
def accept (env : Environment) (world : World) : World :=
  let sessionId := world.controller.sessionManager.nextSessionId + 1
  let world := world.modifyManager fun manager => { manager with nextSessionId := sessionId }
  let world := addSession { sessionId } world
  let world := world.record (.connected sessionId)
  Controller.callbacks env (env.onConnected world) world

end SessionManager

end FixBridge
