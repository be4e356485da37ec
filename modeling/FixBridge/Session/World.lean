import FixBridge.Fix.Message

/-! The state of the bridge process, and a log of what happened at its boundaries. -/

namespace FixBridge

/-- A message that was handed to `Connection::send`, and whether the connection took it. -/
structure Sent where
  header : Header
  value : Outbound
  accepted : Bool
  deriving DecidableEq, Repr

/-- What passed between a session and its `io::net::tcp::Connection`. -/
structure Connection where
  /-- The headers of the messages that were parsed from the received bytes. -/
  received : List Header := []
  /-- The messages that were sent, accepted or not. -/
  sent : List Sent := []
  /-- `Connection::close` was called. -/
  closed : Bool := false
  deriving DecidableEq, Repr

/-- `Session::State`. -/
inductive SessionState where
  | waitingLogon | ready | zombie
  deriving DecidableEq, Repr

/--
The members of `Session`.

The receive buffer is kept apart in `Process`, because only the read handler touches it.
-/
structure Session where
  sessionId : SessionId
  connection : Connection := {}
  state : SessionState := .waitingLogon
  account : String := ""
  /-- `outbound_.msg_seq_num`. -/
  outbound : UInt64 := 0
  /-- `inbound_.msg_seq_num`. -/
  inbound : UInt64 := 0
  compId : String := ""
  deriving DecidableEq, Repr

/-- The members of `Shared` that sessions and gateways change. -/
structure Shared where
  /-- The source id of every gateway, and whether it is connected. -/
  gateways : Table String (UInt8 × Bool) := ∅
  routes : Routes := Routes.empty
  deriving DecidableEq

/-- The members of `SessionManager`. -/
structure SessionManager where
  nextSessionId : SessionId := 0
  sessions : Table SessionId Session := ∅
  /-- Nanoseconds, an `int64_t` in the source, which the sum in the timer's handler has to fit. -/
  nextCleanup : Int := 0
  zombies : KeySet SessionId := ∅
  deriving DecidableEq

/-- The members of `Controller`. -/
structure Controller where
  shared : Shared := {}
  sessionManager : SessionManager := {}
  deriving DecidableEq

namespace Controller

/-- The session that is stored under an identifier. -/
def session (sessionId : SessionId) (controller : Controller) : Option Session :=
  controller.sessionManager.sessions.lookup sessionId

/-- A session is open until it becomes a zombie. -/
def Open (sessionId : SessionId) (controller : Controller) : Prop :=
  ∃ session, controller.session sessionId = some session ∧ session.state ≠ .zombie

instance (sessionId : SessionId) (controller : Controller) :
    Decidable (controller.Open sessionId) :=
  match found : controller.session sessionId with
  | none => isFalse fun ⟨_, located, _⟩ => by simp [found] at located
  | some session =>
    decidable_of_iff (session.state ≠ .zombie)
      ⟨fun alive => ⟨session, found, alive⟩, fun ⟨_, located, alive⟩ => by
        rw [found] at located
        cases located
        exact alive⟩

/-- A zombie is stored until its removal. -/
def Zombie (sessionId : SessionId) (controller : Controller) : Prop :=
  ∃ session, controller.session sessionId = some session ∧ session.state = .zombie

/-- A zombie is not open. -/
theorem Zombie.not_open {sessionId : SessionId} {controller : Controller}
    (ended : controller.Zombie sessionId) : ¬ controller.Open sessionId := by
  -- There is one session under the id, and it cannot be in both kinds of states.
  intro still
  obtain ⟨session, located, alive⟩ := still
  obtain ⟨other, located', ended⟩ := ended
  rw [located] at located'
  cases located'
  exact alive ended

end Controller

/-- Why a session sends a message. -/
inductive Cause where
  /-- The session answers its client by itself. -/
  | reply
  /-- The bridge addressed the message to the session. -/
  | addressed
  /-- The bridge emitted the message without a session id. -/
  | unaddressed
  deriving DecidableEq, Repr

/-- What can happen at the boundary between the objects of the process and to the outside. -/
inductive Action where
  /-- `SessionManager::add_session` emplaces a session. -/
  | addSession (sessionId : SessionId)
  /-- `SessionManager::remove_session` erases a session. -/
  | removeSession (sessionId : SessionId)
  /-- `fix::bridge::Manager` is given Connected. -/
  | connected (sessionId : SessionId)
  /-- `fix::bridge::Manager` is given a message. -/
  | message (sessionId : SessionId) (message : Message)
  /-- `fix::bridge::Manager` is given Disconnected. -/
  | disconnected (sessionId : SessionId)
  /-- `Session::check` looks at the header of a received message. -/
  | check (sessionId : SessionId) (header : Header)
  /-- `Session::send_helper` hands a message to the connection. -/
  | send (sessionId : SessionId) (cause : Cause) (sent : Sent)
  /-- `Session::close` closes the connection. -/
  | close (sessionId : SessionId)
  /-- `Connection::Disconnected` reaches the session. -/
  | peerDisconnected (sessionId : SessionId)
  /-- `Session::make_zombie` is entered. -/
  | makeZombie (sessionId : SessionId)
  /-- The session raises `Session::Disconnect`. -/
  | disconnect (sessionId : SessionId)
  /-- The session adds a route. -/
  | addRoute (sessionId : SessionId) (strategyId : StrategyId)
  /-- The session removes a route. -/
  | removeRoute (sessionId : SessionId) (strategyId : StrategyId)
  /-- The session asks the dispatcher to cancel all orders at a source. -/
  | cancelAllOrders (sessionId : SessionId) (cancel : CancelAllOrders) (sourceId : UInt8)
  /-- `fix::bridge::Manager` emits an execution report without a session id. -/
  | executionReport (value : ExecutionReport)
  /-- The controller is told that a gateway connected. -/
  | gatewayConnected (sourceId : UInt8) (sourceName : String)
  /-- The controller is told that a gateway disconnected. -/
  | gatewayDisconnected (sourceId : UInt8) (sourceName : String)
  deriving DecidableEq, Repr

/-- An action together with the state in which it was taken. -/
structure Step where
  action : Action
  before : Controller
  deriving DecidableEq

/-- The state of the process and everything that happened so far. -/
structure World where
  controller : Controller := {}
  log : List Step := []

namespace World

/-- The session that is stored under an identifier. -/
def session (sessionId : SessionId) (world : World) : Option Session :=
  world.controller.session sessionId

/-- The identifiers under which sessions are stored. -/
def sessionIds (world : World) : List SessionId := world.controller.sessionManager.sessions.keys

/-- The identifier that was given out last. -/
def nextSessionId (world : World) : SessionId := world.controller.sessionManager.nextSessionId

/-- The sessions that wait for their removal. -/
def zombies (world : World) : KeySet SessionId := world.controller.sessionManager.zombies

/-- The gateways that the process knows. -/
def gateways (world : World) : Table String (UInt8 × Bool) := world.controller.shared.gateways

/-- The routing tables. -/
def routes (world : World) : Routes := world.controller.shared.routes

/-- The identifiers are those of the sessions that can be found. -/
theorem mem_sessionIds {sessionId : SessionId} {world : World} :
    sessionId ∈ world.sessionIds ↔ ∃ session, world.session sessionId = some session := by
  -- A key of the table is one that is found there.
  rw [← Option.isSome_iff_exists]
  exact AList.lookup_isSome.symm

/-- An action is appended to the log, with the state in which it is taken. -/
def record (action : Action) (world : World) : World :=
  { world with log := world.log ++ [⟨action, world.controller⟩] }

/-- Assignment to the session manager. -/
def modifyManager (change : SessionManager → SessionManager) (world : World) : World :=
  { world with controller :=
    { world.controller with sessionManager := change world.controller.sessionManager } }

/-- Assignment to the members of a session. -/
def modifySession (sessionId : SessionId) (change : Session → Session) (world : World) : World :=
  world.modifyManager fun manager =>
    { manager with sessions := manager.sessions.modify sessionId change }

/-- Assignment to the routing tables. -/
def setRoutes (routes : Routes) (world : World) : World :=
  { world with controller :=
    { world.controller with shared := { world.controller.shared with routes } } }

/-- A session is open until it becomes a zombie. -/
def Open (sessionId : SessionId) (world : World) : Prop := world.controller.Open sessionId

instance (sessionId : SessionId) (world : World) : Decidable (world.Open sessionId) :=
  inferInstanceAs (Decidable (world.controller.Open sessionId))

/-- A zombie is stored until its removal. -/
def Zombie (sessionId : SessionId) (world : World) : Prop := world.controller.Zombie sessionId

/-- An open session is stored and is not a zombie. -/
theorem open_iff {sessionId : SessionId} {world : World} : world.Open sessionId ↔
    ∃ session, world.session sessionId = some session ∧ session.state ≠ .zombie := Iff.rfl

/-- A zombie is stored. -/
theorem zombie_iff {sessionId : SessionId} {world : World} : world.Zombie sessionId ↔
    ∃ session, world.session sessionId = some session ∧ session.state = .zombie := Iff.rfl

/-- A zombie is not open. -/
theorem Zombie.not_open {sessionId : SessionId} {world : World} (ended : world.Zombie sessionId) :
    ¬ world.Open sessionId :=
  Controller.Zombie.not_open ended

/-! What the assignments change, and what they leave alone. -/

section Frame

variable (world : World) (action : Action) (sessionId other : SessionId) (routes : Routes)
  (change : Session → Session)

@[simp] theorem record_controller : (world.record action).controller = world.controller := rfl

@[simp] theorem record_log :
    (world.record action).log = world.log ++ [⟨action, world.controller⟩] := rfl

@[simp] theorem record_session : (world.record action).session sessionId =
    world.session sessionId := rfl

@[simp] theorem record_zombies : (world.record action).zombies = world.zombies := rfl

@[simp] theorem record_sessionIds : (world.record action).sessionIds = world.sessionIds := rfl

@[simp] theorem record_nextSessionId :
    (world.record action).nextSessionId = world.nextSessionId := rfl

@[simp] theorem record_gateways : (world.record action).gateways = world.gateways := rfl

@[simp] theorem record_routes : (world.record action).routes = world.routes := rfl

@[simp] theorem modifySession_log : (world.modifySession sessionId change).log = world.log := rfl

@[simp] theorem modifySession_zombies :
    (world.modifySession sessionId change).zombies = world.zombies := rfl

@[simp] theorem modifySession_sessionIds :
    (world.modifySession sessionId change).sessionIds = world.sessionIds :=
  AList.keys_modify sessionId change _

@[simp] theorem modifySession_nextSessionId :
    (world.modifySession sessionId change).nextSessionId = world.nextSessionId := rfl

@[simp] theorem modifySession_gateways :
    (world.modifySession sessionId change).gateways = world.gateways := rfl

@[simp] theorem modifySession_routes :
    (world.modifySession sessionId change).routes = world.routes := rfl

/-- Assigning to one session leaves the others alone. -/
theorem modifySession_session : (world.modifySession sessionId change).session other =
    if other = sessionId then (world.session sessionId).map change else world.session other :=
  AList.lookup_modify sessionId other change _

@[simp] theorem setRoutes_log : (world.setRoutes routes).log = world.log := rfl

@[simp] theorem setRoutes_routes : (world.setRoutes routes).routes = routes := rfl

/-- Whether a session is open does not depend on the log. -/
@[simp] theorem record_open : (world.record action).Open sessionId ↔ world.Open sessionId :=
  Iff.rfl

end Frame

section States

variable (world : World) (sessionId : SessionId) (change : Session → Session)

/-- An assignment that keeps the state of a session keeps it as open as it was. -/
theorem modifySession_open (kept : ∀ session, (change session).state = session.state)
    (other : SessionId) :
    (world.modifySession sessionId change).Open other ↔ world.Open other := by
  -- Only the session with the id is changed, and its state is not.
  simp only [open_iff, modifySession_session]
  by_cases same : other = sessionId
  · subst same
    cases world.session other <;> simp [kept]
  · simp [same]

/-- An assignment that keeps the state of a session makes and unmakes no zombie. -/
theorem modifySession_zombie (kept : ∀ session, (change session).state = session.state)
    (other : SessionId) :
    (world.modifySession sessionId change).Zombie other ↔ world.Zombie other := by
  -- Only the session with the id is changed, and its state is not.
  simp only [zombie_iff, modifySession_session]
  by_cases same : other = sessionId
  · subst same
    cases world.session other <;> simp [kept]
  · simp [same]

end States

end World

end FixBridge
