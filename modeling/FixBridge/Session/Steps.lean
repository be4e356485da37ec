import FixBridge.Session.Process
import FixBridge.Library.History

/-! The steps of which every event consists, each taken without interruption by the bridge. -/

namespace FixBridge

namespace World

/-- No session reports that its logon is complete. -/
def NeverReady (world : World) : Prop :=
  ∀ sessionId session, world.session sessionId = some session → session.state ≠ .ready

/-- A stored session is open or waits for its removal. -/
theorem open_or_zombie {sessionId : SessionId} {world : World} {session : Session}
    (located : world.session sessionId = some session) :
    world.Open sessionId ∨ world.Zombie sessionId := by
  -- A stored session is a zombie or in one of the other states, all of which are open.
  by_cases ended : session.state = .zombie
  · exact Or.inr ⟨session, located, ended⟩
  · exact Or.inl ⟨session, located, ended⟩

end World

namespace Session

/--
The part of an ending that runs without interruption.

The connection is closed, or reports Disconnected, or does both at once; what the bridge does when
it is given Disconnected comes after it.
-/
def conclude (env : Environment) (closes peer : Bool) (sessionId : SessionId) (world : World) :
    World :=
  let world := if closes then closeConnection sessionId world else world
  let world := if peer then world.record (.peerDisconnected sessionId) else world
  let world := makeZombie env sessionId world
  if peer then world.record (.disconnected sessionId) else world

/-- A close ends the session, and a re-entered handler turns it into a zombie a second time. -/
theorem close_eq (env : Environment) (during : World → World) (sessionId : SessionId)
    (world : World) :
    close env during sessionId world =
      if world.Open sessionId then
        if env.closeReenters world sessionId then
          makeZombie env sessionId (during (conclude env true true sessionId world))
        else conclude env true false sessionId world
      else world := by
  -- A connection that re-enters the process has the session ended before the close does it.
  unfold close
  split
  · by_cases reenters : env.closeReenters world sessionId = true <;> simp [reenters, conclude,
      disconnected]
  · rfl

end Session

/-- What the listener does before the bridge is given control. -/
def SessionManager.enroll (world : World) : World :=
  let sessionId := world.nextSessionId + 1
  let world := world.modifyManager fun manager => { manager with nextSessionId := sessionId }
  (addSession { sessionId } world).record (.connected sessionId)

/-- What the bridge can cause while it has control. -/
inductive BridgeStep (env : Environment) : World → World → Prop where
  /-- A stored session sends a message that is addressed to it. -/
  | send (world : World) (sessionId : SessionId) (value : Outbound)
      (stored : sessionId ∈ world.sessionIds) :
      BridgeStep env world (Session.sendHelper env .addressed sessionId value world)
  /-- Every stored session sends an execution report. -/
  | executionReport (world : World) (value : ExecutionReport) :
      BridgeStep env world (Controller.executionReport env value world)
  /-- An open session is closed, and `peer` says whether its Disconnected handler is re-entered. -/
  | close (world : World) (peer : Bool) (sessionId : SessionId) (alive : world.Open sessionId) :
      BridgeStep env world (Session.conclude env true peer sessionId world)
  /-- A close returns from a re-entered Disconnected handler. -/
  | again (world : World) (sessionId : SessionId) (ended : world.Zombie sessionId) :
      BridgeStep env world (world.record (.makeZombie sessionId))

/-- What can happen in the process. -/
inductive ProcessStep (env : Environment) : World → World → Prop where
  /-- The bridge has control. -/
  | bridge {world next : World} (step : BridgeStep env world next) : ProcessStep env world next
  /-- A stored session sends a message by itself. -/
  | reply (world : World) (sessionId : SessionId) (value : Outbound)
      (stored : sessionId ∈ world.sessionIds) :
      ProcessStep env world (Session.sendHelper env .reply sessionId value world)
  /-- A connection is accepted. -/
  | enroll (world : World) : ProcessStep env world (SessionManager.enroll world)
  /-- A connection reports Disconnected by itself. -/
  | disconnected (world : World) (sessionId : SessionId) (stored : sessionId ∈ world.sessionIds) :
      ProcessStep env world (Session.conclude env false true sessionId world)
  /-- An open session looks at a header. -/
  | check (world : World) (sessionId : SessionId) (header : Header)
      (alive : world.Open sessionId) :
      ProcessStep env world (Session.check sessionId header world)
  /-- An open session hands a message to the bridge. -/
  | message (world : World) (sessionId : SessionId) (message : Message)
      (alive : world.Open sessionId) :
      ProcessStep env world (world.record (.message sessionId message))
  /-- A stored session adds a route. -/
  | addRoute (world : World) (sessionId : SessionId) (strategyId : StrategyId)
      (stored : sessionId ∈ world.sessionIds) :
      ProcessStep env world (Session.addRoute sessionId strategyId world).1
  /-- A stored session removes a route. -/
  | removeRoute (world : World) (sessionId : SessionId) (strategyId : StrategyId)
      (stored : sessionId ∈ world.sessionIds) :
      ProcessStep env world (Session.removeRoute sessionId strategyId world).1
  /-- The next cleanup is scheduled. -/
  | schedule (world : World) (nextCleanup : Int) :
      ProcessStep env world
        (world.modifyManager fun manager => { manager with nextCleanup })
  /-- The zombies are removed. -/
  | removeZombies (world : World) :
      ProcessStep env world (SessionManager.removeZombies env world)
  /-- A gateway connects. -/
  | gatewayConnected (world : World) (sourceId : UInt8) (sourceName : String) :
      ProcessStep env world (world.record (.gatewayConnected sourceId sourceName))
  /-- A gateway disconnects. -/
  | gatewayDisconnected (world : World) (sourceId : UInt8) (sourceName : String) :
      ProcessStep env world (world.record (.gatewayDisconnected sourceId sourceName))

/-- A chain of steps that the bridge causes. -/
abbrev BridgeChain (env : Environment) : World → World → Prop :=
  Relation.ReflTransGen (BridgeStep env)

/-- A chain of steps of the process. -/
abbrev ProcessChain (env : Environment) : World → World → Prop :=
  Relation.ReflTransGen (ProcessStep env)

end FixBridge
