import FixBridge.Session.Inbound
import Mathlib.Algebra.Group.Nat.Defs
import Mathlib.Logic.Function.Basic

/-! Runs of the process: the events that reach it from the outside, in any order. -/

namespace FixBridge

/-- The world and the receive buffers of the sessions. -/
structure Process where
  world : World := {}
  /-- `buffer_` of every session. -/
  buffer : SessionId → List UInt8 := fun _ => []

/-- What can happen to the process. -/
inductive Event where
  /-- The listener accepts a connection. -/
  | accept
  /-- Bytes arrive on a session's connection. -/
  | read (sessionId : SessionId) (bytes : List UInt8)
  /-- The io layer reports a session's connection as disconnected. -/
  | disconnected (sessionId : SessionId)
  /-- The bridge calls the controller on its own, for example on a timer. -/
  | bridge (callbacks : List Callback)
  /-- The cleanup timer fires, at a time to which the source can add a second. -/
  | timer (now : Int)
  /-- A gateway connects, which the controller forwards to the bridge. -/
  | gatewayConnected (sourceId : UInt8) (sourceName : String) (callbacks : List Callback)
  /-- A gateway disconnects, which the controller forwards to the bridge. -/
  | gatewayDisconnected (sourceId : UInt8) (sourceName : String) (callbacks : List Callback)
  /-- `Session::logout` is called for a session. -/
  | logout (sessionId : SessionId) (error : Error)

namespace Process

/-- `Session::operator()(Connection::Read const &)`. -/
def read (env : Environment) (sessionId : SessionId) (bytes : List UInt8) (process : Process) :
    Process :=
  if process.world.Open sessionId then
    let buffer := process.buffer sessionId ++ bytes
    match Session.readLoop env sessionId buffer 0 process.world with
    | .ok (world, totalBytes) =>
      { world, buffer := Function.update process.buffer sessionId (buffer.drop totalBytes) }
    | .error world =>
      -- Every exception is caught, and the buffer keeps everything.
      { world := Session.close env (Session.handOver env) sessionId world
        buffer := Function.update process.buffer sessionId buffer }
  else process

/-- The effect of an event other than a read, on the world alone. -/
def handle (env : Environment) : Event → World → World
  | .accept, world => SessionManager.accept env world
  | .read _ _, world => world
  | .disconnected sessionId, world =>
    SessionManager.getSession sessionId
      (Session.disconnected env (Session.handOver env) sessionId) world
  | .bridge callbacks, world => Controller.callbacks env callbacks world
  | .timer now, world => SessionManager.timer env now world
  | .gatewayConnected sourceId sourceName callbacks, world =>
    Controller.callbacks env callbacks (world.record (.gatewayConnected sourceId sourceName))
  | .gatewayDisconnected sourceId sourceName callbacks, world =>
    Controller.callbacks env callbacks (world.record (.gatewayDisconnected sourceId sourceName))
  | .logout sessionId error, world =>
    SessionManager.getSession sessionId
      (Session.logout env (Session.handOver env) error sessionId) world

/-- The effect of one event. -/
def step (env : Environment) (event : Event) (process : Process) : Process :=
  match event with
  | .read sessionId bytes => process.read env sessionId bytes
  | .accept =>
    let sessionId := process.world.nextSessionId + 1
    { world := handle env .accept process.world
      -- A new session has a new, empty buffer.
      buffer := match process.world.session sessionId with
        | none => Function.update process.buffer sessionId []
        | some _ => process.buffer }
  | event => { process with world := handle env event process.world }

/-- The process after a sequence of events. -/
def run (env : Environment) (events : List Event) : Process :=
  events.foldl (fun process event => process.step env event) {}

end Process

end FixBridge
