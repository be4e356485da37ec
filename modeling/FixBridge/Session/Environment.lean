import FixBridge.Library.Framing
import FixBridge.Session.World

/-! What the process depends on: its configuration, the codec, the io layer and the bridge. -/

namespace FixBridge

/-- The settings that the modelled code reads. -/
structure Settings where
  /-- `oms.cancel_on_disconnect`. -/
  cancelOnDisconnect : Bool
  /-- `oms.oms_route_by_strategy`. -/
  omsRouteByStrategy : Bool
  /-- `fix.fix_comp_id`. -/
  fixCompId : String
  deriving DecidableEq, Repr

/-- A call that `fix::bridge::Manager` makes on the controller while it has control. -/
inductive Callback where
  /--
  `Manager::Disconnect` for a session.

  Closing the connection may re-enter the session's Disconnected handler, which hands the bridge
  `Manager::Disconnected`; `during` are the calls that it makes then.
  -/
  | disconnect (sessionId : SessionId) (during : List Callback)
  /-- A message for one session. -/
  | message (sessionId : SessionId) (value : Outbound)
  /-- An execution report without a session id. -/
  | executionReport (value : ExecutionReport)

/-- What the bridge does with a message that it is handed: some calls, and perhaps an exception. -/
structure Reaction where
  callbacks : List Callback
  throws : Bool

/--
Everything that is decided outside the modelled code.

A decision may depend on the whole history, which grows with every decision.
-/
structure Environment where
  settings : Settings
  /-- `username_to_user_`, one user for every username. -/
  users : Table String User
  /-- Where `fix::Reader` finds the first complete frame. -/
  framer : Framer UInt8
  /-- The message that `fix::Reader` parses from a frame, unless it throws. -/
  decode : List UInt8 → Option Message
  /-- Whether `fix::codec::T::create` accepts a message, for the types other than UserRequest. -/
  creates : Message → Bool
  /-- `fix::codec::UserRequest::create`, unless it throws. -/
  createUserRequest : Message → Option UserRequest
  /-- `utils::charconv::from_chars<uint32_t>`, unless it throws. -/
  fromChars : String → Option StrategyId
  /-- `clock::get_realtime`. -/
  realtime : World → Int
  /-- The result of `Connection::send` for a session. -/
  accepts : World → SessionId → Bool
  /-- Whether `Connection::close` re-enters the Disconnected handler before it returns. -/
  closeReenters : World → SessionId → Bool
  /-- Whether `client::Dispatcher::send` throws `NotConnected` for a source. -/
  notConnected : World → UInt8 → Bool
  /-- The order in which the hash tables of sessions and zombies are walked. -/
  order : World → List SessionId
  /-- What the bridge does when it is given Connected. -/
  onConnected : World → List Callback
  /-- What the bridge does when it is given a message. -/
  onMessage : World → Reaction
  /-- What the bridge does when it is given Disconnected. -/
  onDisconnected : World → List Callback

end FixBridge
