import FixBridge.Fix.Message
import FixBridge.Tools.Crypto

/-! The two components that judge a client's credentials, and the order management they wait for. -/

namespace FixBridge

/-- `ConnectionStatus`, as far as the sources tell its values apart. -/
inductive ConnectionStatus where
  | undefined
  | ready
  | other (value : UInt8)
  deriving DecidableEq, Repr

/-- The fields of `StreamStatus` that are read. -/
structure StreamStatus where
  account : String
  /-- Whether `supports` has `SupportType::ORDER`. -/
  supportsOrder : Bool
  connectionStatus : ConnectionStatus
  deriving DecidableEq, Repr

/-- An event that changes what is known about the order management of a source. -/
inductive StatusEvent where
  /-- `Event<Disconnected>`. -/
  | disconnected
  /-- `Event<StreamStatus>`. -/
  | streamStatus (value : StreamStatus)
  deriving DecidableEq, Repr

/-- The credentials of a logon. -/
structure Credentials where
  component : String
  username : String
  password : String
  rawData : String
  deriving DecidableEq, Repr

/-- The members of `Shared` that decide about logons. -/
structure Authentication where
  /-- `settings.test.block_client_on_not_ready`. -/
  blockClientOnNotReady : Bool
  crypto : Crypto
  usernameToUser : Table String User
  /-- `oms_status_`: the connection status of every account, for each source. -/
  omsStatus : List (Table String ConnectionStatus)

namespace Authentication

/-- `Shared::operator()(Event<Disconnected> const &)`. -/
def disconnected (source : UInt8) (shared : Authentication) : Authentication :=
  { shared with omsStatus := shared.omsStatus.set source.toNat ∅ }

/-- `Shared::operator()(Event<StreamStatus> const &)`. -/
def streamStatus (source : UInt8) (value : StreamStatus) (shared : Authentication) :
    Authentication :=
  if value.account = "" then shared
  else if !value.supportsOrder then shared
  else { shared with omsStatus := shared.omsStatus.modify source.toNat fun statuses =>
           statuses.insert value.account value.connectionStatus }

/-- The events of the sources, as they are delivered. -/
def handle (shared : Authentication) : UInt8 × StatusEvent → Authentication
  | (source, .disconnected) => shared.disconnected source
  | (source, .streamStatus value) => shared.streamStatus source value

/-- A history of events, the earliest first. -/
def run (shared : Authentication) (history : List (UInt8 × StatusEvent)) : Authentication :=
  history.foldl handle shared

/-- The loop over the sources: the account must be ready on each of them. -/
def ready (account : String) (omsStatus : List (Table String ConnectionStatus)) : Bool :=
  omsStatus.all fun statuses => statuses.lookup account = some .ready

/-- `Shared::session_logon_helper`, unless it throws: the account, the user and the reason. -/
def sessionLogonHelper (primitives : Crypto.Primitives) (now : Int64) (credentials : Credentials)
    (shared : Authentication) : Option (String × Option User × String) :=
  match shared.usernameToUser.lookup credentials.username with
  | none => some ("", none, s!"Unknown username=\"{credentials.username}\"")
  | some user =>
    -- A user without an account is let through before anything is looked at.
    if user.account = "" then some ("", none, "")
    else if shared.blockClientOnNotReady && !ready user.account shared.omsStatus then
      some ("", none, s!"Not ready: account=\"{user.account}\"")
    else if credentials.component ≠ user.component then some ("", none, "Invalid component")
    else do
      let verdict ← shared.crypto.validate primitives now credentials.password user.password
        credentials.rawData
      if !verdict.accepted then return ("", none, "Invalid password")
      return (user.account, some user, "")

/-- What `Shared::session_logon` gives to its callback. -/
structure LogonResult where
  success : Bool
  account : String
  userId : UInt16
  reason : String
  deriving DecidableEq, Repr

/-- `Shared::session_logon`, unless it throws. -/
def sessionLogon (primitives : Crypto.Primitives) (now : Int64) (credentials : Credentials)
    (shared : Authentication) : Option LogonResult := do
  let (account, user, reason) ← shared.sessionLogonHelper primitives now credentials
  return { success := reason = ""
           account
           userId := (user.map User.userId).getD 0
           reason }

end Authentication

/-- `Controller::operator()(fix::bridge::Manager::Credentials const &)`, unless it throws. -/
def Controller.credentials (primitives : Crypto.Primitives) (crypto : Crypto)
    (usernameToUser : Table String User) (now : Int64) (credentials : Credentials) :
    Option (Error × StrategyId) :=
  match usernameToUser.lookup credentials.username with
  | none => some (.invalidUsername, 0)
  | some user =>
    if credentials.component ≠ user.component then some (.invalidComponent, 0)
    else do
      let verdict ← crypto.validate primitives now credentials.password user.password
        credentials.rawData
      if !verdict.accepted then return (.invalidPassword, 0)
      return (.undefined, user.strategyId)

end FixBridge
