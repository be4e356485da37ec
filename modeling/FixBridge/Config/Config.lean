import FixBridge.Config.Sections

/-! The configuration as a whole: how it is constructed, and what is made of it at start-up. -/

namespace FixBridge

/-- `OrderCancelPolicy`, as far as the configuration uses it. -/
inductive OrderCancelPolicy where
  | undefined
  | byAccount
  deriving DecidableEq, Repr

/-- `OrderManagement`, as far as the configuration uses it. -/
inductive OrderManagement where
  | fix
  deriving DecidableEq, Repr

/-- The members of `Config`. -/
structure Config where
  orderCancelPolicy : OrderCancelPolicy
  symbols : Config.Symbols
  users : Table String User
  defaultValues : Table Config.StatisticsType UInt64
  statistics : Table Config.StatisticsType Config.MDEntryType
  broadcast : Table String Config.Broadcast
  cxlRejReason : Config.CxlRejReasons

namespace Config

open Document

/-- `get_order_cancel_policy`. -/
def getOrderCancelPolicy (settings : Settings) : OrderCancelPolicy :=
  if settings.cancelOnDisconnect then .byAccount else .undefined

/-- The loop that collects names in a set and ends at the first one that is already there. -/
def checkUnique (text : String → String) : List String → KeySet String → Except Failure Unit
  | [], _ => .ok ()
  | name :: rest, names =>
    let (names, inserted) := names.add name
    if !inserted then .error (.fatal (text name))
    else checkUnique text rest names

/-- `check_unique_usernames`. -/
def checkUniqueUsernames (order : List String) (users : Table String User) :
    Except Failure Unit :=
  checkUnique (fun username => s!"Unexpected: duplicated username=\"{username}\"")
    ((users.walk order).map fun entry => entry.2.username) ∅

/-- `check_unique_accounts`, which passes over the users without an account. -/
def checkUniqueAccounts (order : List String) (users : Table String User) :
    Except Failure Unit :=
  checkUnique (fun account => s!"Unexpected: duplicated account=\"{account}\"")
    (((users.walk order).map fun entry => entry.2.account).filter fun account => account ≠ "") ∅

/-- `Config::Config`; `order` is the order in which the hash table of users is walked. -/
def create (settings : Settings) (libraries : Libraries) (order : List String)
    (document : Root) : Except Failure Config := do
  let (symbols, table) ← parseSymbols document.entries
  let (users, table) ← parseUsers settings libraries (.table table)
  let (statistics, table) ← parseStatistics settings libraries table
  let (broadcast, table) ← parseBroadcast table
  let (cxlRejReason, table) ← parseCxlRejReason libraries table
  checkEmpty table
  checkUniqueUsernames order users
  if !settings.omsRouteByStrategy then
    checkUniqueAccounts order users
  return { orderCancelPolicy := getOrderCancelPolicy settings
           symbols, users
           defaultValues := statistics.defaultValues
           statistics := statistics.types
           broadcast, cxlRejReason }

/-- What `Config::dispatch` hands to its handler. -/
inductive Dispatched where
  /-- `client::Settings`. -/
  | settings (orderCancelPolicy : OrderCancelPolicy) (orderManagement : OrderManagement)
  /-- `client::Symbol`. -/
  | symbol (regex exchange : String)
  /-- `client::Account`. -/
  | account (regex : String)
  deriving DecidableEq, Repr

/-- The orders in which the hash tables of a configuration are walked. -/
structure WalkOrder where
  symbols : List String
  /-- The order for the patterns of a gateway. -/
  subscriptions : String → List String
  users : List String

/-- The loops of `Config::dispatch` over the symbols. -/
def dispatchSymbols (order : WalkOrder) (config : Config) : List Dispatched :=
  (config.symbols.walk order.symbols).flatMap fun entry =>
    (visit (order.subscriptions entry.1) entry.2.keys).map fun regex => .symbol regex entry.1

/-- The loop of `Config::dispatch` over the users. -/
def dispatchAccounts (order : WalkOrder) (config : Config) : List Dispatched :=
  (config.users.walk order.users).filterMap fun entry =>
    if entry.2.account = "" then none else some (.account entry.2.account)

/-- `Config::dispatch`: the calls it makes, in order. -/
def dispatch (order : WalkOrder) (config : Config) : List Dispatched :=
  .settings config.orderCancelPolicy .fix ::
    (dispatchSymbols order config ++ dispatchAccounts order config)

/--
The loop that files users under their usernames.

When routing by account, no two users may have the same one.
-/
def fileUsers (settings : Settings) : List User → Table String User → Table String String →
    Except Failure (Table String User)
  | [], result, _ => .ok result
  | user :: rest, result, accountToUsername =>
    let (filed, inserted) := result.emplace user.username user
    if !inserted then
      .error (.fatal s!"Unexpected: username=\"{user.username}\" configured more than once")
    -- When routing by strategy, validation must be at run-time.
    else if settings.omsRouteByStrategy ∨ user.account = "" then
      fileUsers settings rest filed accountToUsername
    else
      let other := accountToUsername.at_ user.account
      let (accountToUsername, inserted) := accountToUsername.emplace user.account user.username
      if !inserted then
        .error (.fatal (s!"Unexpected: account=\"{user.account}\" configured more than once " ++
          s!"(username=\"{user.username}\" and username=\"{other}\")"))
      else fileUsers settings rest filed accountToUsername

end Config

/-- `create_username_to_user`, with which the controller is constructed. -/
def Controller.createUsernameToUser (settings : Config.Settings) (order : List String)
    (config : Config) : Except Config.Failure (Table String User) :=
  Config.fileUsers settings ((config.users.walk order).map Prod.snd) ∅ ∅

/-- `extract_username_to_user`, with which `Shared` is constructed. -/
def Shared.extractUsernameToUser (settings : Config.Settings) (order : List String)
    (config : Config) : Except Config.Failure (Table String User) :=
  Config.fileUsers settings ((config.users.walk order).map Prod.snd) ∅ ∅

end FixBridge
