import FixBridge.Config.Startup
import FixBridge.Shared.Broadcasts
import FixBridge.Shared.Readiness
import FixBridge.Shared.UserIds

/-! The construction of the controller from a configuration, and how it judges logons from then on. -/

namespace FixBridge

open Config (Failure)

/-- `tools::Crypto`, constructed; an unknown method is fatal. -/
def Crypto.create (authMethod : String) (timestampTolerance : Int64) : Except Failure Crypto :=
  match parseMethod authMethod with
  | none => .error (.fatal s!"Unexpected: auth_method=\"{authMethod}\"")
  | some method => .ok { method, timestampTolerance }

/-- `io::NetworkAddress`. -/
inductive NetworkAddress where
  | port (value : UInt16)
  | path (value : String)
  deriving DecidableEq, Repr

/-- What constructors use of other libraries. -/
structure StartLibraries where
  /-- `utils::charconv::try_parse<uint16_t>`. -/
  tryParse : String → Option UInt16
  /-- The creation of a path's directory, where there is one to create, unless it throws. -/
  createDirectory : String → Except String Unit
  regexes : Shared.Regexes

/-- `create_network_address`. -/
def SessionManager.createNetworkAddress (libraries : StartLibraries) (address : String) :
    Except Failure NetworkAddress :=
  match libraries.tryParse address with
  | some port =>
    if port = 0 then .error (.fatal s!"Unexpected listen port={port}") else .ok (.port port)
  | none =>
    match libraries.createDirectory address with
    | .error text => .error (.exception text)
    | .ok () => .ok (.path address)

namespace Controller

/-- The settings that constructors read besides those of the configuration. -/
structure StartSettings where
  config : Config.Settings
  /-- `fix.fix_comp_id`. -/
  fixCompId : String
  /-- `fix.fix_auth_method`. -/
  fixAuthMethod : String
  /-- `fix.fix_auth_timestamp_tolerance`, in nanoseconds. -/
  fixAuthTimestampTolerance : Int64
  /-- `test.block_client_on_not_ready`. -/
  blockClientOnNotReady : Bool
  /-- `common.client_listen_address`. -/
  clientListenAddress : String

/-- The orders in which constructors walk hash tables. -/
structure StartOrder where
  options : OptionsOrder
  sharedUsers : List String
  broadcast : List String
  users : List String

/-- The members of the controller that depend on settings and on the configuration. -/
structure Members where
  options : Options
  shared : Authentication
  /-- `shared_.broadcast_mappings_`. -/
  broadcastMappings : List Mapping
  address : NetworkAddress
  usernameToUser : Table String User
  crypto : Crypto

/--
`Controller::Controller`, member by member in the order of their declaration.

The bridge, the FIX log, and the context, timer and listener of the network are taken to be made
without an exception.
-/
def construct (libraries : StartLibraries) (order : StartOrder) (settings : StartSettings)
    (sourceCount : Nat) (config : Config) : Except Failure Members := do
  let options := createBridge order.options settings.config settings.fixCompId config
  let sharedCrypto ← Crypto.create settings.fixAuthMethod settings.fixAuthTimestampTolerance
  let sharedUsers ← Shared.extractUsernameToUser settings.config order.sharedUsers config
  let shared := .initial settings.blockClientOnNotReady sharedCrypto sharedUsers sourceCount
  let broadcastMappings ←
    Shared.extractBroadcastMappings libraries.regexes order.broadcast config
  let address ← SessionManager.createNetworkAddress libraries settings.clientListenAddress
  let usernameToUser ← createUsernameToUser settings.config order.users config
  let crypto ← Crypto.create settings.fixAuthMethod settings.fixAuthTimestampTolerance
  return { options, shared, broadcastMappings, address, usernameToUser, crypto }

end Controller

/-- A method has one of three names, and every other name is fatal. -/
theorem Crypto.create_cases (authMethod : String) (timestampTolerance : Int64) :
    (authMethod ∈ ["", "hmac_sha256", "hmac_sha256_ts"] ∧
      ∃ crypto, create authMethod timestampTolerance = .ok crypto) ∨
    (authMethod ∉ ["", "hmac_sha256", "hmac_sha256_ts"] ∧
      ∃ text, create authMethod timestampTolerance = .error (.fatal text)) := by
  -- Three methods are known, and everything else is fatal.
  by_cases unset : authMethod = ""
  · simp [create, parseMethod, unset]
  by_cases plain : authMethod = "hmac_sha256"
  · simp [create, parseMethod, plain]
  by_cases timestamped : authMethod = "hmac_sha256_ts"
  · simp [create, parseMethod, timestamped]
  · simp [create, parseMethod, unset, plain, timestamped]

/-- The port zero is fatal, and a path can be listened to if its directory can be created. -/
theorem SessionManager.createNetworkAddress_cases (libraries : StartLibraries) (address : String) :
    (libraries.tryParse address ≠ some 0 ∧
      (libraries.tryParse address = none → libraries.createDirectory address = .ok ()) ∧
      ∃ network, createNetworkAddress libraries address = .ok network) ∨
    (libraries.tryParse address = some 0 ∧
      ∃ text, createNetworkAddress libraries address = .error (.fatal text)) ∨
    (libraries.tryParse address = none ∧ libraries.createDirectory address ≠ .ok () ∧
      ∃ text, createNetworkAddress libraries address = .error (.exception text)) := by
  -- A text is a port or a path, and a path needs its directory.
  unfold createNetworkAddress
  cases libraries.tryParse address with
  | none => cases libraries.createDirectory address <;> simp
  | some port => by_cases zero : port = 0 <;> simp [zero]

namespace Controller

open Document
open Config (sectionOf readString describedUsers Broadcast)

/-- The broadcasts that a document describes. -/
def describedBroadcasts (document : Root) : List Broadcast :=
  ((sectionOf "broadcast" document).filterMap Config.readBroadcast).map Prod.snd

/-- The method of the settings is known. -/
def MethodKnown (settings : StartSettings) : Prop :=
  settings.fixAuthMethod ∈ ["", "hmac_sha256", "hmac_sha256_ts"]

/-- What has to be right for the controller to be constructed. -/
structure Startable (tools : StartLibraries) (settings : StartSettings)
    (described : List Broadcast) : Prop where
  known : MethodKnown settings
  compiled : ∀ broadcast ∈ described, Shared.Compiles tools.regexes broadcast
  usable : tools.tryParse settings.clientListenAddress ≠ some 0
  directory : tools.tryParse settings.clientListenAddress = none →
    tools.createDirectory settings.clientListenAddress = .ok ()

/-- The controller refuses to be constructed; a malformed expression is thrown before the port. -/
def Refused (tools : StartLibraries) (settings : StartSettings)
    (described : List Broadcast) : Prop :=
  ¬ MethodKnown settings ∨
    (∀ broadcast ∈ described, Shared.Compiles tools.regexes broadcast) ∧
      tools.tryParse settings.clientListenAddress = some 0

/-- The controller does not both start and refuse to. -/
theorem Startable.not_refused {tools : StartLibraries} {settings : StartSettings}
    {described : List Broadcast} (startable : Startable tools settings described) :
    ¬ Refused tools settings described := by
  -- The two reasons for a refusal are excluded one by one.
  rintro (unknown | ⟨-, zero⟩)
  · exact unknown startable.known
  · exact startable.usable zero

/-- The answer to credentials with the username of a table. -/
def answer (primitives : Crypto.Primitives) (libraries : Config.Libraries) (crypto : Crypto)
    (now : Int64) (credentials : Credentials) (fields : Entries) : Option (Error × StrategyId) :=
  if credentials.component ≠ readString "component" fields then some (.invalidComponent, 0)
  else (crypto.validate primitives now credentials.password (readString "password" fields)
    credentials.rawData).map fun verdict =>
      if verdict.accepted then
        (.undefined, ((fields.lookup "strategy_id").bind libraries.uint32?).getD 0)
      else (.invalidPassword, 0)

/-- The controller answers as the table says from which the user was read. -/
theorem credentials_of_lookup {primitives : Crypto.Primitives} {libraries : Config.Libraries}
    {crypto : Crypto} {usernameToUser : Table String User} {now : Int64}
    {credentials : Credentials} {userId : UInt16} {fields : Entries}
    (located : usernameToUser.lookup credentials.username =
      some (Config.readUser libraries userId fields)) :
    Controller.credentials primitives crypto usernameToUser now credentials =
      answer primitives libraries crypto now credentials fields := by
  -- The user is the one that is described, so that both sides ask the same questions.
  simp only [Controller.credentials, located, answer, Config.readUser]
  split
  · rfl
  · cases crypto.validate primitives now credentials.password (readString "password" fields)
      credentials.rawData with
    | none => rfl
    | some verdict => cases accepted : verdict.accepted <;> simp [accepted]

/-- From the users that a document describes, credentials are judged as the document says. -/
theorem credentials_described {settings : Config.Settings} {libraries : Config.Libraries}
    {document : Root} {config : Config}
    (accepted : Config.Accepted settings libraries document config)
    {usernameToUser : Table String User}
    (lookups : ∀ username user, usernameToUser.lookup username = some user ↔
      user ∈ describedUsers libraries document ∧ user.username = username)
    (primitives : Crypto.Primitives) (crypto : Crypto) (now : Int64) (credentials : Credentials) :
    let users := sectionOf "users" document
    let judged := Controller.credentials primitives crypto usernameToUser now credentials
    ((∀ key fields, (key, Node.table fields) ∈ users →
      readString "username" fields ≠ credentials.username) →
        judged = some (.invalidUsername, 0)) ∧
    ∀ key fields, (key, Node.table fields) ∈ users →
      readString "username" fields = credentials.username →
        judged = answer primitives libraries crypto now credentials fields := by
  refine ⟨fun unnamed => ?_, fun key fields described named => ?_⟩
  · -- A user in the table would have come from a table of the document with this name.
    have missing : usernameToUser.lookup credentials.username = none := by
      refine Option.eq_none_iff_forall_ne_some.mpr fun user located => ?_
      obtain ⟨member, same⟩ := (lookups _ user).mp located
      obtain ⟨key, fields, userId, inside, rfl⟩ := Config.mem_readUsers member
      exact unnamed key fields inside same
    simp [Controller.credentials, missing]
  · obtain ⟨position, found⟩ := List.getElem?_of_mem described
    have member : Config.readUser libraries (UInt16.ofNat (0 + position + 1)) fields ∈
        describedUsers libraries document :=
      (Config.mem_readUsers_iff accepted.are_tables).mpr ⟨position, key, fields, found, rfl⟩
    exact credentials_of_lookup ((lookups _ _).mpr ⟨member, named⟩)

/-- Where the controller is constructed, its members are those of the constructors. -/
theorem construct_eq_ok {tools : StartLibraries} {order : StartOrder} {settings : StartSettings}
    {sourceCount : Nat} {config : Config} {members : Members} :
    construct tools order settings sourceCount config = .ok members ↔
      ∃ crypto sharedUsers broadcastMappings users address,
        Crypto.create settings.fixAuthMethod settings.fixAuthTimestampTolerance = .ok crypto ∧
        Shared.extractUsernameToUser settings.config order.sharedUsers config = .ok sharedUsers ∧
        Shared.extractBroadcastMappings tools.regexes order.broadcast config =
          .ok broadcastMappings ∧
        SessionManager.createNetworkAddress tools settings.clientListenAddress =
          .ok address ∧
        createUsernameToUser settings.config order.users config = .ok users ∧
        members =
          { options := createBridge order.options settings.config settings.fixCompId config
            shared := .initial settings.blockClientOnNotReady crypto sharedUsers sourceCount
            broadcastMappings, address, usernameToUser := users, crypto } := by
  -- The members are made in their order, and the first failure ends the construction.
  simp only [construct, Config.bind_eq_ok, Config.pure_eq_ok]
  constructor
  · rintro ⟨crypto, first, sharedUsers, second, mappings, third, address, fourth, users, fifth,
      again, sixth, rfl⟩
    -- The crypto that is made a second time is the same.
    rw [first] at sixth
    cases sixth
    exact ⟨crypto, sharedUsers, mappings, users, address, first, second, third, fourth, fifth, rfl⟩
  · rintro ⟨crypto, sharedUsers, mappings, users, address, first, second, third, fourth, fifth, rfl⟩
    exact ⟨crypto, first, sharedUsers, second, mappings, third, address, fourth, users, fifth,
      crypto, first, rfl⟩

/-- Once the users can be filed, settings and broadcasts decide what becomes of the controller. -/
theorem construct_cases {tools : StartLibraries} {walks : StartOrder} {settings : StartSettings}
    (sourceCount : Nat) {config : Config} {sharedUsers users : Table String User}
    (sharedFiled :
      Shared.extractUsernameToUser settings.config walks.sharedUsers config = .ok sharedUsers)
    (filed : createUsernameToUser settings.config walks.users config = .ok users)
    {described : List Broadcast}
    (walked : ((config.broadcast.walk walks.broadcast).map Prod.snd).Perm described) :
    (Startable tools settings described ∧
      ∃ members, construct tools walks settings sourceCount config = .ok members) ∨
    (Refused tools settings described ∧
      ∃ text, construct tools walks settings sourceCount config = .error (.fatal text)) ∨
    (¬ Startable tools settings described ∧ ¬ Refused tools settings described ∧
      ∃ text, construct tools walks settings sourceCount config = .error (.exception text)) := by
  have compiles : (∀ entry ∈ config.broadcast.walk walks.broadcast,
      Shared.Compiles tools.regexes entry.2) ↔
      ∀ broadcast ∈ described, Shared.Compiles tools.regexes broadcast := by
    simp only [← walked.mem_iff, List.forall_mem_map]
  -- The constructors run in the order of the cases, and the first that fails decides.
  rcases Crypto.create_cases settings.fixAuthMethod settings.fixAuthTimestampTolerance with
    ⟨known, crypto, first⟩ | ⟨unknown, text, first⟩
  · rcases Shared.createMappings_cases tools.regexes (config.broadcast.walk walks.broadcast) with
      ⟨formed, third⟩ | ⟨malformed, text, third⟩
    · rcases SessionManager.createNetworkAddress_cases tools settings.clientListenAddress with
        ⟨usable, created, address, fourth⟩ | ⟨zero, text, fourth⟩ | ⟨path, uncreated, text, fourth⟩
      · exact Or.inl ⟨⟨known, compiles.mp formed, usable, created⟩, _, construct_eq_ok.mpr
          ⟨crypto, sharedUsers, _, users, address, first, sharedFiled, third, fourth, filed, rfl⟩⟩
      · refine Or.inr (Or.inl ⟨Or.inr ⟨compiles.mp formed, zero⟩, text, ?_⟩)
        rw [construct, first, sharedFiled, Shared.extractBroadcastMappings, third, fourth]
        rfl
      · refine Or.inr (Or.inr ⟨fun startable => uncreated (startable.directory path),
          fun refused => ?_, text, ?_⟩)
        · rcases refused with unknown | ⟨-, zero⟩
          · exact unknown known
          · rw [path] at zero
            cases zero
        · rw [construct, first, sharedFiled, Shared.extractBroadcastMappings, third, fourth]
          rfl
    · refine Or.inr (Or.inr ⟨fun startable => malformed (compiles.mpr startable.compiled),
        fun refused => ?_, text, ?_⟩)
      · rcases refused with unknown | ⟨formed, -⟩
        · exact unknown known
        · exact malformed (compiles.mpr formed)
      · rw [construct, first, sharedFiled, Shared.extractBroadcastMappings, third]
        rfl
  · refine Or.inr (Or.inl ⟨Or.inl unknown, text, ?_⟩)
    rw [construct, first]
    rfl

/--
From an accepted document, the controller is constructed exactly if two settings are right.

Of the document, only an expression of a broadcast can stop it. Once it is constructed, it judges
credentials as the tables of the users say: there is at most one with the username, and its
component, its password and its strategy decide.
-/
theorem construct_described {settings : StartSettings} {libraries : Config.Libraries}
    {order : List String} {document : Root} {config : Config}
    (created : Config.create settings.config libraries order document = .ok config)
    (tools : StartLibraries) (walks : StartOrder) (sourceCount : Nat) :
    let constructed := construct tools walks settings sourceCount config
    let users := sectionOf "users" document
    let described := describedBroadcasts document
    ((∃ members, constructed = .ok members) ↔ Startable tools settings described) ∧
    ((∃ text, constructed = .error (.fatal text)) ↔ Refused tools settings described) ∧
    ∀ members, constructed = .ok members →
      (∀ username, members.shared.usernameToUser.lookup username =
        members.usernameToUser.lookup username) ∧
      ∀ primitives now credentials,
        let judged :=
          Controller.credentials primitives members.crypto members.usernameToUser now credentials
        ((∀ key fields, (key, Node.table fields) ∈ users →
          readString "username" fields ≠ credentials.username) →
            judged = some (.invalidUsername, 0)) ∧
        ∀ key fields, (key, Node.table fields) ∈ users →
          readString "username" fields = credentials.username →
            judged = answer primitives libraries members.crypto now credentials fields := by
  intro constructed users described
  have accepted := (Config.create_ok created).accepted
  obtain ⟨table, filed, -, lookups⟩ := accepted.fileUsers_walk walks.users
  obtain ⟨sharedTable, sharedFiled, -, sharedLookups⟩ := accepted.fileUsers_walk walks.sharedUsers
  have walked : ((config.broadcast.walk walks.broadcast).map Prod.snd).Perm described := by
    rw [(Config.contents_of_create created).broadcast]
    exact (AList.walk_emplaceAll_perm (Shared.nodup_readBroadcast document) _).map Prod.snd
  have outcomes := @construct_cases tools _ _ sourceCount _ _ _ sharedFiled filed _ walked
  refine ⟨?_, ?_, fun members done => ?_⟩
  · rcases outcomes with ⟨startable, ok⟩ | ⟨refused, text, failed⟩ | ⟨bad, -, text, failed⟩
    · exact iff_of_true ok startable
    · refine iff_of_false (fun ok => ?_) fun startable => startable.not_refused refused
      obtain ⟨members, done⟩ := ok
      cases failed.symm.trans done
    · refine iff_of_false (fun ok => ?_) bad
      obtain ⟨members, done⟩ := ok
      cases failed.symm.trans done
  · rcases outcomes with ⟨startable, members, done⟩ | ⟨refused, failed⟩ | ⟨-, allowed, text, failed⟩
    · refine iff_of_false (fun fatal => ?_) startable.not_refused
      obtain ⟨text, failed⟩ := fatal
      cases failed.symm.trans done
    · exact iff_of_true failed refused
    · refine iff_of_false (fun fatal => ?_) allowed
      obtain ⟨other, failed'⟩ := fatal
      cases failed.symm.trans failed'
  · obtain ⟨crypto, sharedUsers, mappings, usernameToUser, address, -, second, -, -, filed', rfl⟩ :=
      construct_eq_ok.mp done
    -- The tables are those that are filed from the users that the document describes.
    obtain rfl : sharedTable = sharedUsers := Except.ok.inj (sharedFiled.symm.trans second)
    obtain rfl : table = usernameToUser := Except.ok.inj (filed.symm.trans filed')
    refine ⟨fun username => Option.ext fun user => ?_, fun primitives now credentials => ?_⟩
    · exact (sharedLookups username user).trans (lookups username user).symm
    · exact credentials_described accepted lookups primitives crypto now credentials

/-- Settings with which everything can be constructed, and users share their passwords. -/
def plainSettings : StartSettings where
  config := Config.byAccount
  fixCompId := "BRIDGE"
  fixAuthMethod := ""
  fixAuthTimestampTolerance := 0
  blockClientOnNotReady := false
  clientListenAddress := "1234"

/-- What constructors use, for the settings above and documents without broadcasts. -/
def plainTools : StartLibraries where
  tryParse address := if address = "1234" then some 1234 else none
  createDirectory _ := .ok ()
  regexes := Shared.beforeSuffix

/-- The second of two users logs on with its strategy, and nobody with an unknown name. -/
theorem construct_described_twoUsers :
    ∃ config, Config.create Config.byAccount Config.plainLibraries [] Config.twoUsers = .ok config ∧
      ∃ members, construct plainTools ⟨⟨[], [], []⟩, [], [], []⟩ plainSettings 2 config =
          .ok members ∧
        Controller.credentials Config.plainPrimitives members.crypto members.usernameToUser 0
          ⟨"bridge", "bob", "", ""⟩ = some (.undefined, 7) ∧
        Controller.credentials Config.plainPrimitives members.crypto members.usernameToUser 0
          ⟨"bridge", "carol", "", ""⟩ = some (.invalidUsername, 0) := by
  -- The construction succeeds, and then the document decides about credentials.
  obtain ⟨config, created⟩ := Config.create_twoUsers
  obtain ⟨starts, -, judges⟩ := @construct_described plainSettings _ _ _ _ created plainTools
    ⟨⟨[], [], []⟩, [], [], []⟩ 2
  obtain ⟨members, done⟩ := starts.mpr ⟨List.mem_cons_self, fun _ _ _ _ => rfl, by decide, fun _ => rfl⟩
  obtain ⟨-, judged⟩ := judges members done
  have shared : members.crypto = ⟨.undefined, 0⟩ := by
    obtain ⟨crypto, -, -, -, -, first, -, -, -, -, rfl⟩ := construct_eq_ok.mp done
    exact (Except.ok.inj first).symm
  -- Bob is described by the second entry, and nobody describes Carol.
  have bob := (judged Config.plainPrimitives 0 ⟨"bridge", "bob", "", ""⟩).2 "b"
    [("account", .string "A2"), ("component", .string "bridge"),
      ("strategy_id", .scalar (.integer 7)), ("username", .string "bob")]
    (List.mem_cons_of_mem _ List.mem_cons_self) rfl
  have carol := (judged Config.plainPrimitives 0 ⟨"bridge", "carol", "", ""⟩).1 (by
    intro key fields member
    rcases List.mem_cons.mp member with same | later
    · cases same
      decide
    · cases List.mem_singleton.mp later
      decide)
  exact ⟨config, created, _, done, bob.trans (by rw [shared]; decide +kernel), carol⟩

end Controller

end FixBridge
