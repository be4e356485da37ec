import FixBridge.Config.Usernames
import FixBridge.Shared.Authentication

/-! Where the two components that judge a client's credentials agree, and where they do not. -/

namespace FixBridge

/-- The password of the credentials is what the user's secret and the method ask for. -/
def Credentials.Validates (primitives : Crypto.Primitives) (crypto : Crypto) (now : Int64)
    (credentials : Credentials) (user : User) : Prop :=
  ∃ verdict, crypto.validate primitives now credentials.password user.password
    credentials.rawData = some verdict ∧ verdict.accepted = true

/-- `Shared` calls back with success. -/
def Authentication.Accepts (primitives : Crypto.Primitives) (now : Int64)
    (credentials : Credentials) (shared : Authentication) : Prop :=
  ∃ result, shared.sessionLogon primitives now credentials = some result ∧ result.success = true

/-- The controller returns no error. -/
def Controller.Accepts (primitives : Crypto.Primitives) (crypto : Crypto)
    (usernameToUser : Table String User) (now : Int64) (credentials : Credentials) : Prop :=
  ∃ strategyId, Controller.credentials primitives crypto usernameToUser now credentials =
    some (.undefined, strategyId)

/-- `Shared` accepts the users without an account, and those who pass all of its checks. -/
theorem Authentication.accepts_iff {primitives : Crypto.Primitives} {now : Int64}
    {credentials : Credentials} {shared : Authentication} :
    shared.Accepts primitives now credentials ↔
      ∃ user, shared.usernameToUser.lookup credentials.username = some user ∧
        (user.account = "" ∨
          ((shared.blockClientOnNotReady = true → ready user.account shared.omsStatus = true) ∧
            credentials.component = user.component ∧
            credentials.Validates primitives shared.crypto now user)) := by
  -- Each check of the helper settles the matter or leaves it to the next.
  unfold Accepts sessionLogon sessionLogonHelper Credentials.Validates
  cases found : shared.usernameToUser.lookup credentials.username with
  | none =>
    -- The reason names the user and so is not the empty one, which stands for success.
    simp [toString]
  | some user =>
    simp only [Option.some_inj, exists_eq_left']
    by_cases unaccounted : user.account = ""
    · simp [unaccounted]
    by_cases blocked : shared.blockClientOnNotReady = true ∧
        ready user.account shared.omsStatus = false
    · simp [unaccounted, blocked, toString]
    have unblocked : (shared.blockClientOnNotReady && !ready user.account shared.omsStatus) =
        false := by simpa using blocked
    have free : shared.blockClientOnNotReady = true → ready user.account shared.omsStatus = true :=
      by simpa using blocked
    by_cases component : credentials.component = user.component
    · cases validated : shared.crypto.validate primitives now credentials.password user.password
          credentials.rawData with
      | none => simp [unaccounted, unblocked, component]
      | some verdict =>
        -- The verdict decides between success and the last reason.
        cases accepted : verdict.accepted with
        | false => simp [unaccounted, unblocked, component, accepted]
        | true => simpa [unaccounted, unblocked, component, accepted] using free
    · simp [unaccounted, unblocked, component]

/-- The controller accepts the users who pass all of its checks. -/
theorem Controller.accepts_iff {primitives : Crypto.Primitives} {crypto : Crypto}
    {usernameToUser : Table String User} {now : Int64} {credentials : Credentials} :
    Controller.Accepts primitives crypto usernameToUser now credentials ↔
      ∃ user, usernameToUser.lookup credentials.username = some user ∧
        credentials.component = user.component ∧
        credentials.Validates primitives crypto now user := by
  -- The source asks for the user, the component and the password, in this order.
  unfold Controller.Accepts Controller.credentials Credentials.Validates
  cases found : usernameToUser.lookup credentials.username with
  | none => simp
  | some user =>
    simp only [Option.some_inj, exists_eq_left']
    by_cases component : credentials.component = user.component
    · cases validated : crypto.validate primitives now credentials.password user.password
          credentials.rawData with
      | none => simp [component]
      | some verdict =>
        cases accepted : verdict.accepted with
        | false => simp [component, accepted]
        | true => simp [component, accepted]
    · simp [component]

namespace Config

open Document

/-- The table of either component leads from a username to the described user with that name. -/
theorem Accepted.lookup_iff {settings : Settings} {libraries : Libraries} {document : Root}
    {config : Config} (accepted : Accepted settings libraries document config)
    {order : List String} {table : Table String User}
    (filed : fileUsers settings ((config.users.walk order).map Prod.snd) ∅ ∅ = .ok table)
    (username : String) (user : User) :
    table.lookup username = some user ↔
      user ∈ describedUsers libraries document ∧ user.username = username := by
  -- The filing succeeds in any order, and always with the same answers.
  obtain ⟨other, same, -, lookups⟩ := accepted.fileUsers_walk order
  rw [filed] at same
  cases same
  exact lookups username user

/--
The two components agree, and let nobody pass unchecked, exactly for the users with an account.

`Shared` accepts a user without an account before it has looked at the component or the password.
-/
theorem accepts_agree_iff {settings : Settings} {libraries : Libraries} {order : List String}
    {document : Root} {config : Config}
    (created : create settings libraries order document = .ok config)
    {controllerOrder sharedOrder : List String} {controllerTable sharedTable : Table String User}
    (controllerFiled :
      Controller.createUsernameToUser settings controllerOrder config = .ok controllerTable)
    (sharedFiled : Shared.extractUsernameToUser settings sharedOrder config = .ok sharedTable)
    (primitives : Crypto.Primitives) (crypto : Crypto) (now : Int64) (credentials : Credentials)
    (omsStatus : List (Table String ConnectionStatus)) :
    let shared : Authentication := ⟨false, crypto, sharedTable, omsStatus⟩
    ((shared.Accepts primitives now credentials ↔
        Controller.Accepts primitives crypto controllerTable now credentials) ∧
      ∀ user ∈ describedUsers libraries document, user.username = credentials.username →
        shared.Accepts primitives now credentials ∨
          Controller.Accepts primitives crypto controllerTable now credentials →
        credentials.component = user.component ∧
          credentials.Validates primitives crypto now user) ↔
    ∀ user ∈ describedUsers libraries document, user.username = credentials.username →
      user.account = "" → credentials.component = user.component ∧
        credentials.Validates primitives crypto now user := by
  intro shared
  have accepted := (create_ok created).accepted
  have controllerLookup := accepted.lookup_iff controllerFiled
  have sharedLookup := accepted.lookup_iff sharedFiled
  constructor
  · intro agree user member named unaccounted
    -- The user is accepted by `Shared`, so that the checks must have passed.
    refine agree.2 user member named (Or.inl ?_)
    rw [Authentication.accepts_iff]
    exact ⟨user, (sharedLookup _ _).mpr ⟨member, named⟩, Or.inl unaccounted⟩
  · intro checked
    -- Whoever is accepted by either component has passed the checks of the controller.
    have fromShared : shared.Accepts primitives now credentials →
        ∃ user, user ∈ describedUsers libraries document ∧
          user.username = credentials.username ∧ credentials.component = user.component ∧
          credentials.Validates primitives crypto now user := by
      intro accepts
      obtain ⟨user, found, passed⟩ := Authentication.accepts_iff.mp accepts
      obtain ⟨member, named⟩ := (sharedLookup _ _).mp found
      rcases passed with unaccounted | ⟨-, passed⟩
      · exact ⟨user, member, named, checked user member named unaccounted⟩
      · exact ⟨user, member, named, passed⟩
    have fromController : Controller.Accepts primitives crypto controllerTable now credentials →
        ∃ user, user ∈ describedUsers libraries document ∧
          user.username = credentials.username ∧ credentials.component = user.component ∧
          credentials.Validates primitives crypto now user := by
      intro accepts
      obtain ⟨user, found, passed⟩ := Controller.accepts_iff.mp accepts
      obtain ⟨member, named⟩ := (controllerLookup _ _).mp found
      exact ⟨user, member, named, passed⟩
    refine ⟨⟨fun accepts => ?_, fun accepts => ?_⟩, fun user member named either => ?_⟩
    · obtain ⟨user, member, named, passed⟩ := fromShared accepts
      exact Controller.accepts_iff.mpr ⟨user, (controllerLookup _ _).mpr ⟨member, named⟩, passed⟩
    · obtain ⟨user, member, named, passed⟩ := fromController accepts
      refine Authentication.accepts_iff.mpr
        ⟨user, (sharedLookup _ _).mpr ⟨member, named⟩, Or.inr ⟨?_, passed⟩⟩
      intro blocked
      cases blocked
    · -- The username belongs to one user only.
      obtain ⟨other, otherMember, otherNamed, passed⟩ := either.elim fromShared fromController
      have first := (sharedLookup _ _).mpr ⟨member, named⟩
      have second := (sharedLookup _ _).mpr ⟨otherMember, otherNamed⟩
      rw [first] at second
      cases second
      exact passed

/-- Functions that compare passwords only, since the method is plain. -/
def plainPrimitives : Crypto.Primitives := ⟨fun _ => none, fun _ _ => [], fun _ => ""⟩

/-- Alice has an account, so that her credentials are judged alike. -/
theorem accepts_agree_iff_alice :
    ∃ config, create byAccount plainLibraries [] twoUsers = .ok config ∧
      ∃ controllerTable sharedTable,
        Controller.createUsernameToUser byAccount [] config = .ok controllerTable ∧
        Shared.extractUsernameToUser byAccount [] config = .ok sharedTable ∧
        (Authentication.Accepts plainPrimitives 0 ⟨"bridge", "alice", "secret", ""⟩
            ⟨false, ⟨.undefined, 0⟩, sharedTable, []⟩ ↔
          Controller.Accepts plainPrimitives ⟨.undefined, 0⟩ controllerTable 0
            ⟨"bridge", "alice", "secret", ""⟩) := by
  have created : ∃ config, create byAccount plainLibraries [] twoUsers = .ok config := ⟨_, rfl⟩
  obtain ⟨config, created⟩ := created
  obtain ⟨controllerTable, first, -⟩ := (create_ok created).accepted.fileUsers_walk []
  refine ⟨config, created, controllerTable, controllerTable, first, first, ?_⟩
  refine ((accepts_agree_iff created first first plainPrimitives ⟨.undefined, 0⟩ 0
    ⟨"bridge", "alice", "secret", ""⟩ []).mpr fun user member named unaccounted => ?_).1
  -- Both users have an account.
  have accounts : ∀ user ∈ describedUsers plainLibraries twoUsers, user.account ≠ "" := by decide
  exact absurd unaccounted (accounts user member)

/-- A document with a user that has no account. -/
def unaccountedUser : Root where
  entries := [
    ("symbols", .table [("regex", .string ".*")]),
    ("users", .table [("c", .table [("component", .string "bridge"),
      ("password", .string "secret"), ("username", .string "carol")])])]
  keyed := Node.keyed_sound (by decide)

/-- `Shared` accepts a user without an account whatever the component and the password are. -/
theorem accepts_unaccounted :
    ∃ config, create byAccount plainLibraries [] unaccountedUser = .ok config ∧
      ∃ controllerTable sharedTable,
        Controller.createUsernameToUser byAccount [] config = .ok controllerTable ∧
        Shared.extractUsernameToUser byAccount [] config = .ok sharedTable ∧
        Authentication.Accepts plainPrimitives 0 ⟨"", "carol", "wrong", ""⟩
          ⟨false, ⟨.undefined, 0⟩, sharedTable, []⟩ ∧
        ¬ Controller.Accepts plainPrimitives ⟨.undefined, 0⟩ controllerTable 0
          ⟨"", "carol", "wrong", ""⟩ := by
  have created : ∃ config, create byAccount plainLibraries [] unaccountedUser = .ok config :=
    ⟨_, rfl⟩
  obtain ⟨config, created⟩ := created
  obtain ⟨table, filed, -, lookups⟩ := (create_ok created).accepted.fileUsers_walk []
  refine ⟨config, created, table, table, filed, filed, ?_, ?_⟩
  · -- The account is empty, which is enough.
    have carol : (readUser plainLibraries 1 [("component", .string "bridge"),
        ("password", .string "secret"), ("username", .string "carol")]) ∈
          describedUsers plainLibraries unaccountedUser := List.mem_singleton_self _
    exact Authentication.accepts_iff.mpr ⟨_, (lookups _ _).mpr ⟨carol, rfl⟩, Or.inl rfl⟩
  · -- The component of every user differs from that of the credentials.
    intro accepts
    obtain ⟨user, found, component, -⟩ := Controller.accepts_iff.mp accepts
    have components : ∀ user ∈ describedUsers plainLibraries unaccountedUser,
        "" ≠ user.component := by decide
    exact components user ((lookups _ _).mp found).1 component

end Config

end FixBridge
