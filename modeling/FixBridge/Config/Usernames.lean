import FixBridge.Config.Verdicts

/-! Every accepted configuration has users that the controller and `Shared` file without loss. -/

namespace FixBridge

namespace Config

open Document

/-- A user that is described is described by a table of its section. -/
theorem mem_readUsers {libraries : Libraries} {count : Nat} {entries : Entries} {user : User}
    (member : user ∈ readUsers libraries count entries) : ∃ key fields userId,
      (key, Node.table fields) ∈ entries ∧ user = readUser libraries userId fields := by
  induction entries generalizing count with
  | nil => cases member
  | cons entry rest ih =>
    obtain ⟨key, node⟩ := entry
    -- Only a table describes a user.
    cases node with
    | table fields =>
      rcases List.mem_cons.mp member with rfl | member
      · exact ⟨key, fields, _, List.mem_cons_self, rfl⟩
      · obtain ⟨other, found, userId, inside, same⟩ := ih member
        exact ⟨other, found, userId, List.mem_cons_of_mem _ inside, same⟩
    | _ =>
      obtain ⟨other, found, userId, inside, same⟩ := ih member
      exact ⟨other, found, userId, List.mem_cons_of_mem _ inside, same⟩

/-- A section of nothing but tables describes one user for each of them. -/
theorem length_readUsers {libraries : Libraries} {count : Nat} {entries : Entries}
    (each : ∀ entry ∈ entries, ∃ fields, entry.2 = Node.table fields) :
    (readUsers libraries count entries).length = entries.length := by
  -- Induction on the entries; each is a table, so that each is read as one user.
  induction entries generalizing count with
  | nil => rfl
  | cons entry rest ih =>
    obtain ⟨key, node⟩ := entry
    obtain ⟨fields, rfl⟩ := each _ List.mem_cons_self
    simp only [readUsers, List.length_cons]
    rw [ih fun other member => each other (List.mem_cons_of_mem _ member)]

/-- What an accepted configuration guarantees about the users that its document describes. -/
structure Accepted (settings : Settings) (libraries : Libraries) (document : Root)
    (config : Config) : Prop where
  /-- The configuration holds the described users. -/
  values : config.users.values.Perm (describedUsers libraries document)
  /-- Every entry of the section is a user's table that was read without complaint. -/
  tables : ∀ entry ∈ usersOf document, ∃ fields, entry.2 = .table fields ∧
    ReadsUser settings libraries fields
  usernames : ((describedUsers libraries document).map User.username).Nodup
  named : ∀ user ∈ describedUsers libraries document, user.username ≠ ""
  accounts : settings.omsRouteByStrategy = false →
    (((describedUsers libraries document).map User.account).filter fun account =>
      account ≠ "").Nodup
  unaccounted : settings.omsRouteByStrategy = true →
    ∀ user ∈ describedUsers libraries document, user.account = ""

/-- The users of an accepted configuration are those its document describes, without clashes. -/
theorem Created.accepted {settings : Settings} {libraries : Libraries} {order : List String}
    {document : Root} {config : Config}
    (created : Created settings libraries order document config) :
    Accepted settings libraries document config := by
  -- The users were made by the loop over the section, which has no repeated keys.
  obtain ⟨entries, found, looped⟩ := created.users
  have section_ : usersOf document = entries := by simp [usersOf, found]
  obtain ⟨-, each⟩ := parseEachUser_ok (section_ ▸ nodup_usersOf document) (by simp) looped
  have values := describedUsers_perm found looped
  -- Every described user is what was read of one entry of the section.
  have described : ∀ user ∈ describedUsers libraries document, ∃ fields userId,
      ReadsUser settings libraries fields ∧ user = readUser libraries userId fields := by
    intro user member
    obtain ⟨key, fields, userId, inside, same⟩ := mem_readUsers member
    rw [section_] at inside
    obtain ⟨others, shape, reads⟩ := each _ inside
    cases shape
    exact ⟨fields, userId, reads, same⟩
  -- The checks after the loop say the rest: unique names, unique accounts, none by strategy.
  refine ⟨values, by rw [section_]; exact each, ?_, ?_, ?_, ?_⟩
  · exact (checkUniqueUsernames_ends values order).passes_iff.mp ⟨(), created.usernames⟩
  · intro user member
    obtain ⟨fields, userId, reads, rfl⟩ := described user member
    exact reads.named
  · intro byAccount
    exact (checkUniqueAccounts_ends values order).passes_iff.mp ⟨(), created.accounts byAccount⟩
  · intro byStrategy user member
    obtain ⟨fields, userId, reads, rfl⟩ := described user member
    exact reads.unaccounted byStrategy

/-- Users are filed after one of them when that one is in the table before the others are. -/
theorem filed_cons {user : User} {rest : List User} {result after : Table String User}
    (absent : user.username ∉ result)
    (values : after.values.Perm (rest ++ (result.emplace user.username user).1.values))
    (lookups : ∀ username other, after.lookup username = some other ↔
      (result.emplace user.username user).1.lookup username = some other ∨
        (other ∈ rest ∧ other.username = username)) :
    after.values.Perm (user :: rest ++ result.values) ∧
      ∀ username other, after.lookup username = some other ↔
        result.lookup username = some other ∨
          (other ∈ user :: rest ∧ other.username = username) := by
  rw [AList.values_emplace absent] at values
  refine ⟨values.trans List.perm_middle, fun username other => ?_⟩
  have missing : result.lookup user.username = none := AList.lookup_eq_none.mpr absent
  rw [lookups, AList.emplace_of_notMem absent, AList.lookup_insert_eq, List.mem_cons]
  -- The username that is looked up is that of the first user, or of another one.
  by_cases same : username = user.username
  · subst same
    simp only [if_true, Option.some_inj, missing, reduceCtorEq, false_or]
    constructor
    · intro filed
      rcases filed with rfl | filed
      · exact ⟨Or.inl rfl, rfl⟩
      · exact ⟨Or.inr filed.1, filed.2⟩
    · intro filed
      rcases filed with ⟨rfl | member, named⟩
      · exact Or.inl rfl
      · exact Or.inr ⟨member, named⟩
  · rw [if_neg same]
    refine or_congr_right (and_congr_left fun named => ?_)
    refine ⟨Or.inr, fun filed => filed.resolve_left fun same_ => ?_⟩
    subst same_
    exact same named.symm

/-- Users without clashes are all filed, each under its own username. -/
theorem fileUsers_ok {settings : Settings} {users : List User} {result : Table String User}
    {accountToUsername : Table String String} (usernames : (users.map User.username).Nodup)
    (fresh : ∀ user ∈ users, user.username ∉ result)
    (accounts : settings.omsRouteByStrategy = false →
      ((users.map User.account).filter fun account => account ≠ "").Nodup)
    (unused : settings.omsRouteByStrategy = false →
      ∀ user ∈ users, user.account ≠ "" → user.account ∉ accountToUsername) :
    ∃ after, fileUsers settings users result accountToUsername = .ok after ∧
      after.values.Perm (users ++ result.values) ∧
      ∀ username user, after.lookup username = some user ↔
        result.lookup username = some user ∨ (user ∈ users ∧ user.username = username) := by
  -- The tables grow by one user at a time, with whom the later users do not clash either.
  induction users generalizing result accountToUsername with
  | nil => exact ⟨result, rfl, List.Perm.refl _, by simp⟩
  | cons user rest ih =>
    rw [List.map_cons, List.nodup_cons] at usernames
    obtain ⟨unlike, usernames⟩ := usernames
    have absent : user.username ∉ result := fresh user List.mem_cons_self
    have later : ∀ other ∈ rest,
        other.username ∉ (result.emplace user.username user).1 := by
      intro other member present
      rcases AList.mem_emplace.mp present with same | present
      · exact unlike (List.mem_map.mpr ⟨other, member, same⟩)
      · exact fresh other (List.mem_cons_of_mem _ member) present
    have inserted : (result.emplace user.username user).2 = true := by simp [absent]
    simp only [fileUsers, inserted, Bool.not_true, Bool.false_eq_true, if_false]
    by_cases exempt : settings.omsRouteByStrategy = true ∨ user.account = ""
    · -- The account of this user is not looked at, or is not there.
      rw [if_pos exempt]
      have accountsRest : settings.omsRouteByStrategy = false →
          ((rest.map User.account).filter fun account => account ≠ "").Nodup :=
        fun byAccount => (accounts byAccount).sublist
          ((List.sublist_cons_self _ _).filter _)
      obtain ⟨after, filed, values, lookups⟩ := ih usernames later accountsRest
        fun byAccount other member => unused byAccount other (List.mem_cons_of_mem _ member)
      exact ⟨after, filed, filed_cons absent values lookups⟩
    · -- The account is new, and the later accounts differ from it.
      rw [if_neg exempt]
      obtain ⟨byStrategy, accounted⟩ := not_or.mp exempt
      have byAccount : settings.omsRouteByStrategy = false := by simpa using byStrategy
      have distinct := accounts byAccount
      rw [List.map_cons, List.filter_cons_of_pos (by simpa using accounted),
        List.nodup_cons] at distinct
      have unknown : user.account ∉ accountToUsername :=
        unused byAccount user List.mem_cons_self accounted
      have emplaced : (accountToUsername.emplace user.account user.username).2 = true := by
        simp [unknown]
      simp only [emplaced, Bool.not_true, Bool.false_eq_true, if_false]
      have unusedLater : settings.omsRouteByStrategy = false → ∀ other ∈ rest,
          other.account ≠ "" →
            other.account ∉ (accountToUsername.emplace user.account user.username).1 := by
        intro _ other member nonempty present
        rcases AList.mem_emplace.mp present with same | present
        · refine distinct.1 (List.mem_filter.mpr ⟨List.mem_map.mpr ⟨other, member, same⟩, ?_⟩)
          simpa using accounted
        · exact unused byAccount other (List.mem_cons_of_mem _ member) nonempty present
      obtain ⟨after, filed, values, lookups⟩ :=
        ih usernames later (fun _ => distinct.2) unusedLater
      exact ⟨after, filed, filed_cons absent values lookups⟩

/-- The users of an accepted configuration are filed in whatever order they are walked. -/
theorem Accepted.fileUsers_walk {settings : Settings} {libraries : Libraries} {document : Root}
    {config : Config} (accepted : Accepted settings libraries document config)
    (order : List String) :
    ∃ table, fileUsers settings ((config.users.walk order).map Prod.snd) ∅ ∅ = .ok table ∧
      table.values.Perm (describedUsers libraries document) ∧
      ∀ username user, table.lookup username = some user ↔
        user ∈ describedUsers libraries document ∧ user.username = username := by
  have walked : ((config.users.walk order).map Prod.snd).Perm
      (describedUsers libraries document) :=
    (AList.walk_values_perm order config.users).trans accepted.values
  obtain ⟨table, filed, values, lookups⟩ := @fileUsers_ok settings _ ∅ ∅
    ((walked.map User.username).nodup_iff.mpr accepted.usernames) (by simp)
    (fun byAccount =>
      ((walked.map User.account).filter _).nodup_iff.mpr (accepted.accounts byAccount)) (by simp)
  refine ⟨table, filed, ?_, fun username user => ?_⟩
  · -- Nothing was filed before, so that the table's values are those of the walk.
    have nothing : (∅ : Table String User).values = [] := rfl
    rw [nothing, List.append_nil] at values
    exact values.trans walked
  · rw [lookups, walked.mem_iff]
    simp

/--
The controller and `Shared` file the users of an accepted configuration alike, and all of them.

Both tables hold one entry for every table of the section, under a username that nobody shares.
-/
theorem username_tables {settings : Settings} {libraries : Libraries} {order : List String}
    {document : Root} {config : Config}
    (created : create settings libraries order document = .ok config)
    (controllerOrder sharedOrder : List String) :
    ∃ controllerTable sharedTable,
      Controller.createUsernameToUser settings controllerOrder config = .ok controllerTable ∧
      Shared.extractUsernameToUser settings sharedOrder config = .ok sharedTable ∧
      (∀ username, controllerTable.lookup username = sharedTable.lookup username) ∧
      (∀ username user, controllerTable.lookup username = some user ↔
        user ∈ describedUsers libraries document ∧ user.username = username) ∧
      controllerTable.values.Perm (describedUsers libraries document) ∧
      (describedUsers libraries document).length = (usersOf document).length ∧
      (∀ user ∈ describedUsers libraries document, user.username ≠ "") ∧
      ((describedUsers libraries document).map User.username).Nodup ∧
      (settings.omsRouteByStrategy = false →
        (((describedUsers libraries document).map User.account).filter fun account =>
          account ≠ "").Nodup) ∧
      (settings.omsRouteByStrategy = true →
        ∀ user ∈ describedUsers libraries document, user.account = "") := by
  have accepted := (create_ok created).accepted
  obtain ⟨controllerTable, first, values, lookups⟩ := accepted.fileUsers_walk controllerOrder
  obtain ⟨sharedTable, second, -, others⟩ := accepted.fileUsers_walk sharedOrder
  refine ⟨controllerTable, sharedTable, first, second, fun username => ?_, lookups, values, ?_,
    accepted.named, accepted.usernames, accepted.accounts, accepted.unaccounted⟩
  · -- Both tables lead to exactly the described user with that username.
    refine Option.ext fun user => ?_
    rw [lookups, others]
  · refine length_readUsers fun entry member => ?_
    obtain ⟨fields, shape, -⟩ := accepted.tables entry member
    exact ⟨fields, shape⟩

/-- Libraries that convert integers in range, for documents without statistics and errors. -/
def plainLibraries : Libraries where
  toUInt32
    | .integer value =>
      if 0 ≤ value.toInt ∧ value.toInt < 4294967296 then some (UInt32.ofNat value.toInt.toNat)
      else none
    | _ => none
  toDouble _ := none
  statisticsType _ := none
  mdEntryType _ := none
  parseError _ := .error "Unexpected"

/-- A document with two users, each with an account of its own. -/
def twoUsers : Root where
  entries := [
    ("symbols", .table [("deribit", .table [("regex", .array [.string "BTC-.*", .string "ETH-.*"])]),
      ("regex", .string ".*")]),
    ("users", .table [
      ("a", .table [("account", .string "A1"), ("component", .string "bridge"),
        ("password", .string "secret"), ("username", .string "alice")]),
      ("b", .table [("account", .string "A2"), ("component", .string "bridge"),
        ("strategy_id", .scalar (.integer 7)), ("username", .string "bob")])])]
  keyed := Node.keyed_sound (by decide)

/-- Routing by account, without anything else. -/
def byAccount : Settings := ⟨false, false, false⟩

/-- The two users are accepted. -/
theorem create_twoUsers : ∃ config, create byAccount plainLibraries [] twoUsers = .ok config :=
  ⟨_, rfl⟩

/-- Both of the two users are filed by both components. -/
theorem username_tables_twoUsers :
    ∃ config, create byAccount plainLibraries [] twoUsers = .ok config ∧
      ∃ controllerTable sharedTable,
        Controller.createUsernameToUser byAccount ["b"] config = .ok controllerTable ∧
        Shared.extractUsernameToUser byAccount [] config = .ok sharedTable ∧
        (∀ username, controllerTable.lookup username = sharedTable.lookup username) ∧
        controllerTable.values.Perm (describedUsers plainLibraries twoUsers) ∧
        (describedUsers plainLibraries twoUsers).map User.username = ["alice", "bob"] := by
  -- Two accepted users, and two different orders in which the tables are filled.
  obtain ⟨config, created⟩ := create_twoUsers
  obtain ⟨controllerTable, sharedTable, first, second, same, -, values, -⟩ :=
    username_tables created ["b"] []
  exact ⟨config, created, controllerTable, sharedTable, first, second, same, values, rfl⟩

end Config

end FixBridge
