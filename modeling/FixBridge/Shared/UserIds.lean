import FixBridge.Config.Contents
import FixBridge.Library.Wrapping
import FixBridge.Shared.Logons

/-! The numbers by which users are known: how long they differ, and whom a logon reports. -/

namespace FixBridge

/-- A logon reports nobody, or a user with an account who has passed all checks. -/
theorem Authentication.sessionLogon_cases {primitives : Crypto.Primitives} {now : Int64}
    {credentials : Credentials} {shared : Authentication} {result : LogonResult}
    (judged : shared.sessionLogon primitives now credentials = some result) :
    (result.userId = 0 ∧ result.account = "") ∨
      ∃ user, shared.usernameToUser.lookup credentials.username = some user ∧
        user.account ≠ "" ∧ credentials.component = user.component ∧
        result = ⟨true, user.account, user.userId, ""⟩ := by
  simp only [sessionLogon, Option.bind_eq_bind, Option.bind_eq_some_iff] at judged
  obtain ⟨⟨account, found, reason⟩, helped, returned⟩ := judged
  cases returned
  unfold sessionLogonHelper at helped
  split at helped
  · cases helped
    exact Or.inl ⟨rfl, rfl⟩
  next user located =>
    -- Whatever refuses the user reports nobody, and so does a missing account.
    split at helped
    · cases helped
      exact Or.inl ⟨rfl, rfl⟩
    next accounted =>
      split at helped
      · cases helped
        exact Or.inl ⟨rfl, rfl⟩
      · split at helped
        · cases helped
          exact Or.inl ⟨rfl, rfl⟩
        next component =>
          obtain ⟨verdict, -, decided⟩ := Option.bind_eq_some_iff.mp helped
          split at decided
          · cases decided
            exact Or.inl ⟨rfl, rfl⟩
          · cases decided
            exact Or.inr ⟨user, located, accounted, not_not.mp component, rfl⟩

namespace Config

open Document

/-- The section of users is the section of that name. -/
theorem usersOf_eq (document : Root) : usersOf document = sectionOf "users" document := rfl

/-- In a section of tables, the users are numbered one after the other. -/
theorem readUsers_userIds (libraries : Libraries) {entries : Entries}
    (tables : ∀ entry ∈ entries, ∃ fields, entry.2 = Node.table fields) (count : Nat) :
    (readUsers libraries count entries).map User.userId =
      (List.range' (count + 1) entries.length).map UInt16.ofNat := by
  -- Induction on the entries; each is a table and takes the next number.
  induction entries generalizing count with
  | nil => rfl
  | cons entry rest ih =>
    obtain ⟨key, node⟩ := entry
    obtain ⟨fields, rfl⟩ := tables (key, node) List.mem_cons_self
    rw [readUsers, List.map_cons, ih (fun other later => tables other (List.mem_cons_of_mem _ later)),
      List.length_cons, List.range'_succ, List.map_cons]
    rfl

/-- In a section of tables, a user is made of the table at the place that gives its number. -/
theorem mem_readUsers_iff {libraries : Libraries} {entries : Entries}
    (tables : ∀ entry ∈ entries, ∃ fields, entry.2 = Node.table fields) {count : Nat}
    {user : User} :
    user ∈ readUsers libraries count entries ↔ ∃ position key fields,
      entries[position]? = some (key, Node.table fields) ∧
        user = readUser libraries (UInt16.ofNat (count + position + 1)) fields := by
  induction entries generalizing count with
  | nil => simp [readUsers]
  | cons entry rest ih =>
    obtain ⟨key, node⟩ := entry
    obtain ⟨fields, rfl⟩ := tables (key, node) List.mem_cons_self
    rw [readUsers, List.mem_cons,
      ih (fun other later => tables other (List.mem_cons_of_mem _ later))]
    constructor
    · intro either
      rcases either with rfl | ⟨position, key', fields', found, rfl⟩
      · exact ⟨0, key, fields, rfl, rfl⟩
      · refine ⟨position + 1, key', fields', found, ?_⟩
        rw [show count + 1 + position = count + (position + 1) by omega]
    · rintro ⟨position, key', fields', found, rfl⟩
      -- The first table has the first number, and the others are counted from the next one on.
      cases position with
      | zero =>
        cases found
        exact Or.inl rfl
      | succ position =>
        refine Or.inr ⟨position, key', fields', found, ?_⟩
        rw [show count + 1 + position = count + (position + 1) by omega]

/-- Every user of an accepted document is a table. -/
theorem Accepted.are_tables {settings : Settings} {libraries : Libraries} {document : Root}
    {config : Config} (accepted : Accepted settings libraries document config) :
    ∀ entry ∈ usersOf document, ∃ fields, entry.2 = Node.table fields :=
  fun entry member => (accepted.tables entry member).imp fun _ both => both.1

/-- The numbers of the users of an accepted document are those of a 16-bit counter. -/
theorem Accepted.userIds {settings : Settings} {libraries : Libraries} {document : Root}
    {config : Config} (accepted : Accepted settings libraries document config) :
    ((config.users.values.map User.userId).map UInt16.toNat).Perm
      (Wrapping.numbers (2 ^ 16) (sectionOf "users" document).length) := by
  -- The table holds the described users in some order, numbered by their places.
  have numbered := (accepted.values.map User.userId).map UInt16.toNat
  rw [describedUsers, readUsers_userIds libraries accepted.are_tables, usersOf_eq] at numbered
  refine numbered.trans (.of_eq ?_)
  rw [Wrapping.numbers, List.range'_eq_map_range, List.map_map, List.map_map]
  refine List.map_congr_left fun index _ => ?_
  simp only [Function.comp_apply, UInt16.toNat_ofNat', Nat.add_comm]

/--
The users of an accepted document have different numbers exactly if there are at most 65536.

The number zero, which stands for no user at all, is not given out exactly if there are fewer.
-/
theorem userIds_iff {settings : Settings} {libraries : Libraries} {order : List String}
    {document : Root} {config : Config}
    (done : create settings libraries order document = .ok config) :
    ((config.users.values.map User.userId).Nodup ↔
      (sectionOf "users" document).length ≤ 2 ^ 16) ∧
    ((∀ user ∈ config.users.values, user.userId ≠ 0) ↔
      (sectionOf "users" document).length < 2 ^ 16) := by
  -- The ids are the numbers from one on, reduced to 16 bits.
  have numbered := (create_ok done).accepted.userIds
  constructor
  · -- They differ as long as they do not come round, which takes 65536 of them.
    rw [← Wrapping.nodup_iff (by decide), ← numbered.nodup_iff]
    refine (List.nodup_map_iff ?_).symm
    exact fun first second same => UInt16.toNat_inj.mp same
  · -- Zero is reached with the number 65536 itself.
    rw [← Wrapping.zero_notMem_iff (by decide), ← numbered.mem_iff]
    simp only [List.map_map, List.mem_map, Function.comp_apply, not_exists, not_and]
    refine forall₂_congr fun user _ => not_congr ?_
    rw [← UInt16.toNat_inj]
    rfl

/-- Two users have different numbers, neither of which is zero. -/
theorem userIds_iff_twoUsers : ∃ config, create byAccount plainLibraries [] twoUsers = .ok config ∧
    (config.users.values.map User.userId).Nodup ∧ ∀ user ∈ config.users.values, user.userId ≠ 0 := by
  -- Two users are far from both bounds.
  obtain ⟨config, done⟩ := create_twoUsers
  obtain ⟨distinct, nonzero⟩ := userIds_iff done
  exact ⟨config, done, distinct.mpr (by decide), nonzero.mpr (by decide)⟩

/--
With fewer than 65536 users, a logon that reports a number reports the place of the user's table.

It reports a number exactly if it succeeds for a user with an account.
-/
theorem sessionLogon_identifies {settings : Settings} {libraries : Libraries}
    {order : List String} {document : Root} {config : Config}
    (done : create settings libraries order document = .ok config)
    (few : (sectionOf "users" document).length < 2 ^ 16) {sharedOrder : List String}
    {usernameToUser : Table String User}
    (filed : Shared.extractUsernameToUser settings sharedOrder config = .ok usernameToUser)
    {shared : Authentication} (holds : shared.usernameToUser = usernameToUser)
    {primitives : Crypto.Primitives} {now : Int64} {credentials : Credentials}
    {result : Authentication.LogonResult}
    (judged : shared.sessionLogon primitives now credentials = some result) :
    (result.userId ≠ 0 ↔ result.success = true ∧ result.account ≠ "") ∧
    ∀ position, result.userId.toNat = position + 1 → ∃ key fields,
      (sectionOf "users" document)[position]? = some (key, .table fields) ∧
      readString "username" fields = credentials.username ∧
      readString "component" fields = credentials.component ∧
      readString "account" fields = result.account := by
  have accepted := (create_ok done).accepted
  rcases Authentication.sessionLogon_cases judged with
    ⟨nobody, unaccounted⟩ | ⟨user, located, accounted, component, rfl⟩
  · refine ⟨by simp [nobody, unaccounted], fun position number => ?_⟩
    rw [nobody] at number
    simp at number
  · rw [holds] at located
    obtain ⟨described, named⟩ := (accepted.lookup_iff filed credentials.username user).mp located
    obtain ⟨place, key, fields, found, rfl⟩ := (mem_readUsers_iff accepted.are_tables).mp described
    -- The number does not wrap around, as the place is one of those in the section.
    have within : place < (sectionOf "users" document).length :=
      (List.getElem?_eq_some_iff.mp found).1
    have number : (UInt16.ofNat (0 + place + 1)).toNat = place + 1 := by
      rw [UInt16.toNat_ofNat', Nat.mod_eq_of_lt (by omega)]
      omega
    refine ⟨⟨fun _ => ⟨rfl, accounted⟩, fun _ zero => ?_⟩, fun position same => ?_⟩
    · have none_ := congrArg UInt16.toNat zero
      rw [readUser, number] at none_
      simp at none_
    · obtain rfl : place = position := by
        rw [readUser, number] at same
        omega
      exact ⟨key, fields, found, named, component.symm, rfl⟩

/-- The logon of the user bob reports the second table. -/
theorem sessionLogon_identifies_bob :
    ∃ config usernameToUser, create byAccount plainLibraries [] twoUsers = .ok config ∧
      Shared.extractUsernameToUser byAccount [] config = .ok usernameToUser ∧
      ∃ result, Authentication.sessionLogon plainPrimitives 0 ⟨"bridge", "bob", "", ""⟩
          ⟨false, ⟨.undefined, 0⟩, usernameToUser, []⟩ = some result ∧ result.userId = 2 ∧
        ∃ key fields, (sectionOf "users" twoUsers)[1]? = some (key, .table fields) ∧
          readString "username" fields = "bob" := by
  -- Bob is described by the second entry and has the id 2.
  obtain ⟨config, done⟩ := create_twoUsers
  obtain ⟨table, filed, -, lookups⟩ := (create_ok done).accepted.fileUsers_walk []
  let bob := readUser plainLibraries 2 [("account", .string "A2"), ("component", .string "bridge"),
    ("strategy_id", .scalar (.integer 7)), ("username", .string "bob")]
  have described : bob ∈ describedUsers plainLibraries twoUsers := by decide
  have located : table.lookup "bob" = some bob := (lookups _ _).mpr ⟨described, rfl⟩
  -- Nobody is blocked, so that Bob logs on with what he is described with.
  have judged : Authentication.sessionLogon plainPrimitives 0 ⟨"bridge", "bob", "", ""⟩
      ⟨false, ⟨.undefined, 0⟩, table, []⟩ = some ⟨true, "A2", 2, ""⟩ := by
    simp only [Authentication.sessionLogon, Authentication.sessionLogonHelper, located]
    decide
  obtain ⟨key, fields, found, named, -⟩ :=
    (sessionLogon_identifies done (by decide) filed rfl judged).2 1 (by decide)
  exact ⟨config, table, done, filed, _, judged, rfl, key, fields, found, named⟩

end Config

end FixBridge
