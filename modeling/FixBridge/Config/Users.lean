import FixBridge.Config.Created

/-! The users of an accepted configuration, and the tables that are made of them. -/

namespace FixBridge

namespace Config

open Document

/-- The keys that a user's table can have. -/
def userKeys : List String :=
  ["component", "username", "password", "strategy_id", "account", "accounts", "symbols"]

/-- What `parse_users` has found out about a table from which it has made a user. -/
structure ReadsUser (settings : Settings) (libraries : Libraries) (entries : Entries) : Prop where
  component : ((entries.lookup "component").bind Node.string?).isSome
  username : ((entries.lookup "username").bind Node.string?).isSome
  password : ∀ node, entries.lookup "password" = some node → node.string?.isSome
  strategyId : ∀ node, entries.lookup "strategy_id" = some node → (libraries.uint32? node).isSome
  account : ∀ node, entries.lookup "account" = some node → node.string?.isSome
  /-- When routing by account, a value of any type passes. -/
  accounts : ∀ node, entries.lookup "accounts" = some node →
    node.IsStrings ∨ settings.omsRouteByStrategy = false
  symbols : ∀ node, entries.lookup "symbols" = some node → node.IsStrings
  /-- There is no other key. -/
  keys : ∀ entry ∈ entries, entry.1 ∈ userKeys
  named : readString "username" entries ≠ ""
  unaccounted : settings.omsRouteByStrategy = true → readString "account" entries = ""

/-- A user is made of what its table says, when nothing in the table is amiss. -/
theorem parseUser_ok {settings : Settings} {libraries : Libraries} {key : String}
    {userId : UInt16} {entries : Entries} {user : User}
    (done : parseUser settings libraries key userId (.table entries) = .ok user) :
    user = readUser libraries userId entries ∧ ReadsUser settings libraries entries := by
  -- The keys are consumed one after the other, and each lookup sees what was not consumed yet.
  simp only [parseUser, bind_eq_ok, Prod.exists] at done
  obtain ⟨component, _, first, username, _, second, password, _, third, strategyId, _, fourth,
    account, _, fifth, accountsRegex, _, sixth, symbolsRegex, _, seventh, _, validated, _, emptied,
    returned⟩ := done
  obtain ⟨isComponent, rfl⟩ := getAndRemove_ok first
  obtain ⟨isUsername, rfl⟩ := getAndRemove_ok second
  obtain ⟨rfl, isPassword, rfl⟩ := maybeGetAndRemove_ok third
  obtain ⟨rfl, isStrategyId, rfl⟩ := maybeGetAndRemove_ok fourth
  obtain ⟨rfl, isAccount, rfl⟩ := maybeGetAndRemove_ok fifth
  obtain ⟨rfl, rfl, isAccounts⟩ := parseAccounts2_ok sixth
  obtain ⟨rfl, rfl, isSymbols⟩ := parseSymbols2_ok seventh
  clear first second third fourth fifth sixth seventh
  have valid := refuse_eq_ok.mp validated
  have consumed := checkEmpty_ok emptied
  -- A lookup does not notice that other keys are gone.
  simp (disch := decide) only [lookup_remove] at isUsername isPassword isStrategyId isAccount
  simp (disch := decide) only [lookup_remove] at isAccounts isSymbols valid
  simp (disch := decide) only [readStrings, lookup_remove, pure_eq_ok] at returned
  subst returned
  -- The validation has passed, and afterwards nothing was left over.
  obtain ⟨isNamed, isUnaccounted⟩ := not_or.mp valid
  refine ⟨by simp [readUser, readString, readStrings, isComponent, isUsername], ?_⟩
  refine ⟨by simp [isComponent], by simp [isUsername], isPassword, isStrategyId, isAccount,
    isAccounts, isSymbols, ?_, by simpa [readString, isUsername] using isNamed, ?_⟩
  · exact (foldl_remove_eq_nil userKeys entries).mp consumed
  · intro routed
    by_contra accounted
    exact isUnaccounted ⟨routed, accounted⟩

/-- The users that the tables of a section describe, numbered from `count` on. -/
def readUsers (libraries : Libraries) : Nat → Entries → List User
  | _, [] => []
  | count, (_, .table entries) :: rest =>
    readUser libraries (UInt16.ofNat (count + 1)) entries :: readUsers libraries (count + 1) rest
  | count, _ :: rest => readUsers libraries count rest

/-- A section of users is read as what it describes, and every entry of it is a user's table. -/
theorem parseEachUser_ok {settings : Settings} {libraries : Libraries} {entries : Entries}
    {result after : Table String User} (nodup : (entries.map Prod.fst).Nodup)
    (fresh : ∀ entry ∈ entries, entry.1 ∉ result)
    (done : parseEachUser settings libraries entries result = .ok after) :
    after.values.Perm (readUsers libraries result.keys.length entries ++ result.values) ∧
      ∀ entry ∈ entries, ∃ fields, entry.2 = .table fields ∧
        ReadsUser settings libraries fields := by
  -- Every table adds one user under a key of its own, and is numbered by those before it.
  induction entries generalizing result with
  | nil =>
    cases done
    exact ⟨List.Perm.refl _, by simp⟩
  | cons entry rest ih =>
    obtain ⟨key, node⟩ := entry
    obtain ⟨unlike, nodupRest⟩ := List.nodup_cons.mp nodup
    cases node with
    | table fields =>
      simp only [parseEachUser, bind_eq_ok] at done
      obtain ⟨user, parsed, looped⟩ := done
      obtain ⟨rfl, reads⟩ := parseUser_ok parsed
      have absent : key ∉ result := fresh _ List.mem_cons_self
      -- The later keys differ from this one.
      have later : ∀ entry ∈ rest, entry.1 ∉ (result.emplace key (readUser libraries
          (UInt16.ofNat (result.keys.length + 1)) fields)).1 := by
        intro entry member present
        rcases AList.mem_emplace.mp present with same | present
        · exact unlike (List.mem_map.mpr ⟨entry, member, same⟩)
        · exact fresh entry (List.mem_cons_of_mem _ member) present
      obtain ⟨perm, each⟩ := ih nodupRest later looped
      refine ⟨?_, ?_⟩
      · have count : (result.emplace key (readUser libraries
            (UInt16.ofNat (result.keys.length + 1)) fields)).1.keys.length =
              result.keys.length + 1 := by
          simp only [AList.emplace_of_notMem absent, AList.keys,
            AList.entries_insert_of_notMem absent, List.keys_cons, List.length_cons]
        rw [count, AList.values_emplace absent] at perm
        exact perm.trans List.perm_middle
      · intro entry member
        rcases List.mem_cons.mp member with rfl | member
        · exact ⟨fields, rfl, reads⟩
        · exact each entry member
    | _ => cases done

/-- The section of users. -/
def usersOf (document : Root) : Entries :=
  match document.entries.lookup "users" with
  | some (.table entries) => entries
  | _ => []

/-- The keys of the section of users do not repeat. -/
theorem nodup_usersOf (document : Root) : ((usersOf document).map Prod.fst).Nodup := by
  -- The tables of a document have no repeated keys, and a missing section has no entries.
  unfold usersOf
  split
  · next entries found => exact (document.keyed.of_mem (mem_of_lookup found)).nodup
  · exact List.nodup_nil

/-- The users that a document describes. -/
def describedUsers (libraries : Libraries) (document : Root) : List User :=
  readUsers libraries 0 (usersOf document)

/-- The users that have been read are those that the document describes. -/
theorem describedUsers_perm {settings : Settings} {libraries : Libraries} {document : Root}
    {entries : Entries} {users : Table String User}
    (found : document.entries.lookup "users" = some (.table entries))
    (looped : parseEachUser settings libraries entries ∅ = .ok users) :
    users.values.Perm (describedUsers libraries document) := by
  -- The loop starts from an empty table, so that its values are all from this section.
  have section_ : usersOf document = entries := by simp [usersOf, found]
  obtain ⟨perm, -⟩ := parseEachUser_ok (section_ ▸ nodup_usersOf document) (by simp) looped
  simpa [describedUsers, section_, AList.values] using perm

end Config

end FixBridge
