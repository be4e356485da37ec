import FixBridge.Config.Config
import FixBridge.Config.Reading

/-! What is known of a document when a configuration has been constructed from it. -/

namespace FixBridge

namespace Config

open Document

/-- The keys of the sections that a document can have. -/
def sectionKeys : List String := ["symbols", "users", "statistics", "broadcast", "errors"]

/-- The parsers and checks that have succeeded, each on its own section. -/
structure Created (settings : Settings) (libraries : Libraries) (order : List String)
    (document : Root) (config : Config) : Prop where
  symbols : ∃ gateways, document.entries.lookup "symbols" = some (.table gateways) ∧
    parseGateways gateways ∅ = .ok config.symbols
  users : ∃ entries, document.entries.lookup "users" = some (.table entries) ∧
    parseEachUser settings libraries entries ∅ = .ok config.users
  statistics : ∀ node, document.entries.lookup "statistics" = some node → ∃ entries result,
    node = .table entries ∧ parseEachStatistics settings libraries entries ⟨∅, ∅⟩ = .ok result
  broadcast : ∀ node, document.entries.lookup "broadcast" = some node → ∃ entries result,
    node = .table entries ∧ parseEachBroadcast entries ∅ = .ok result
  errors : ∀ node, document.entries.lookup "errors" = some node → ∃ entries result,
    node = .table entries ∧ parseEachError libraries entries ∅ = .ok result
  /-- There is no other section. -/
  keys : ∀ entry ∈ document.entries, entry.1 ∈ sectionKeys
  usernames : checkUniqueUsernames order config.users = .ok ()
  accounts : settings.omsRouteByStrategy = false → checkUniqueAccounts order config.users = .ok ()
  policy : config.orderCancelPolicy = getOrderCancelPolicy settings

/-- The section of symbols is a table, of which every entry has been read. -/
theorem parseSymbols_ok {entries rest : Entries} {symbols : Symbols}
    (done : parseSymbols entries = .ok (symbols, rest)) :
    (∃ gateways, entries.lookup "symbols" = some (.table gateways) ∧
      parseGateways gateways ∅ = .ok symbols) ∧ rest = remove "symbols" entries := by
  -- The section has to be there and to be a table; everything else is no result.
  unfold parseSymbols at done
  split at done
  · cases done
  · next gateways found =>
    simp only [bind_eq_ok, pure_eq_ok, Prod.mk.injEq] at done
    obtain ⟨_, looped, rfl, rfl⟩ := done
    exact ⟨⟨gateways, found, looped⟩, rfl⟩
  · cases done

/-- The section of users is required and must be a table. -/
theorem parseUsers_ok {settings : Settings} {libraries : Libraries} {entries : Entries}
    {users : Table String User} {rest : Node}
    (done : parseUsers settings libraries (.table entries) = .ok (users, rest)) :
    (∃ inner, entries.lookup "users" = some (.table inner) ∧
      parseEachUser settings libraries inner ∅ = .ok users) ∧
      rest = .table (remove "users" entries) := by
  -- A missing section is fatal, and one that is no table is dereferenced.
  simp only [parseUsers, findAndRemove_table] at done
  cases found : entries.lookup "users" with
  | none => simp [found] at done
  | some node =>
    cases node with
    | table inner =>
      simp only [found, bind_eq_ok, pure_eq_ok, Prod.mk.injEq] at done
      obtain ⟨_, looped, rfl, rfl⟩ := done
      exact ⟨⟨inner, rfl, looped⟩, rfl⟩
    | _ => simp [found] at done

/-- A section that may be missing is a table, if it is there. -/
theorem parseSection_ok {α : Type} {key : String} {missing : α}
    {parse : Entries → Except Failure α} {entries : Entries} {result : α} {rest : Node}
    (done : parseSection key missing parse (.table entries) = .ok (result, rest)) :
    (∀ node, entries.lookup key = some node → ∃ inner result,
      node = .table inner ∧ parse inner = .ok result) ∧ rest = .table (remove key entries) := by
  -- A missing section gives the default, and one that is no table is dereferenced.
  simp only [parseSection, findAndRemove_table] at done
  cases found : entries.lookup key with
  | none =>
    simp only [found, Except.ok.injEq, Prod.mk.injEq] at done
    obtain ⟨-, rfl⟩ := done
    simp
  | some node =>
    cases node with
    | table inner =>
      simp only [found, bind_eq_ok, pure_eq_ok, Prod.mk.injEq] at done
      obtain ⟨_, parsed, -, rfl⟩ := done
      refine ⟨fun other same => ?_, rfl⟩
      cases same
      exact ⟨inner, _, rfl, parsed⟩
    | _ => simp [found] at done

/-- A configuration is constructed when every parser and every check succeeds. -/
theorem create_ok {settings : Settings} {libraries : Libraries} {order : List String}
    {document : Root} {config : Config}
    (done : create settings libraries order document = .ok config) :
    Created settings libraries order document config := by
  -- Each parser sees the document without the sections that were consumed before it.
  simp only [create, parseStatistics, parseBroadcast, parseCxlRejReason, bind_eq_ok,
    Prod.exists] at done
  obtain ⟨symbols, _, first, users, _, second, statistics, _, third, broadcast, _, fourth,
    reasons, _, fifth, _, emptied, _, usernames, checked⟩ := done
  obtain ⟨isSymbols, rfl⟩ := parseSymbols_ok first
  obtain ⟨isUsers, rfl⟩ := parseUsers_ok second
  obtain ⟨isStatistics, rfl⟩ := parseSection_ok third
  obtain ⟨isBroadcast, rfl⟩ := parseSection_ok fourth
  obtain ⟨isErrors, rfl⟩ := parseSection_ok fifth
  simp (disch := decide) only [lookup_remove] at isUsers isStatistics isBroadcast isErrors
  have consumed := checkEmpty_ok emptied
  have keys := (foldl_remove_eq_nil sectionKeys document.entries).mp consumed
  cases routed : settings.omsRouteByStrategy with
  | true =>
    simp only [routed, Bool.not_true, Bool.false_eq_true, if_false, pure_eq_ok] at checked
    subst checked
    exact ⟨isSymbols, isUsers, isStatistics, isBroadcast, isErrors, keys, usernames,
      fun byAccount => by simp [routed] at byAccount, rfl⟩
  | false =>
    simp only [routed, Bool.not_false, if_true, bind_eq_ok, pure_eq_ok] at checked
    obtain ⟨_, accounts, rfl⟩ := checked
    exact ⟨isSymbols, isUsers, isStatistics, isBroadcast, isErrors, keys, usernames,
      fun _ => accounts, rfl⟩

end Config

end FixBridge
