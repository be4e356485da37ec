import FixBridge.Config.Usernames

/-! The grammar of configuration documents, and what the parsers leave unchecked of it. -/

namespace FixBridge

namespace Config

open Document

/-- What a gateway's table can hold. -/
def GatewayField : String → Node → Prop
  | "regex", node => node.IsStrings
  | _, _ => False

/-- What the section of symbols can hold: a table for any gateway, or patterns for all of them. -/
def SymbolsField (key : String) (node : Node) : Prop :=
  node.Fields GatewayField ∨ (key = "regex" ∧ node.IsStrings)

/-- What a user's table can hold. -/
def UserField (libraries : Libraries) : String → Node → Prop
  | "component", node => node.string?.isSome
  | "username", node => node.string?.isSome
  | "password", node => node.string?.isSome
  | "strategy_id", node => (libraries.uint32? node).isSome
  | "account", node => node.string?.isSome
  | "accounts", node => node.IsStrings
  | "symbols", node => node.IsStrings
  | _, _ => False

/-- What the table of a statistics type can hold. -/
def StatisticsField (libraries : Libraries) : String → Node → Prop
  | "fix_md_entry_type", node => node.string?.isSome
  | "default_value", node => (libraries.double? node).isSome
  | _, _ => False

/-- What a broadcast's table can hold. -/
def BroadcastField : String → Node → Prop
  | "exchange", node => node.string?.isSome
  | "source_regex", node => node.string?.isSome
  | "targets_regex", node => node.IsStrings
  | _, _ => False

/-- What an error's table can hold. -/
def ErrorField (libraries : Libraries) : String → Node → Prop
  | "cxl_rej_reason", node => (libraries.uint32? node).isSome
  | _, _ => False

/-- What a document can hold. -/
def SectionField (libraries : Libraries) : String → Node → Prop
  | "symbols", node => node.Fields SymbolsField
  | "users", node => node.Fields fun _ user => user.Fields (UserField libraries)
  | "statistics", node => node.Fields fun _ type => type.Fields (StatisticsField libraries)
  | "broadcast", node => node.Fields fun _ broadcast => broadcast.Fields BroadcastField
  | "errors", node => node.Fields fun _ error => error.Fields (ErrorField libraries)
  | _, _ => False

/-- Every key path of the document is one that the grammar defines, with a value of its shape. -/
def Grammatical (libraries : Libraries) (document : Root) : Prop :=
  (Node.table document.entries).Fields (SectionField libraries)

/-- A document without the mistakes that no parser looks for. -/
structure Careful (settings : Settings) (document : Root) : Prop where
  /-- A gateway has no key but its patterns. -/
  gateways : ∀ gateways, document.entries.lookup "symbols" = some (.table gateways) →
    ∀ gateway fields, (gateway, Node.table fields) ∈ gateways →
      ∀ entry ∈ fields, entry.1 = "regex"
  /-- When routing by account, the accounts of a user are strings as well. -/
  accounts : settings.omsRouteByStrategy = false → ∀ users,
    document.entries.lookup "users" = some (.table users) →
      ∀ user fields, (user, Node.table fields) ∈ users →
        ∀ node, fields.lookup "accounts" = some node → node.IsStrings

/-- The fields of a table, looked up by key. -/
theorem Fields.lookup {allowed : String → Node → Prop} {entries : Entries} {key : String}
    {node : Node} (fields : (Node.table entries).Fields allowed)
    (found : entries.lookup key = some node) : allowed key node := by
  -- What is found under a key is one of the fields, and all of them are allowed.
  obtain ⟨others, same, each⟩ := fields
  cases same
  exact each _ (mem_of_lookup found)

/-- The fields of a table, entry by entry. -/
theorem Fields.of_mem {allowed : String → Node → Prop} {entries : Entries}
    (fields : (Node.table entries).Fields allowed) {entry : String × Node}
    (member : entry ∈ entries) : allowed entry.1 entry.2 := by
  -- The node is this table, so the fields that are allowed are its own.
  obtain ⟨others, same, each⟩ := fields
  cases same
  exact each entry member

/-- A gateway's table has no key but one. -/
theorem GatewayField.key {key : String} {node : Node} (field : GatewayField key node) :
    key = "regex" := by
  -- One key is allowed only, as the other case of the grammar is empty.
  unfold GatewayField at field
  split at field
  · rfl
  · exact field.elim

/-- A grammatical document is a careful one, whatever the settings are. -/
theorem Grammatical.careful {libraries : Libraries} {document : Root}
    (grammatical : Grammatical libraries document) (settings : Settings) :
    Careful settings document := by
  constructor
  · intro gateways found gateway inner member entry inside
    have fields : (Node.table gateways).Fields SymbolsField := Fields.lookup grammatical found
    -- A table is not a list of patterns, so that it must be a gateway's.
    rcases Fields.of_mem fields member with gatewayFields | ⟨-, strings⟩
    · exact GatewayField.key (Fields.of_mem gatewayFields inside)
    · rcases strings with ⟨value, same⟩ | ⟨elements, same, -⟩
      · cases same
      · cases same
  · intro _ users found user fields member node located
    have field : (Node.table users).Fields fun _ user => user.Fields (UserField libraries) :=
      Fields.lookup grammatical found
    exact Fields.lookup (Fields.of_mem field member) located

/-- The table of a statistics type of the grammar is not dereferenced as what it is not. -/
theorem StatisticsField.not_strays {libraries : Libraries} {entry : String × Node}
    (fields : entry.2.Fields (StatisticsField libraries)) (settings : Settings) :
    ¬ StraysEntry settings libraries "statistics" entry := by
  -- A default value that is allowed by the grammar is a number, and can be dereferenced.
  intro strays
  obtain ⟨-, dereferenced⟩ := strays
  obtain ⟨entries, table, -⟩ := id fields
  rw [table] at fields
  obtain ⟨-, -, node, found, noNumber⟩ := dereferenced entries table
  have number : (libraries.double? node).isSome := Fields.lookup fields found
  simp [noNumber] at number

/-- Neither is anything else in a grammatical document. -/
theorem Grammatical.not_strays {libraries : Libraries} {document : Root}
    (grammatical : Grammatical libraries document) (settings : Settings) :
    ¬ Strays settings libraries document := by
  refine GoesAstray.not_of_forall fun key member strays => ?_
  cases found : document.entries.lookup key with
  | none =>
    rw [found] at strays
    exact strays
  | some node =>
    rw [found] at strays
    have field := Fields.lookup grammatical found
    -- Every section is a table, so that an entry of it would have to stray.
    have each : ∀ {allowed : String → Node → Prop}, node.Fields allowed →
        (∀ entry : String × Node, allowed entry.1 entry.2 →
          ¬ StraysEntry settings libraries key entry) → False := by
      intro allowed fields never
      obtain ⟨entries, rfl, inside⟩ := fields
      exact GoesAstray.not_of_forall (fun entry member => never entry (inside entry member)) strays
    have tables : ∀ {allowed : String → Node → Prop} {entry : String × Node},
        entry.2.Fields allowed → ¬ ∀ fields, entry.2 ≠ .table fields := by
      intro allowed entry fields other
      obtain ⟨entries, same, -⟩ := fields
      exact other entries same
    simp only [sectionKeys, List.mem_cons, List.not_mem_nil, or_false] at member
    rcases member with rfl | rfl | rfl | rfl | rfl
    · have symbols : node.Fields SymbolsField := field
      exact each symbols fun entry _ never => never
    · have users : node.Fields fun _ user => user.Fields (UserField libraries) := field
      exact each users fun entry fields strays => tables fields strays
    · have statistics : node.Fields fun _ type => type.Fields (StatisticsField libraries) := field
      exact each statistics fun entry fields => StatisticsField.not_strays fields settings
    · have broadcast : node.Fields fun _ broadcast => broadcast.Fields BroadcastField := field
      exact each broadcast fun entry _ never => never
    · have errors : node.Fields fun _ error => error.Fields (ErrorField libraries) := field
      exact each errors fun entry fields strays => tables fields strays.2

end Config

end FixBridge
