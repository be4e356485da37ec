import FixBridge.Config.Users
import FixBridge.Library.Verdict

/-! Which documents are accepted, and which lead to a dereference that the language leaves open. -/

namespace FixBridge

namespace Config

open Document

/-- An entry of the section of symbols that passes. -/
def FitsGateway (entry : String × Node) : Prop :=
  (∃ fields regex, entry.2 = .table fields ∧ fields.lookup "regex" = some regex ∧
    regex.IsStrings) ∨ (entry.1 = "regex" ∧ entry.2.IsStrings)

/-- A user's table that passes. -/
structure FitsUser (settings : Settings) (libraries : Libraries) (fields : Entries) : Prop
    extends ReadsUser settings libraries fields where
  /-- An array that is not one of strings is refused in any case. -/
  arrays : ∀ elements, fields.lookup "accounts" = some (.array elements) →
    (Node.array elements).IsStrings
  /-- Symbols are only allowed when routing by strategy. -/
  byStrategy : (fields.lookup "symbols").isSome → settings.omsRouteByStrategy = true

/-- The type that a statistics type is mapped to can be read and is not one of the usual ones. -/
def Remapped (libraries : Libraries) (fields : Entries) : Prop :=
  ∃ text mdEntryType, (fields.lookup "fix_md_entry_type").bind Node.string? = some text ∧
    libraries.mdEntryType text = some mdEntryType ∧
    mdEntryType ∉ [.undefined, .bid, .offer, .trade]

/-- The key of the type that a statistics type is mapped to is there. -/
theorem Remapped.isSome {libraries : Libraries} {fields : Entries}
    (remapped : Remapped libraries fields) :
    ((fields.lookup "fix_md_entry_type").bind Node.string?).isSome := by
  -- What is mapped was read as a string before.
  obtain ⟨text, mdEntryType, read, -⟩ := remapped
  simp [read]

/-- The table of a statistics type that passes. -/
structure FitsStatistics (settings : Settings) (libraries : Libraries) (fields : Entries) :
    Prop where
  remapped : Remapped libraries fields
  /-- Default values are only allowed with a flag. -/
  defaultValue : ∀ node, fields.lookup "default_value" = some node →
    settings.initMissingMdEntryTypeToZero = true ∧ (libraries.double? node).isSome
  keys : ∀ entry ∈ fields, entry.1 = "fix_md_entry_type" ∨ entry.1 = "default_value"

/-- The table of a broadcast that passes. -/
structure FitsBroadcast (fields : Entries) : Prop where
  exchange : readString "exchange" fields ≠ ""
  sourceRegex : readString "source_regex" fields ≠ ""
  targetsRegex : ∀ node, fields.lookup "targets_regex" = some node → node.IsStrings
  targeted : readStrings "targets_regex" fields ≠ []
  keys : ∀ entry ∈ fields, entry.1 ∈ ["exchange", "source_regex", "targets_regex"]

/-- The table of an error that passes. -/
def FitsError (libraries : Libraries) (fields : Entries) : Prop :=
  ∀ entry ∈ fields, entry.1 = "cxl_rej_reason" ∧
    ∃ value, libraries.uint32? entry.2 = some value ∧ 100 ≤ value

/-- A string that is read and not empty is there. -/
theorem isSome_of_readString {key : String} {fields : Entries}
    (nonempty : readString key fields ≠ "") :
    ((fields.lookup key).bind Node.string?).isSome := by
  -- A node that is no string reads as the empty string, which is excluded.
  unfold readString at nonempty
  cases read : (fields.lookup key).bind Node.string? with
  | none => simp [read] at nonempty
  | some text => rfl

/-- An entry of a section that passes. -/
def FitsEntry (settings : Settings) (libraries : Libraries) (key : String)
    (entry : String × Node) : Prop :=
  match key with
  | "symbols" => FitsGateway entry
  | "users" => ∃ fields, entry.2 = .table fields ∧ FitsUser settings libraries fields
  | "statistics" => (libraries.statisticsType entry.1).isSome ∧
    ∃ fields, entry.2 = .table fields ∧ FitsStatistics settings libraries fields
  | "broadcast" => ∃ fields, entry.2 = .table fields ∧ FitsBroadcast fields
  | "errors" => (∃ error, libraries.parseError entry.1 = .ok error) ∧
    ∃ fields, entry.2 = .table fields ∧ FitsError libraries fields
  | _ => True

/-- An entry of a section that is dereferenced as if it were a table, or a number. -/
def StraysEntry (settings : Settings) (libraries : Libraries) (key : String)
    (entry : String × Node) : Prop :=
  match key with
  | "users" => ∀ fields, entry.2 ≠ .table fields
  | "statistics" => (libraries.statisticsType entry.1).isSome ∧
    ∀ fields, entry.2 = .table fields → Remapped libraries fields ∧
      settings.initMissingMdEntryTypeToZero = true ∧
      ∃ node, fields.lookup "default_value" = some node ∧ libraries.double? node = none
  | "errors" => (∃ error, libraries.parseError entry.1 = .ok error) ∧
    ∀ fields, entry.2 ≠ .table fields
  | _ => False

/-- A section that passes, if it is there; two of them are required. -/
def FitsSection (settings : Settings) (libraries : Libraries) (key : String) :
    Option Node → Prop
  | none => key ∉ ["symbols", "users"]
  | some (.table entries) => ∀ entry ∈ entries, FitsEntry settings libraries key entry
  | some _ => False

/-- A section that is dereferenced as if it were a table, or an entry of which is. -/
def StraysSection (settings : Settings) (libraries : Libraries) (key : String) :
    Option Node → Prop
  | none => False
  | some (.table entries) =>
    GoesAstray (FitsEntry settings libraries key) (StraysEntry settings libraries key) entries
  -- That the section of symbols is a table is checked.
  | some _ => key ≠ "symbols"

/-- What a document has to be like for a configuration to be constructed from it. -/
structure Acceptable (settings : Settings) (libraries : Libraries) (document : Root) : Prop where
  sections : ∀ key ∈ sectionKeys,
    FitsSection settings libraries key (document.entries.lookup key)
  /-- There is no other section. -/
  keys : ∀ entry ∈ document.entries, entry.1 ∈ sectionKeys
  usernames : ((describedUsers libraries document).map User.username).Nodup
  /-- When routing by account, no two users share one. -/
  accounts : settings.omsRouteByStrategy = false →
    (((describedUsers libraries document).map User.account).filter fun account =>
      account ≠ "").Nodup

/-- The sections are read in order, up to one that is dereferenced as if it were a table. -/
def Strays (settings : Settings) (libraries : Libraries) (document : Root) : Prop :=
  GoesAstray (fun key => FitsSection settings libraries key (document.entries.lookup key))
    (fun key => StraysSection settings libraries key (document.entries.lookup key)) sectionKeys

/-- A computation that succeeds on one condition, and does something undefined on another. -/
abbrev Ends {α : Type} (result : Except Failure α) (passes astray : Prop) : Prop :=
  Judged .undefined result passes astray

/-- Ending the process is not undefined. -/
theorem Ends.fatal {α : Type} {text : String} {passes astray : Prop} (fails : ¬ passes)
    (stays : ¬ astray) : Ends (.error (.fatal text) : Except Failure α) passes astray :=
  .refused (by simp) fails stays

/-- Throwing an exception is not undefined. -/
theorem Ends.exception {α : Type} {text : String} {passes astray : Prop} (fails : ¬ passes)
    (stays : ¬ astray) : Ends (.error (.exception text) : Except Failure α) passes astray :=
  .refused (by simp) fails stays

/-- A validation passes when what it refuses is not the case. -/
theorem refuse_ends (invalid : Prop) [Decidable invalid] (text : String) :
    Ends (refuse invalid text) (¬ invalid) False := by
  -- The refusal is taken exactly when the value is invalid, and it is never undefined.
  unfold refuse
  split
  · next holds => exact .fatal (not_not.mpr holds) not_false
  · next fails => exact .ok fails not_false

/-- The check for leftovers passes when there are none. -/
theorem checkEmpty_ends (entries : Entries) :
    Ends (checkEmpty (.table entries)) (entries = []) False := by
  -- Any entry that is left over is an unknown key, and that is fatal.
  cases entries with
  | nil => exact .ok rfl not_false
  | cons entry rest => exact .fatal (by simp) not_false

/-- Getting a key passes when it is there and has the required type. -/
theorem get_ends {α : Type} (value : Node → Option α) (key : String) (entries : Entries) :
    Ends (get value key (.table entries)) ((entries.lookup key).bind value).isSome False := by
  rw [get]
  cases found : entries.lookup key with
  | none =>
    refine Ends.exception ?_ not_false
    simp
  | some node =>
    dsimp only [Option.bind_some]
    -- What is found is of the type or not.
    cases value node with
    | none =>
      refine Ends.exception ?_ not_false
      simp
    | some result => exact Judged.ok rfl not_false

/-- So does getting and removing it. -/
theorem getAndRemove_ends {α : Type} (value : Node → Option α) (key : String)
    (entries : Entries) :
    Ends (getAndRemove value key (.table entries)) ((entries.lookup key).bind value).isSome
      False := by
  rw [getAndRemove]
  cases found : entries.lookup key with
  | none =>
    refine Ends.exception ?_ not_false
    simp
  | some node =>
    dsimp only [Option.bind_some]
    -- What is found is of the type or not.
    cases value node with
    | none =>
      refine Ends.exception ?_ not_false
      simp
    | some result => exact Judged.ok rfl not_false

/-- A key that may be missing passes when it has the required type if it is there. -/
theorem maybeGetAndRemove_ends {α : Type} (missing : α) (value : Node → Option α) (key : String)
    (entries : Entries) :
    Ends (maybeGetAndRemove missing value key (.table entries))
      (∀ node, entries.lookup key = some node → (value node).isSome) False := by
  -- A missing key passes, and a present one passes when its node can be read.
  rw [maybeGetAndRemove]
  cases found : entries.lookup key with
  | none =>
    refine Judged.ok ?_ not_false
    simp
  | some node =>
    dsimp only
    cases read : value node with
    | none =>
      -- A node of another type has no value, and asking for it throws.
      refine Ends.exception ?_ not_false
      simp [read]
    | some result =>
      refine Judged.ok ?_ not_false
      simp [read]

/-- The loop over an array passes when all elements are strings. -/
theorem stringElements_ends (elements : List Node) :
    Ends (stringElements elements) (∀ element ∈ elements, ∃ value, element = .string value)
      False := by
  -- Induction on the elements; the first that is no string ends the loop.
  induction elements with
  | nil => exact Judged.ok (by simp) not_false
  | cons element rest ih =>
    cases element with
    | string value =>
      rw [stringElements]
      refine (ih.map (value :: ·)).congr ?_ Iff.rfl
      simp
    | _ =>
      refine Ends.fatal ?_ not_false
      simp

/-- Strings are read from a node that is nothing else where other nodes are refused. -/
theorem strings_ends (text : String) (node : Node) :
    Ends (strings (.error (.fatal text)) node) node.IsStrings False := by
  -- A string and an array are read, and everything else has the failure for an answer.
  cases node with
  | string value => exact Judged.ok (Or.inl ⟨value, rfl⟩) not_false
  | array elements =>
    refine (stringElements_ends elements).congr ?_ Iff.rfl
    simp [Node.IsStrings]
  | _ =>
    refine Ends.fatal ?_ not_false
    simp [Node.IsStrings]

/-- Where other nodes are passed over, an array that is not one of strings is still refused. -/
theorem strings_ends_of_ok (values : List String) (node : Node) :
    Ends (strings (.ok values) node) (∀ elements, node = .array elements → node.IsStrings)
      False := by
  -- Here everything else has an answer, so that only an array can be refused.
  cases node with
  | array elements =>
    refine (stringElements_ends elements).congr ?_ Iff.rfl
    simp [Node.IsStrings]
  | _ =>
    refine Judged.ok ?_ not_false
    simp

/-- The accounts of a user pass as strings, or as anything but another array by account. -/
theorem parseAccounts2_ends (settings : Settings) (key : String) (entries : Entries) :
    Ends (parseAccounts2 settings key (.table entries))
      ((∀ node, entries.lookup key = some node →
          node.IsStrings ∨ settings.omsRouteByStrategy = false) ∧
        ∀ elements, entries.lookup key = some (.array elements) →
          (Node.array elements).IsStrings) False := by
  -- The settings decide what becomes of a node that is neither a string nor an array.
  rw [parseAccounts2, findAndRemove_table]
  cases found : entries.lookup key with
  | none =>
    refine Judged.ok ?_ not_false
    simp
  | some node =>
    dsimp only
    simp only [Option.some_inj, forall_eq']
    cases routed : settings.omsRouteByStrategy with
    -- By strategy the node has to be strings, which covers the condition on arrays.
    | true =>
      refine ((strings_ends _ node).map _).congr ?_ Iff.rfl
      simp only [Bool.true_eq_false, or_false, iff_self_and]
      intro strings elements same
      exact same ▸ strings
    -- By account the elements of an array are read all the same, and must be strings.
    | false =>
      refine ((strings_ends_of_ok [] node).map _).congr ?_ Iff.rfl
      simp only [or_true, true_and]
      refine forall_congr' fun elements => forall_congr' fun same => ?_
      rw [same]

/-- The symbols of a user pass as strings, when routing by strategy. -/
theorem parseSymbols2_ends (settings : Settings) (key : String) (entries : Entries) :
    Ends (parseSymbols2 settings key (.table entries))
      ((∀ node, entries.lookup key = some node → node.IsStrings) ∧
        ((entries.lookup key).isSome → settings.omsRouteByStrategy = true)) False := by
  -- A missing key passes under either setting.
  rw [parseSymbols2, findAndRemove_table]
  cases found : entries.lookup key with
  | none =>
    refine Judged.ok ?_ not_false
    simp
  | some node =>
    dsimp only
    cases routed : settings.omsRouteByStrategy with
    -- Symbols belong to routing by strategy, and are fatal without it.
    | true =>
      refine ((strings_ends _ node).map _).congr ?_ Iff.rfl
      simp
    | false =>
      refine Ends.fatal ?_ not_false
      simp

/-- The targets of a broadcast pass as strings. -/
theorem parseSymbols3_ends (key : String) (entries : Entries) :
    Ends (parseSymbols3 key (.table entries))
      (∀ node, entries.lookup key = some node → node.IsStrings) False := by
  -- No setting is asked for, and only the type of the node decides.
  rw [parseSymbols3, findAndRemove_table]
  cases found : entries.lookup key with
  | none =>
    refine Judged.ok ?_ not_false
    simp
  | some node =>
    refine ((strings_ends _ node).map _).congr ?_ Iff.rfl
    simp

/-- What passes for a user's table, in the order in which it is looked at. -/
theorem fitsUser_iff {settings : Settings} {libraries : Libraries} {fields : Entries} :
    FitsUser settings libraries fields ↔
      ((fields.lookup "component").bind Node.string?).isSome ∧
      ((fields.lookup "username").bind Node.string?).isSome ∧
      (∀ node, fields.lookup "password" = some node → node.string?.isSome) ∧
      (∀ node, fields.lookup "strategy_id" = some node → (libraries.uint32? node).isSome) ∧
      (∀ node, fields.lookup "account" = some node → node.string?.isSome) ∧
      ((∀ node, fields.lookup "accounts" = some node →
          node.IsStrings ∨ settings.omsRouteByStrategy = false) ∧
        ∀ elements, fields.lookup "accounts" = some (.array elements) →
          (Node.array elements).IsStrings) ∧
      ((∀ node, fields.lookup "symbols" = some node → node.IsStrings) ∧
        ((fields.lookup "symbols").isSome → settings.omsRouteByStrategy = true)) ∧
      ¬ (readString "username" fields = "" ∨
        (settings.omsRouteByStrategy = true ∧ readString "account" fields ≠ "")) ∧
      ∀ entry ∈ fields, entry.1 ∈ userKeys := by
  -- The fields of the structure and the conjunction of what the steps ask, in their order.
  constructor
  · intro fits
    refine ⟨fits.component, fits.username, fits.password, fits.strategyId, fits.account,
      ⟨fits.accounts, fits.arrays⟩, ⟨fits.symbols, fits.byStrategy⟩, ?_, fits.keys⟩
    -- The two conditions of the last refusal are separate fields.
    intro invalid
    rcases invalid with unnamed | ⟨byStrategy, accounted⟩
    · exact fits.named unnamed
    · exact accounted (fits.unaccounted byStrategy)
  · intro all
    obtain ⟨component, username, password, strategyId, account, ⟨accounts, arrays⟩,
      ⟨symbols, byStrategy⟩, valid, keys⟩ := all
    obtain ⟨named, unaccounted⟩ := not_or.mp valid
    exact { component, username, password, strategyId, account, accounts, symbols, keys, named,
            unaccounted := fun routed => not_not.mp fun accounted => unaccounted ⟨routed, accounted⟩
            arrays, byStrategy }

/-- A user's table passes when nothing in it is amiss. -/
theorem parseUser_ends (settings : Settings) (libraries : Libraries) (key : String)
    (userId : UInt16) (entries : Entries) :
    Ends (parseUser settings libraries key userId (.table entries))
      (FitsUser settings libraries entries) False := by
  -- Each step is judged on the entries that the steps before have left, in their order.
  unfold parseUser
  apply Judged.congr
  · apply Judged.bind_never (getAndRemove_ends _ _ _)
    intro component first
    obtain ⟨component, table⟩ := component
    obtain ⟨isComponent, rfl⟩ := getAndRemove_ok first
    apply Judged.bind_never (getAndRemove_ends _ _ _)
    intro username second
    obtain ⟨username, table⟩ := username
    obtain ⟨isUsername, rfl⟩ := getAndRemove_ok second
    apply Judged.bind_never (maybeGetAndRemove_ends _ _ _ _)
    intro password third
    obtain ⟨password, table⟩ := password
    obtain ⟨-, -, rfl⟩ := maybeGetAndRemove_ok third
    apply Judged.bind_never (maybeGetAndRemove_ends _ _ _ _)
    intro strategyId fourth
    obtain ⟨strategyId, table⟩ := strategyId
    obtain ⟨-, -, rfl⟩ := maybeGetAndRemove_ok fourth
    apply Judged.bind_never (maybeGetAndRemove_ends _ _ _ _)
    intro account fifth
    obtain ⟨account, table⟩ := account
    obtain ⟨isAccount, -, rfl⟩ := maybeGetAndRemove_ok fifth
    apply Judged.bind_never (parseAccounts2_ends _ _ _)
    intro accounts sixth
    obtain ⟨accounts, table⟩ := accounts
    obtain ⟨-, rfl, -⟩ := parseAccounts2_ok sixth
    apply Judged.bind_never (parseSymbols2_ends _ _ _)
    intro symbols seventh
    obtain ⟨symbols, table⟩ := symbols
    obtain ⟨-, rfl, -⟩ := parseSymbols2_ok seventh
    -- The names that the last checks look at are the ones of the document: the removals
    -- before took away other keys.
    clear first second third fourth fifth sixth seventh
    simp (disch := decide) only [lookup_remove] at isUsername isAccount
    have named : username = readString "username" entries := by simp [readString, isUsername]
    have accounted : account = readString "account" entries := isAccount
    -- Only a refusal and the check for unknown keys are left.
    rw [named, accounted]
    exact (refuse_ends _ _).bind_never fun _ _ => (checkEmpty_ends _).map _
  · -- What the steps ask of the shrinking table is what the structure asks of the fields.
    simp (disch := decide) only [lookup_remove]
    rw [fitsUser_iff]
    -- Nothing is left over exactly when every key is one of a user.
    have consumed : remove "symbols" (remove "accounts" (remove "account" (remove "strategy_id"
        (remove "password" (remove "username" (remove "component" entries)))))) = [] ↔
          ∀ entry ∈ entries, entry.1 ∈ userKeys := foldl_remove_eq_nil userKeys entries
    rw [consumed]
  · exact Iff.rfl

/-- The users pass when all their tables do; the first other entry is dereferenced as a table. -/
theorem parseEachUser_ends (settings : Settings) (libraries : Libraries) (entries : Entries)
    (result : Table String User) :
    Ends (parseEachUser settings libraries entries result)
      (∀ entry ∈ entries, FitsEntry settings libraries "users" entry)
      (GoesAstray (FitsEntry settings libraries "users") (StraysEntry settings libraries "users")
        entries) := by
  -- One entry is judged at a time, and the later ones whatever the table is by then.
  refine Judged.loop (fun state => ⟨state, rfl⟩) ?_ result
  intro entry member rest result passes astray later
  obtain ⟨key, node⟩ := entry
  cases node with
  | table fields =>
    rw [parseEachUser]
    refine ((parseUser_ends settings libraries key _ fields).bind fun user _ => later _).congr
      ?_ ?_
    · simp [FitsEntry]
    · simp [FitsEntry, StraysEntry]
  -- An entry that is no table is dereferenced without a check.
  | _ =>
    refine Judged.strayed ?_ ?_
    · simp [FitsEntry]
    · simp [StraysEntry]

/-- Patterns are subscribed to when they are strings. -/
theorem parseGateway_ends (gateway : String) (node : Node) (symbols : Symbols) :
    Ends (parseGateway gateway node symbols) (FitsGateway (gateway, node)) False := by
  -- A gateway is a table with the expressions in `regex`, or the expressions themselves.
  unfold parseGateway
  split
  · next entries =>
    cases found : entries.lookup "regex" with
    | none =>
      refine Ends.fatal ?_ not_false
      simp [FitsGateway, found, Node.IsStrings]
    | some regex =>
      refine ((strings_ends _ regex).map _).congr ?_ Iff.rfl
      simp [FitsGateway, found, Node.IsStrings]
  · -- Without a table the node has to be the expressions themselves.
    next other =>
    have noTable : ∀ fields, node ≠ .table fields := other
    split
    · next named =>
      refine ((strings_ends _ node).map _).congr ?_ Iff.rfl
      simp [FitsGateway, noTable, named]
    · next unnamed =>
      refine Ends.fatal ?_ not_false
      simp [FitsGateway, noTable, unnamed]

/-- The symbols pass when all their entries do, and all of them are checked. -/
theorem parseGateways_ends (gateways : Entries) (symbols : Symbols) :
    Ends (parseGateways gateways symbols) (∀ entry ∈ gateways, FitsGateway entry)
      (GoesAstray FitsGateway (fun _ => False) gateways) := by
  -- A gateway never strays, and the loop judges one after the other.
  refine Judged.loop (fun state => ⟨state, rfl⟩) ?_ symbols
  intro entry member rest symbols passes astray later
  exact (parseGateway_ends _ _ _).bind fun next _ => later next

/-- A statistics type is mapped when the type that it is mapped to is an allowed one. -/
theorem mapMdEntryType_ends (libraries : Libraries) (value : String) :
    Ends (mapMdEntryType libraries value) (∃ mdEntryType,
      libraries.mdEntryType value = some mdEntryType ∧
        mdEntryType ∉ [.undefined, .bid, .offer, .trade]) False := by
  -- A name of the enumeration passes, unless it is one that has its own meaning.
  unfold mapMdEntryType
  cases mapped : libraries.mdEntryType value with
  | none =>
    refine Ends.fatal ?_ not_false
    simp
  | some mdEntryType =>
    cases mdEntryType with
    | other value =>
      refine Judged.ok ?_ not_false
      simp
    | _ =>
      refine Ends.fatal ?_ not_false
      simp

/-- A default value passes as a number where it is allowed, and is dereferenced as one. -/
theorem parseDefaultValue_ends (settings : Settings) (libraries : Libraries)
    (type : StatisticsType) (defaultValues : Table StatisticsType UInt64) (found : Option Node) :
    Ends (parseDefaultValue settings libraries type defaultValues found)
      (∀ node, found = some node →
        settings.initMissingMdEntryTypeToZero = true ∧ (libraries.double? node).isSome)
      (settings.initMissingMdEntryTypeToZero = true ∧
        ∃ node, found = some node ∧ libraries.double? node = none) := by
  -- A missing value passes, and a present one needs the flag first.
  cases found with
  | none =>
    refine Judged.ok ?_ ?_
    · simp
    · simp
  | some node =>
    rw [parseDefaultValue]
    cases allowed : settings.initMissingMdEntryTypeToZero with
    | false =>
      refine Ends.fatal ?_ ?_
      · simp
      · simp
    | true =>
      rw [if_pos rfl]
      -- With the flag set the number is dereferenced without a check.
      cases read : libraries.double? node with
      | none =>
        refine Judged.strayed ?_ ?_
        · simp [read]
        · simp [read]
      | some value =>
        refine Judged.ok ?_ ?_
        · simp [read]
        · simp [read]

/-- The table of a statistics type passes when nothing in it is amiss. -/
theorem parseStatisticsType_ends (settings : Settings) (libraries : Libraries)
    (type : StatisticsType) {fields : Entries} (nodup : (fields.map Prod.fst).Nodup)
    (result : Statistics) :
    Ends (parseStatisticsType settings libraries type (.table fields) result)
      (FitsStatistics settings libraries fields)
      (Remapped libraries fields ∧ settings.initMissingMdEntryTypeToZero = true ∧
        ∃ node, fields.lookup "default_value" = some node ∧ libraries.double? node = none) := by
  simp only [parseStatisticsType, findAndRemove_table]
  -- What the type is mapped to is decided by the text that is read from the table.
  have remapped : ∀ value, get Node.string? "fix_md_entry_type" (.table fields) = .ok value →
      Ends (mapMdEntryType libraries value) (Remapped libraries fields) False := by
    intro value got
    refine (mapMdEntryType_ends libraries value).congr ?_ Iff.rfl
    have read := get_ok got
    simp [Remapped, read]
  apply Judged.congr
  · apply Judged.bind (get_ends _ _ _)
    intro value got
    apply Judged.bind (remapped value got)
    intro mdEntryType _
    apply Judged.bind (parseDefaultValue_ends _ _ _ _ _)
    intro defaultValues _
    -- The number of entries that are left is checked last.
    show Ends _ (∃ entry, remove "default_value" fields = [entry]) False
    rcases remove "default_value" fields with _ | ⟨entry, _ | ⟨other, rest⟩⟩
    · refine Ends.fatal ?_ not_false
      simp
    · exact Judged.ok ⟨entry, rfl⟩ not_false
    · refine Ends.fatal ?_ not_false
      simp
  · have single := fun present => @remove_eq_singleton fields "default_value"
      "fix_md_entry_type" nodup present (by decide)
    constructor
    · intro passes
      obtain ⟨present, isRemapped, defaultValue, counted⟩ := passes
      have there := Option.isSome_of_isSome_bind present
      exact ⟨isRemapped, defaultValue, (single there).mp counted⟩
    · intro fits
      have present := fits.remapped.isSome
      have there := Option.isSome_of_isSome_bind present
      exact ⟨present, fits.remapped, fits.defaultValue, (single there).mpr fits.keys⟩
  · constructor
    · intro strays
      -- Only the default value can be dereferenced, after everything before it has passed.
      rcases strays with never | ⟨-, never | ⟨isRemapped, dereferenced | ⟨-, never⟩⟩⟩
      · exact never.elim
      · exact never.elim
      · exact ⟨isRemapped, dereferenced⟩
      · exact never.elim
    · intro strays
      exact Or.inr ⟨strays.1.isSome, Or.inr ⟨strays.1, Or.inl strays.2⟩⟩

/-- The statistics pass when all types and their tables do. -/
theorem parseEachStatistics_ends (settings : Settings) (libraries : Libraries) {entries : Entries}
    (keyed : (Node.table entries).Keyed) (result : Statistics) :
    Ends (parseEachStatistics settings libraries entries result)
      (∀ entry ∈ entries, FitsEntry settings libraries "statistics" entry)
      (GoesAstray (FitsEntry settings libraries "statistics")
        (StraysEntry settings libraries "statistics") entries) := by
  -- One section is judged at a time, after its name is known to be a type.
  refine Judged.loop (fun state => ⟨state, rfl⟩) ?_ result
  intro entry member rest result passes astray later
  have keyed := keyed.of_mem member
  obtain ⟨key, node⟩ := entry
  rw [parseEachStatistics]
  cases known : libraries.statisticsType key with
  | none =>
    refine Ends.fatal ?_ ?_
    · simp [FitsEntry, known]
    · simp [FitsEntry, StraysEntry, known]
  | some type =>
    cases node with
    | table fields =>
      refine ((parseStatisticsType_ends settings libraries type keyed.nodup result).bind
        fun next _ => later next).congr ?_ ?_
      · simp [FitsEntry, known]
      · simp [FitsEntry, StraysEntry, known]
    -- A known type whose section is no table is dereferenced without a check.
    | _ =>
      refine Judged.strayed ?_ ?_
      · simp [FitsEntry]
      · simp [StraysEntry, known]

/-- A broadcast passes when nothing in its table is amiss. -/
theorem parseBroadcastNode_ends (key : String) (node : Node) :
    Ends (parseBroadcastNode key node) (∃ fields, node = .table fields ∧ FitsBroadcast fields)
      False := by
  -- The first of the steps throws for a node that is no table.
  cases node with
  | table fields =>
    unfold parseBroadcastNode
    apply Judged.congr
    · -- Each step is judged on the entries that the steps before have left, in their order.
      apply Judged.bind_never (getAndRemove_ends _ _ _)
      intro exchange first
      obtain ⟨exchange, table⟩ := exchange
      obtain ⟨isExchange, rfl⟩ := getAndRemove_ok first
      apply Judged.bind_never (getAndRemove_ends _ _ _)
      intro sourceRegex second
      obtain ⟨sourceRegex, table⟩ := sourceRegex
      obtain ⟨isSourceRegex, rfl⟩ := getAndRemove_ok second
      apply Judged.bind_never (parseSymbols3_ends _ _)
      intro targetsRegex third
      obtain ⟨targetsRegex, table⟩ := targetsRegex
      obtain ⟨isTargetsRegex, rfl, -⟩ := parseSymbols3_ok third
      clear first second third
      simp (disch := decide) only [lookup_remove, readStrings] at isSourceRegex isTargetsRegex
      -- What the steps have read is what the document says under the three keys.
      have fromExchange : exchange = readString "exchange" fields := by
        simp [readString, isExchange]
      have fromSource : sourceRegex = readString "source_regex" fields := by
        simp [readString, isSourceRegex]
      have targeted : targetsRegex = readStrings "targets_regex" fields := isTargetsRegex
      rw [fromExchange, fromSource, targeted]
      exact (refuse_ends _ _).bind_never fun _ _ => (checkEmpty_ends _).map _
    · simp (disch := decide) only [lookup_remove]
      -- Nothing is left over exactly when every key is one of the three.
      have consumed : remove "targets_regex" (remove "source_regex" (remove "exchange" fields)) =
          [] ↔ ∀ entry ∈ fields, entry.1 ∈ ["exchange", "source_regex", "targets_regex"] :=
        foldl_remove_eq_nil ["exchange", "source_regex", "targets_regex"] fields
      rw [consumed]
      constructor
      · -- The refusal of an empty value is three conditions of the structure.
        intro passes
        obtain ⟨-, -, targets, valid, keys⟩ := passes
        obtain ⟨exchange, rest⟩ := not_or.mp valid
        obtain ⟨sourceRegex, targeted⟩ := not_or.mp rest
        exact ⟨fields, rfl, exchange, sourceRegex, targets, targeted, keys⟩
      · -- A value that is not empty was there to be read.
        intro fits
        obtain ⟨others, same, fits⟩ := fits
        cases same
        refine ⟨isSome_of_readString fits.exchange, isSome_of_readString fits.sourceRegex,
          fits.targetsRegex, ?_, fits.keys⟩
        exact not_or.mpr ⟨fits.exchange, not_or.mpr ⟨fits.sourceRegex, fits.targeted⟩⟩
    · exact Iff.rfl
  | _ =>
    refine Ends.exception ?_ not_false
    simp

/-- The broadcasts pass when all of them do, and all of them are checked. -/
theorem parseEachBroadcast_ends (settings : Settings) (libraries : Libraries) (entries : Entries)
    (result : Table String Broadcast) :
    Ends (parseEachBroadcast entries result)
      (∀ entry ∈ entries, FitsEntry settings libraries "broadcast" entry)
      (GoesAstray (FitsEntry settings libraries "broadcast")
        (StraysEntry settings libraries "broadcast") entries) := by
  -- A broadcast never strays, and the loop judges one after the other.
  refine Judged.loop (fun state => ⟨state, rfl⟩) ?_ result
  intro entry member rest result passes astray later
  exact (parseBroadcastNode_ends _ _).bind fun broadcast _ => later _

/-- The reasons of an error pass when nothing in its table is amiss. -/
theorem parseReasons_ends (libraries : Libraries) (error : Error) (entries : Entries)
    (result : CxlRejReasons) :
    Ends (parseReasons libraries error entries result) (FitsError libraries entries) False := by
  -- Induction on the entries; each has to be a number, at least 100, under `cxl_rej_reason`.
  induction entries generalizing result with
  | nil =>
    refine Judged.ok ?_ not_false
    simp [FitsError]
  | cons entry rest ih =>
    obtain ⟨key, node⟩ := entry
    rw [parseReasons]
    cases read : libraries.uint32? node with
    | none =>
      refine Ends.exception ?_ not_false
      simp [FitsError, read]
    | some value =>
      -- The number is checked before the name of the key is.
      dsimp only
      split
      · next small =>
        refine Ends.fatal ?_ not_false
        simp [FitsError, read, UInt32.not_le.mpr small]
      · next large =>
        split
        · next named =>
          refine (ih _).congr ?_ Iff.rfl
          simp [FitsError, read, named, UInt32.not_lt.mp large]
        · next other =>
          refine Ends.fatal ?_ not_false
          simp [FitsError, other]

/-- The errors pass when all of them and their tables do. -/
theorem parseEachError_ends (settings : Settings) (libraries : Libraries) (entries : Entries)
    (result : CxlRejReasons) :
    Ends (parseEachError libraries entries result)
      (∀ entry ∈ entries, FitsEntry settings libraries "errors" entry)
      (GoesAstray (FitsEntry settings libraries "errors") (StraysEntry settings libraries "errors")
        entries) := by
  -- One section is judged at a time, after its name is known to be an error.
  refine Judged.loop (fun state => ⟨state, rfl⟩) ?_ result
  intro entry member rest result passes astray later
  obtain ⟨key, node⟩ := entry
  rw [parseEachError]
  cases known : libraries.parseError key with
  | error text =>
    refine Ends.exception ?_ ?_
    · simp [FitsEntry, known]
    · simp [FitsEntry, StraysEntry, known]
  | ok error =>
    cases node with
    | table fields =>
      refine ((parseReasons_ends libraries error fields result).bind fun next _ =>
        later next).congr ?_ ?_
      · simp [FitsEntry, known]
      · simp [FitsEntry, StraysEntry, known]
    -- A known error whose section is no table is dereferenced without a check.
    | _ =>
      refine Judged.strayed ?_ ?_
      · simp [FitsEntry]
      · simp [StraysEntry, known]

/-- The section of symbols passes when it is there, is a table, and its entries pass. -/
theorem parseSymbols_ends (settings : Settings) (libraries : Libraries) (entries : Entries) :
    Ends (parseSymbols entries)
      (FitsSection settings libraries "symbols" (entries.lookup "symbols"))
      (StraysSection settings libraries "symbols" (entries.lookup "symbols")) := by
  -- The section is required and has to be a table; its entries never stray.
  rw [parseSymbols]
  cases found : entries.lookup "symbols" with
  | none =>
    refine Ends.fatal ?_ ?_
    · simp [FitsSection]
    · simp [StraysSection]
  | some node =>
    cases node with
    | table gateways => exact (parseGateways_ends gateways ∅).map _
    | _ =>
      refine Ends.fatal ?_ ?_
      · simp [FitsSection]
      · simp [StraysSection]

/-- The section of users passes when it is there and its entries pass. -/
theorem parseUsers_ends (settings : Settings) (libraries : Libraries) (entries : Entries) :
    Ends (parseUsers settings libraries (.table entries))
      (FitsSection settings libraries "users" (entries.lookup "users"))
      (StraysSection settings libraries "users" (entries.lookup "users")) := by
  -- The section is required, and its users are numbered from an empty table on.
  rw [parseUsers, findAndRemove_table]
  cases found : entries.lookup "users" with
  | none =>
    refine Ends.fatal ?_ ?_
    · simp [FitsSection]
    · simp [StraysSection]
  | some node =>
    cases node with
    | table users => exact (parseEachUser_ends settings libraries users ∅).map _
    -- A section that is no table is dereferenced without a check.
    | _ =>
      refine Judged.strayed ?_ ?_
      · simp [FitsSection]
      · simp [StraysSection]

/-- A section that may be missing passes when its entries do, and is dereferenced as a table. -/
theorem parseSection_ends {α : Type} (settings : Settings) (libraries : Libraries) {key : String}
    (optional : key ∉ ["symbols", "users"]) (missing : α) {parse : Entries → Except Failure α}
    {entries : Entries} (judged : ∀ inner, entries.lookup key = some (.table inner) →
      Ends (parse inner) (∀ entry ∈ inner, FitsEntry settings libraries key entry)
        (GoesAstray (FitsEntry settings libraries key) (StraysEntry settings libraries key)
          inner)) :
    Ends (parseSection key missing parse (.table entries))
      (FitsSection settings libraries key (entries.lookup key))
      (StraysSection settings libraries key (entries.lookup key)) := by
  -- A missing section has a default, which only these sections have.
  have other : key ≠ "symbols" := fun same => optional (same ▸ List.mem_cons_self)
  rw [parseSection, findAndRemove_table]
  cases found : entries.lookup key with
  | none => exact Judged.ok optional not_false
  | some node =>
    cases node with
    | table inner => exact (judged inner found).map _
    -- A section that is no table is dereferenced, which `symbols` is not.
    | _ => exact Judged.strayed not_false other

/-- Names pass when they differ from each other and from those already collected. -/
theorem checkUnique_ends (text : String → String) (list : List String) (names : KeySet String) :
    Ends (checkUnique text list names) (list.Nodup ∧ ∀ name ∈ list, name ∉ names) False := by
  induction list generalizing names with
  | nil =>
    refine Judged.ok ?_ not_false
    simp
  | cons name rest ih =>
    simp only [checkUnique, AList.add_snd, decide_not, Bool.not_not, decide_eq_true_eq]
    split
    · next present =>
      refine Ends.fatal ?_ not_false
      simp [present]
    · next fresh =>
      refine (ih _).congr ?_ Iff.rfl
      -- The name joins the collected ones, from which the later names must differ.
      simp only [List.nodup_cons, List.forall_mem_cons, AList.mem_add, not_or]
      constructor
      · intro later
        obtain ⟨nodup, unlike⟩ := later
        exact ⟨⟨fun repeated => (unlike name repeated).1 rfl, nodup⟩, fresh,
          fun other member => (unlike other member).2⟩
      · intro all
        obtain ⟨⟨unrepeated, nodup⟩, -, unlike⟩ := all
        refine ⟨nodup, fun other member => ⟨fun same => ?_, unlike other member⟩⟩
        exact unrepeated (same ▸ member)

/-- The usernames pass when the document describes no two users with the same one. -/
theorem checkUniqueUsernames_ends {libraries : Libraries} {document : Root}
    {users : Table String User}
    (described : users.values.Perm (describedUsers libraries document)) (order : List String) :
    Ends (checkUniqueUsernames order users)
      ((describedUsers libraries document).map User.username).Nodup False := by
  -- The walk visits every value once, in some order, and repetition has no order.
  have walked := ((AList.walk_values_perm order users).trans described).map User.username
  rw [List.map_map] at walked
  exact (checkUnique_ends _ _ _).congr ((and_iff_left (by simp)).trans walked.nodup_iff) Iff.rfl

/-- So do the accounts, of which only those that are set are compared. -/
theorem checkUniqueAccounts_ends {libraries : Libraries} {document : Root}
    {users : Table String User}
    (described : users.values.Perm (describedUsers libraries document)) (order : List String) :
    Ends (checkUniqueAccounts order users)
      (((describedUsers libraries document).map User.account).filter fun account =>
        account ≠ "").Nodup False := by
  -- The walk visits every value once, and the filter keeps the accounts that are not empty.
  have walked := (((AList.walk_values_perm order users).trans described).map User.account).filter
    fun account => account ≠ ""
  rw [List.map_map] at walked
  exact (checkUnique_ends _ _ _).congr ((and_iff_left (by simp)).trans walked.nodup_iff) Iff.rfl

/-- A configuration is constructed exactly from an acceptable document, unless a document strays. -/
theorem create_ends (settings : Settings) (libraries : Libraries) (order : List String)
    (document : Root) :
    Ends (create settings libraries order document) (Acceptable settings libraries document)
      (Strays settings libraries document) := by
  unfold create
  apply Judged.congr
  · apply Judged.bind (parseSymbols_ends settings libraries _)
    intro symbols first
    obtain ⟨symbols, table⟩ := symbols
    obtain ⟨-, rfl⟩ := parseSymbols_ok first
    apply Judged.bind (parseUsers_ends settings libraries _)
    intro users second
    obtain ⟨users, table⟩ := users
    obtain ⟨⟨entries, found, looped⟩, rfl⟩ := parseUsers_ok second
    rw [lookup_remove (by decide)] at found
    have described := describedUsers_perm found looped
    have keyed : ∀ {key inner}, document.entries.lookup key = some (.table inner) →
        (Node.table inner).Keyed := fun located => document.keyed.of_mem (mem_of_lookup located)
    apply Judged.bind (parseSection_ends settings libraries (by decide) _ ?_)
    · intro statistics third
      obtain ⟨statistics, table⟩ := statistics
      obtain ⟨-, rfl⟩ := parseSection_ok third
      apply Judged.bind (parseSection_ends settings libraries (by decide) _ fun inner _ =>
        parseEachBroadcast_ends settings libraries inner _)
      intro broadcast fourth
      obtain ⟨broadcast, table⟩ := broadcast
      obtain ⟨-, rfl⟩ := parseSection_ok fourth
      apply Judged.bind (parseSection_ends settings libraries (by decide) _ fun inner _ =>
        parseEachError_ends settings libraries inner _)
      intro errors fifth
      obtain ⟨errors, table⟩ := errors
      obtain ⟨-, rfl⟩ := parseSection_ok fifth
      -- What is left over is looked at before the users are compared with each other.
      apply Judged.bind_never (checkEmpty_ends _)
      intro _ _
      apply Judged.bind_never (checkUniqueUsernames_ends described order)
      intro _ _
      show Ends _ (settings.omsRouteByStrategy = false →
        (((describedUsers libraries document).map User.account).filter fun account =>
          account ≠ "").Nodup) False
      dsimp only
      -- The accounts are compared when routing by account only.
      cases routed : settings.omsRouteByStrategy with
      | true => exact Judged.ok (by simp) not_false
      | false =>
        refine ((checkUniqueAccounts_ends described order).map _).congr ?_ Iff.rfl
        simp
    · intro inner located
      simp (disch := decide) only [lookup_remove] at located
      exact parseEachStatistics_ends settings libraries (keyed located) _
  · simp (disch := decide) only [lookup_remove]
    have consumed : remove "errors" (remove "broadcast" (remove "statistics" (remove "users"
        (remove "symbols" document.entries)))) = [] ↔
          ∀ entry ∈ document.entries, entry.1 ∈ sectionKeys :=
      foldl_remove_eq_nil sectionKeys document.entries
    rw [consumed]
    constructor
    · intro passes
      obtain ⟨symbols, users, statistics, broadcast, errors, keys, usernames, accounts⟩ := passes
      refine ⟨?_, keys, usernames, accounts⟩
      simp only [sectionKeys, List.forall_mem_cons]
      exact ⟨symbols, users, statistics, broadcast, errors, by simp⟩
    · intro acceptable
      have sections := acceptable.sections
      simp only [sectionKeys, List.forall_mem_cons] at sections
      obtain ⟨symbols, users, statistics, broadcast, errors, -⟩ := sections
      exact ⟨symbols, users, statistics, broadcast, errors, acceptable.keys, acceptable.usernames,
        acceptable.accounts⟩
  · simp (disch := decide) only [lookup_remove]
    simp only [Strays, sectionKeys, GoesAstray.cons, GoesAstray.nil, and_false, or_false]

end Config

end FixBridge
