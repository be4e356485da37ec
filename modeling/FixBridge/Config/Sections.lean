import FixBridge.Config.Parse

/-! The sections of a configuration document, each of which has a parser of its own. -/

namespace FixBridge

namespace Config

open Document

/-- The patterns of every gateway. -/
abbrev Symbols := Table String (KeySet String)

/-- Emplacing the patterns of a gateway, whose set a subscript creates for the first of them. -/
def subscribe (gateway : String) : List String → Symbols → Symbols
  | [], symbols => symbols
  | regex :: rest, symbols =>
    subscribe gateway rest (symbols.insert gateway ((symbols.at_ gateway).add regex).1)

/-- The body of the loop of `parse_symbols`. -/
def parseGateway (gateway : String) (node : Node) (symbols : Symbols) : Except Failure Symbols :=
  match node with
  | .table entries =>
    match entries.lookup "regex" with
    | none => .error (.fatal s!"expected symbols.{gateway} to contain regex")
    | some regex => do
      let regexes ← strings (.error (.fatal "expected string or array")) regex
      return subscribe gateway regexes symbols
  | node =>
    -- A key that is not a gateway holds the patterns that apply to all of them.
    if gateway = "regex" then do
      let regexes ← strings (.error (.fatal "expected symbols.regex to be string or list")) node
      return subscribe "" regexes symbols
    else .error (.fatal s!"expected symbols.{gateway} to be a table")

/-- The loop of `parse_symbols`. -/
def parseGateways : Entries → Symbols → Except Failure Symbols
  | [], symbols => .ok symbols
  | (gateway, node) :: rest, symbols => do
    let symbols ← parseGateway gateway node symbols
    parseGateways rest symbols

/-- `parse_symbols`. -/
def parseSymbols (table : Entries) : Except Failure (Symbols × Entries) :=
  match table.lookup "symbols" with
  | none => .error (.fatal "No symbols")
  | some (.table gateways) => do
    let symbols ← parseGateways gateways ∅
    -- The section is erased as a whole, with everything that was not looked at.
    return (symbols, remove "symbols" table)
  | some _ => .error (.fatal "expected symbols to be a table")

/-- The body of the loop of `parse_users`, for a node that is a table. -/
def parseUser (settings : Settings) (libraries : Libraries) (key : String) (userId : UInt16)
    (table : Node) : Except Failure User := do
  let (component, table) ← getAndRemove Node.string? "component" table
  let (username, table) ← getAndRemove Node.string? "username" table
  let (password, table) ← maybeGetAndRemove "" Node.string? "password" table
  let (strategyId, table) ← maybeGetAndRemove 0 libraries.uint32? "strategy_id" table
  let (account, table) ← maybeGetAndRemove "" Node.string? "account" table
  let (accountsRegex, table) ← parseAccounts2 settings "accounts" table
  let (symbolsRegex, table) ← parseSymbols2 settings "symbols" table
  -- A username is required, and an account is not allowed when routing by strategy.
  refuse (username = "" ∨ (settings.omsRouteByStrategy = true ∧ account ≠ ""))
    s!"Unexpected: 'users.{key}' is incomplete"
  checkEmpty table
  return { userId, component, username, password, strategyId, account, accountsRegex,
           symbolsRegex }

/-- The loop of `parse_users`. -/
def parseEachUser (settings : Settings) (libraries : Libraries) :
    Entries → Table String User → Except Failure (Table String User)
  | [], result => .ok result
  | (key, .table entries) :: rest, result => do
    let userId := UInt16.ofNat (result.keys.length + 1)
    let user ← parseUser settings libraries key userId (.table entries)
    parseEachUser settings libraries rest (result.emplace key user).1
  -- The result of `as_table` is dereferenced without a check.
  | _ :: _, _ => .error .undefined

/-- `parse_users`. -/
def parseUsers (settings : Settings) (libraries : Libraries) (table : Node) :
    Except Failure (Table String User × Node) :=
  match findAndRemove "users" table with
  | (some (.table entries), table) => do
    let users ← parseEachUser settings libraries entries ∅
    return (users, table)
  | (some _, _) => .error .undefined
  | (none, _) => .error (.fatal "Unexpected: did not find the \"users\" table")

/-- What the parsers of the sections that may be missing have in common. -/
def parseSection {α : Type} (key : String) (missing : α) (parse : Entries → Except Failure α)
    (table : Node) : Except Failure (α × Node) :=
  match findAndRemove key table with
  | (none, table) => .ok (missing, table)
  | (some (.table entries), table) => do
    let result ← parse entries
    return (result, table)
  -- The result of `as_table` is dereferenced without a check.
  | (some _, _) => .error .undefined

/-- The members of `Config` that `parse_statistics` writes to. -/
structure Statistics where
  /-- `statistics`. -/
  types : Table StatisticsType MDEntryType
  defaultValues : Table StatisticsType UInt64

/-- The type that a statistics type is mapped to, which must not be one of the usual ones. -/
def mapMdEntryType (libraries : Libraries) (value : String) : Except Failure MDEntryType :=
  match libraries.mdEntryType value with
  | none => .error (.fatal s!"Unexpected: can't parse \"{value}\" as MDEntryType")
  | some .undefined => .error (.fatal s!"Can't map \"{value}\" to MDEntryType")
  | some .bid => .error (.fatal "You're not allowed to remap BID")
  | some .offer => .error (.fatal "You're not allowed to remap OFFER")
  | some .trade => .error (.fatal "You're not allowed to remap TRADE")
  | some mdEntryType => .ok mdEntryType

/-- `parse_default_value`, for the node that was found, if any. -/
def parseDefaultValue (settings : Settings) (libraries : Libraries) (type : StatisticsType)
    (defaultValues : Table StatisticsType UInt64) :
    Option Node → Except Failure (Table StatisticsType UInt64)
  | none => .ok defaultValues
  | some node =>
    if settings.initMissingMdEntryTypeToZero then
      -- The result of `value` is dereferenced without a check.
      match libraries.double? node with
      | none => .error .undefined
      | some value => .ok (defaultValues.emplace type value).1
    else
      .error (.fatal ("You're not allowed to specify default values without the " ++
        "--init_missing_md_entry_type_to_zero flag"))

/-- The body of the loop of `parse_statistics`, for a node that is a table. -/
def parseStatisticsType (settings : Settings) (libraries : Libraries) (type : StatisticsType)
    (table : Node) (result : Statistics) : Except Failure Statistics := do
  let value ← get Node.string? "fix_md_entry_type" table
  let mdEntryType ← mapMdEntryType libraries value
  -- Whether the type is a new one matters to an assertion only.
  let types := (result.types.emplace type mdEntryType).1
  let (found, table) := findAndRemove "default_value" table
  let defaultValues ← parseDefaultValue settings libraries type result.defaultValues found
  match table with
  | .table [_] => return { types, defaultValues }
  | _ => throw (.fatal "Unexpected")

/-- The loop of `parse_statistics`. -/
def parseEachStatistics (settings : Settings) (libraries : Libraries) :
    Entries → Statistics → Except Failure Statistics
  | [], result => .ok result
  | (key, node) :: rest, result =>
    match libraries.statisticsType key with
    | none => .error (.fatal s!"Can't map \"{key}\" to StatisticsType")
    | some type =>
      match node with
      | .table entries => do
        let result ← parseStatisticsType settings libraries type (.table entries) result
        parseEachStatistics settings libraries rest result
      | _ => .error .undefined

/-- `parse_statistics`. -/
def parseStatistics (settings : Settings) (libraries : Libraries) :
    Node → Except Failure (Statistics × Node) :=
  parseSection "statistics" ⟨∅, ∅⟩ fun entries =>
    parseEachStatistics settings libraries entries ⟨∅, ∅⟩

/-- `Broadcast`. -/
structure Broadcast where
  exchange : String
  sourceRegex : String
  targetsRegex : List String
  deriving DecidableEq, Repr

/-- The body of the loop of `parse_broadcast`. -/
def parseBroadcastNode (key : String) (node : Node) : Except Failure Broadcast := do
  let (exchange, node) ← getAndRemove Node.string? "exchange" node
  let (sourceRegex, node) ← getAndRemove Node.string? "source_regex" node
  let (targetsRegex, node) ← parseSymbols3 "targets_regex" node
  refuse (exchange = "" ∨ sourceRegex = "" ∨ targetsRegex = [])
    s!"Unexpected: 'broadcast.{key}' is incomplete"
  checkEmpty node
  return { exchange, sourceRegex, targetsRegex }

/-- The loop of `parse_broadcast`. -/
def parseEachBroadcast :
    Entries → Table String Broadcast → Except Failure (Table String Broadcast)
  | [], result => .ok result
  | (key, node) :: rest, result => do
    let broadcast ← parseBroadcastNode key node
    parseEachBroadcast rest (result.emplace key broadcast).1

/-- `parse_broadcast`. -/
def parseBroadcast : Node → Except Failure (Table String Broadcast × Node) :=
  parseSection "broadcast" ∅ fun entries => parseEachBroadcast entries ∅

/-- The reasons that errors are reported with. -/
abbrev CxlRejReasons := Table Error CxlRejReason

/-- The inner loop of `parse_cxl_rej_reason`. -/
def parseReasons (libraries : Libraries) (error : Error) :
    Entries → CxlRejReasons → Except Failure CxlRejReasons
  | [], result => .ok result
  | (key, node) :: rest, result =>
    match libraries.uint32? node with
    | none => .error (.exception "bad optional access")
    | some value =>
      if value < 100 then
        .error (.fatal
          s!"Unexpected: custom CxlRejReason values must be at least 100 (got {value})")
      else if key = "cxl_rej_reason" then
        parseReasons libraries error rest (result.insert error value)
      else .error (.fatal s!"Unexpected: {key}")

/-- The outer loop of `parse_cxl_rej_reason`. -/
def parseEachError (libraries : Libraries) :
    Entries → CxlRejReasons → Except Failure CxlRejReasons
  | [], result => .ok result
  | (key, node) :: rest, result =>
    match libraries.parseError key with
    | .error text => .error (.exception text)
    | .ok error =>
      match node with
      | .table entries => do
        let result ← parseReasons libraries error entries result
        parseEachError libraries rest result
      | _ => .error .undefined

/-- `parse_cxl_rej_reason`. -/
def parseCxlRejReason (libraries : Libraries) : Node → Except Failure (CxlRejReasons × Node) :=
  parseSection "errors" ∅ fun entries => parseEachError libraries entries ∅

end Config

end FixBridge
