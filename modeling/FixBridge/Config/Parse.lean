import FixBridge.Fix.Message
import FixBridge.Library.Document

/-! How the parsers of the configuration reach into a document, consuming what they read. -/

namespace FixBridge

namespace Config

open Document

/-- How a constructor can end without a value. -/
inductive Failure where
  /-- `log::fatal`. -/
  | fatal (text : String)
  /-- An exception that is thrown. -/
  | exception (text : String)
  /-- A null pointer or an empty optional is dereferenced, which the language leaves undefined. -/
  | undefined
  deriving DecidableEq, Repr

/-- The settings that the configuration is read with. -/
structure Settings where
  /-- `oms.cancel_on_disconnect`. -/
  cancelOnDisconnect : Bool
  /-- `oms.oms_route_by_strategy`. -/
  omsRouteByStrategy : Bool
  /-- `messaging.init_missing_md_entry_type_to_zero`. -/
  initMissingMdEntryTypeToZero : Bool
  deriving DecidableEq, Repr

/-- `StatisticsType`, by its number. -/
abbrev StatisticsType := UInt8

/-- `Error`, by its number. -/
abbrev Error := UInt8

/-- `fix::CxlRejReason`, by its number. -/
abbrev CxlRejReason := UInt32

/-- `fix::MDEntryType`, as far as the configuration tells its values apart. -/
inductive MDEntryType where
  | undefined | bid | offer | trade
  | other (value : UInt8)
  deriving DecidableEq, Repr

/-- What the configuration uses of other libraries. -/
structure Libraries where
  /-- `toml::value<uint32_t>` of a scalar. -/
  toUInt32 : Scalar → Option UInt32
  /-- `toml::value<double>` of a scalar, by the bits of the result. -/
  toDouble : Scalar → Option UInt64
  /-- `magic_enum::enum_cast<StatisticsType>`. -/
  statisticsType : String → Option StatisticsType
  /-- `magic_enum::enum_cast<fix::MDEntryType>`. -/
  mdEntryType : String → Option MDEntryType
  /-- `utils::parse_enum<Error>`, or the text of what it throws. -/
  parseError : String → Except String Error

/-- `toml::value<uint32_t>`. -/
def Libraries.uint32? (libraries : Libraries) : Node → Option UInt32
  | .scalar value => libraries.toUInt32 value
  | _ => none

/-- `toml::value<double>`. -/
def Libraries.double? (libraries : Libraries) : Node → Option UInt64
  | .scalar value => libraries.toDouble value
  | _ => none

/-- `check_empty`. -/
def checkEmpty : Node → Except Failure Unit
  | .table [] => .ok ()
  | .table (_ :: _) => .error (.fatal "Unexpected")
  | _ => .ok ()

/-- A validation that ends with `log::fatal` when it fails. -/
def refuse (invalid : Prop) [Decidable invalid] (text : String) : Except Failure Unit :=
  if invalid then .error (.fatal text) else .ok ()

/-- `find_and_remove`: the node that the callback is given, and what remains afterwards. -/
def findAndRemove (key : String) : Node → Option Node × Node
  | .table entries =>
    match entries.lookup key with
    | none => (none, .table entries)
    | some found => (some found, .table (remove key entries))
  -- A node that is not a table is only warned about.
  | node => (none, node)

/-- `get`. -/
def get {α : Type} (value : Node → Option α) (key : String) : Node → Except Failure α
  | .table entries =>
    match entries.lookup key with
    | none => .error (.exception s!"Unexpected: did not find key=\"{key}\"")
    | some found =>
      match value found with
      | none => .error (.exception "bad optional access")
      | some result => .ok result
  | _ => .error (.exception "Unexpected: node is not a table")

/-- `get_and_remove`. -/
def getAndRemove {α : Type} (value : Node → Option α) (key : String) :
    Node → Except Failure (α × Node)
  | .table entries =>
    match entries.lookup key with
    | none => .error (.exception s!"Unexpected: did not find key=\"{key}\"")
    | some found =>
      match value found with
      | none => .error (.exception "bad optional access")
      | some result => .ok (result, .table (remove key entries))
  | _ => .error (.exception "Unexpected: node is not a table")

/-- `maybe_get_and_remove`, with the value that stands for a missing key. -/
def maybeGetAndRemove {α : Type} (missing : α) (value : Node → Option α) (key : String) :
    Node → Except Failure (α × Node)
  | .table entries =>
    match entries.lookup key with
    | none => .ok (missing, .table entries)
    | some found =>
      match value found with
      | none => .error (.exception "bad optional access")
      | some result => .ok (result, .table (remove key entries))
  | _ => .error (.exception "Unexpected: node is not a table")

/-- The loop over an array that may hold nothing but strings. -/
def stringElements : List Node → Except Failure (List String)
  | [] => .ok []
  | .string value :: rest => do
    let values ← stringElements rest
    return value :: values
  | _ :: _ => .error (.fatal "expected string")

/-- A string or an array of strings; what happens to any other node differs from key to key. -/
def strings (otherwise : Except Failure (List String)) : Node → Except Failure (List String)
  | .string value => .ok [value]
  | .array elements => stringElements elements
  | _ => otherwise

/-- `parse_accounts_2`. -/
def parseAccounts2 (settings : Settings) (key : String) (node : Node) :
    Except Failure (List String × Node) :=
  match findAndRemove key node with
  | (none, node) => .ok ([], node)
  | (some found, node) => do
    -- When routing by account, a value of another type is passed over.
    let otherwise := if settings.omsRouteByStrategy then
      .error (.fatal "expected users.accounts to be string or list") else .ok []
    let accounts ← strings otherwise found
    return (accounts, node)

/-- `parse_symbols_2`. -/
def parseSymbols2 (settings : Settings) (key : String) (node : Node) :
    Except Failure (List String × Node) :=
  match findAndRemove key node with
  | (none, node) => .ok ([], node)
  | (some found, node) =>
    if !settings.omsRouteByStrategy then .error (.fatal "not allowed: users.symbols")
    else do
      let otherwise := if settings.omsRouteByStrategy then
        .error (.fatal "expected users.symbols to be string or list") else .ok []
      let symbols ← strings otherwise found
      return (symbols, node)

/-- `parse_symbols_3`. -/
def parseSymbols3 (key : String) (node : Node) : Except Failure (List String × Node) :=
  match findAndRemove key node with
  | (none, node) => .ok ([], node)
  | (some found, node) => do
    let otherwise :=
      .error (.fatal s!"expected broadcast.{key}.targets_regex to be string or list")
    let targets ← strings otherwise found
    return (targets, node)

end Config

end FixBridge
