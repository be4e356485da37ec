import FixBridge.Library.Table

/-! The broadcast mapping from one source symbol to the target symbols that share its key. -/

namespace FixBridge

/-- A compiled regular expression; extraction gives whether it matched and the captured key. -/
structure Pattern where
  /-- `utils::regex::Pattern::extract`. -/
  extract : String → Bool × String

/-- How a call on a mapping can bring the process down. -/
inductive Mapping.Abort where
  /-- `log::fatal`: Unexpected: symbol="..." -/
  | unexpectedSymbol (symbol : String)
  /-- `log::fatal`: Multiple source mappings key="...", symbol=(new="...", have="...") -/
  | multipleSourceMappings (key new have_ : String)
  /-- `log::fatal`: "Multiple insertions key="...", symbol="...", with a stray leading quote. -/
  | multipleInsertions (key symbol : String)
  /-- A failed `assert`, in a build that has assertions. -/
  | assertion
  deriving DecidableEq, Repr

/-- The members of `tools::Mapping`. -/
structure Mapping where
  name : String
  exchange : String
  sourceRegex : Pattern
  targetsRegex : List Pattern
  /-- Every symbol that was added, each of them once. -/
  processed : KeySet String
  /-- The source symbol of a key. -/
  source : Table String String
  /-- The target symbols of a key. -/
  target : Table String (KeySet String)
  /-- The target symbols of a source symbol. -/
  outbound : Table String (KeySet String)

namespace Mapping

/-- A mapping to which nothing has been added. -/
def create (name exchange : String) (sourceRegex : Pattern) (targetsRegex : List Pattern) :
    Mapping :=
  { name, exchange, sourceRegex, targetsRegex
    processed := ∅, source := ∅, target := ∅, outbound := ∅ }

/-- `assert` stops a build that has assertions and is compiled away otherwise. -/
def assert (assertions condition : Bool) : Except Abort Unit :=
  if assertions && !condition then .error .assertion else .ok ()

/-- The loop of `add_source` over the targets that are waiting for a key. -/
def emplaceAll (assertions : Bool) : List String → KeySet String → Except Abort (KeySet String)
  | [], outbound => .ok outbound
  | target :: rest, outbound => do
    let (outbound, inserted) := outbound.add target
    -- An `emplace` that fails is an assertion only, so a build without assertions goes on.
    assert assertions inserted
    emplaceAll assertions rest outbound

/-- `Mapping::add_source`. -/
def addSource (assertions : Bool) (key symbol : String) (mapping : Mapping) :
    Except Abort Mapping := do
  let (source, inserted) := mapping.source.emplace key symbol
  -- Two sources for one key are fatal.
  if !inserted then
    throw (.multipleSourceMappings key symbol (mapping.source.at_ key))
  let mapping := { mapping with source }
  match mapping.target.lookup key with
  -- Targets that came earlier are linked with the new source.
  | none => return mapping
  | some symbols =>
    let outbound ← emplaceAll assertions symbols.keys (mapping.outbound.at_ symbol)
    return { mapping with outbound := mapping.outbound.insert symbol outbound }

/-- `Mapping::add_target`. -/
def addTarget (assertions : Bool) (key symbol : String) (mapping : Mapping) :
    Except Abort Mapping := do
  let (symbols, inserted) := (mapping.target.at_ key).add symbol
  -- The same target twice under one key is fatal.
  if !inserted then
    throw (.multipleInsertions key symbol)
  let mapping := { mapping with target := mapping.target.insert key symbols }
  match mapping.source.lookup key with
  | none => return mapping
  | some source =>
    -- A source that came earlier is linked with the new target.
    let (outbound, inserted) := (mapping.outbound.at_ source).add symbol
    assert assertions inserted
    return { mapping with outbound := mapping.outbound.insert source outbound }

/-- The source half of `Mapping::add`, with whether the symbol matched. -/
def matchSource (assertions : Bool) (symbol : String) (mapping : Mapping) :
    Except Abort (Mapping × Bool) :=
  let (whole, key) := mapping.sourceRegex.extract symbol
  if whole then do
    let mapping ← mapping.addSource assertions key symbol
    return (mapping, true)
  else return (mapping, false)

/-- The target half of `Mapping::add`: a loop over the target patterns. -/
def matchTargets (assertions : Bool) (symbol : String) :
    List Pattern → Mapping → Bool → Except Abort (Mapping × Bool)
  | [], mapping, result => .ok (mapping, result)
  | regex :: rest, mapping, result =>
    let (whole, key) := regex.extract symbol
    if whole then do
      let mapping ← mapping.addTarget assertions key symbol
      matchTargets assertions symbol rest mapping true
    else matchTargets assertions symbol rest mapping result

/-- `Mapping::add`. -/
def add (assertions : Bool) (exchange symbol : String) (mapping : Mapping) :
    Except Abort (Mapping × Bool) :=
  -- Symbols of other exchanges are ignored before anything is noted.
  if mapping.exchange ≠ exchange then return (mapping, false)
  else do
    let (processed, inserted) := mapping.processed.add symbol
    -- The same symbol twice is fatal.
    if !inserted then
      throw (.unexpectedSymbol symbol)
    let (mapping, result) ← matchSource assertions symbol { mapping with processed }
    matchTargets assertions symbol mapping.targetsRegex mapping result

/-- A sequence of `add` calls, each with an exchange and a symbol. -/
def addAll (assertions : Bool) : List (String × String) → Mapping → Except Abort Mapping
  | [], mapping => .ok mapping
  | (exchange, symbol) :: rest, mapping => do
    let (mapping, _) ← mapping.add assertions exchange symbol
    addAll assertions rest mapping

/-- `Mapping::dispatch`: the callbacks it makes, in order, and its result. -/
def dispatch (_exchange symbol : String) (mapping : Mapping) : List (String × String) × Bool :=
  -- The argument `exchange` is not looked at, and callbacks are given the mapping's own.
  match mapping.outbound.lookup symbol with
  | none => ([], false)
  | some symbols => (symbols.keys.map fun target => (mapping.exchange, target), true)

end Mapping

end FixBridge
