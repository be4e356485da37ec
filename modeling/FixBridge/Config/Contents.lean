import FixBridge.Config.Subscriptions
import FixBridge.Library.Assembly

/-! What an accepted configuration holds: member by member, what its document says. -/

namespace FixBridge

namespace Config

open Document

/-- The entries of a section, of which there are none without the section. -/
def sectionOf (key : String) (document : Root) : Entries :=
  match document.entries.lookup key with
  | some (.table entries) => entries
  | _ => []

/-- A section that is there has its entries. -/
theorem sectionOf_of_lookup {key : String} {document : Root} {entries : Entries}
    (found : document.entries.lookup key = some (.table entries)) :
    sectionOf key document = entries := by
  simp [sectionOf, found]

/-- A section that is missing has no entries. -/
theorem sectionOf_of_none {key : String} {document : Root}
    (missing : document.entries.lookup key = none) : sectionOf key document = [] := by
  simp [sectionOf, missing]

/-- The users that the tables of a section describe, by key and numbered from `count` on. -/
def numberUsers (libraries : Libraries) : Nat → Entries → List (String × User)
  | _, [] => []
  | count, (key, .table fields) :: rest =>
    (key, readUser libraries (UInt16.ofNat (count + 1)) fields) ::
      numberUsers libraries (count + 1) rest
  | count, _ :: rest => numberUsers libraries count rest

/-- The mapping of a statistics type that an entry of its section describes. -/
def readStatisticsType (libraries : Libraries) :
    String × Node → Option (StatisticsType × MDEntryType)
  | (key, .table fields) => do
    let type ← libraries.statisticsType key
    let text ← (fields.lookup "fix_md_entry_type").bind Node.string?
    let mdEntryType ← libraries.mdEntryType text
    return (type, mdEntryType)
  | _ => none

/-- The default value of a statistics type that an entry of its section describes. -/
def readDefaultValue (libraries : Libraries) : String × Node → Option (StatisticsType × UInt64)
  | (key, .table fields) => do
    let type ← libraries.statisticsType key
    let value ← (fields.lookup "default_value").bind libraries.double?
    return (type, value)
  | _ => none

/-- The broadcast that an entry of its section describes. -/
def readBroadcast : String × Node → Option (String × Broadcast)
  | (key, .table fields) =>
    some (key,
      { exchange := readString "exchange" fields
        sourceRegex := readString "source_regex" fields
        targetsRegex := readStrings "targets_regex" fields })
  | _ => none

/-- The reason for an error that an entry of its section describes. -/
def readReason (libraries : Libraries) : String × Node → Option (Error × CxlRejReason)
  | (key, .table fields) => do
    let error ← (libraries.parseError key).toOption
    let value ← (fields.lookup "cxl_rej_reason").bind libraries.uint32?
    return (error, value)
  | _ => none

/-! What the loops over the sections have made of the entries when they succeed. -/

/-- Users are emplaced one by one, each under its key. -/
theorem parseEachUser_contents {settings : Settings} {libraries : Libraries} {entries : Entries}
    {result after : Table String User} (nodup : (entries.map Prod.fst).Nodup)
    (fresh : ∀ entry ∈ entries, entry.1 ∉ result)
    (done : parseEachUser settings libraries entries result = .ok after) :
    after = result.emplaceAll (numberUsers libraries result.keys.length entries) := by
  induction entries generalizing result with
  | nil =>
    cases done
    rfl
  | cons entry rest ih =>
    obtain ⟨key, node⟩ := entry
    obtain ⟨unlike, nodupRest⟩ := List.nodup_cons.mp nodup
    cases node with
    | table fields =>
      simp only [parseEachUser, bind_eq_ok] at done
      obtain ⟨user, parsed, looped⟩ := done
      obtain ⟨rfl, -⟩ := parseUser_ok parsed
      have absent : key ∉ result := fresh _ List.mem_cons_self
      have later : ∀ entry ∈ rest, entry.1 ∉ (result.emplace key (readUser libraries
          (UInt16.ofNat (result.keys.length + 1)) fields)).1 := by
        intro entry member present
        rcases AList.mem_emplace.mp present with same | present
        · exact unlike (List.mem_map.mpr ⟨entry, member, same⟩)
        · exact fresh entry (List.mem_cons_of_mem _ member) present
      have count : (result.emplace key (readUser libraries
          (UInt16.ofNat (result.keys.length + 1)) fields)).1.keys.length =
            result.keys.length + 1 := by
        simp only [AList.emplace_of_notMem absent, AList.keys,
          AList.entries_insert_of_notMem absent, List.keys_cons, List.length_cons]
      -- The number of the next user is one more, as a new key has been added.
      rw [ih nodupRest later looped, count]
      rfl
    | _ => cases done

/-- A statistics type is mapped to what is allowed. -/
theorem mapMdEntryType_ok {libraries : Libraries} {value : String} {mdEntryType : MDEntryType}
    (done : mapMdEntryType libraries value = .ok mdEntryType) :
    libraries.mdEntryType value = some mdEntryType ∧
      mdEntryType ∉ [.undefined, .bid, .offer, .trade] := by
  -- The four types that may not be mapped to are refused one by one.
  unfold mapMdEntryType at done
  split at done
  all_goals cases done
  next undefined bid offer trade found =>
    refine ⟨found, fun member => ?_⟩
    simp only [List.mem_cons, List.not_mem_nil, or_false] at member
    rcases member with same | same | same | same
    exacts [undefined same, bid same, offer same, trade same]

/-- A default value is emplaced if there is one, which needs the flag. -/
theorem parseDefaultValue_ok {settings : Settings} {libraries : Libraries}
    {type : StatisticsType} {defaultValues after : Table StatisticsType UInt64}
    {found : Option Node}
    (done : parseDefaultValue settings libraries type defaultValues found = .ok after) :
    (found = none ∧ after = defaultValues) ∨
      ∃ value, settings.initMissingMdEntryTypeToZero = true ∧
        found.bind libraries.double? = some value ∧
        after = (defaultValues.emplace type value).1 := by
  -- Only a number that the settings allow is added, and it keeps an older one.
  unfold parseDefaultValue at done
  split at done
  · cases done
    exact Or.inl ⟨rfl, rfl⟩
  · next node =>
    split at done
    · next allowed =>
      split at done
      · cases done
      · next value converted =>
        cases done
        exact Or.inr ⟨value, allowed, converted, rfl⟩
    · cases done

/-- The mappings and the default values that statistics types have received. -/
structure ReadsStatistics (settings : Settings) (libraries : Libraries) (entries : Entries)
    (result after : Statistics) : Prop where
  types : after.types = result.types.emplaceAll (entries.filterMap (readStatisticsType libraries))
  defaultValues : after.defaultValues =
    result.defaultValues.emplaceAll (entries.filterMap (readDefaultValue libraries))
  remapped : ∀ entry ∈ entries.filterMap (readStatisticsType libraries),
    entry.2 ∉ [.undefined, .bid, .offer, .trade]
  allowed : settings.initMissingMdEntryTypeToZero = false →
    entries.filterMap (readDefaultValue libraries) = []

/-- The table of a statistics type is read as what it describes. -/
theorem parseStatisticsType_ok {settings : Settings} {libraries : Libraries} {key : String}
    {type : StatisticsType} (named : libraries.statisticsType key = some type)
    {fields : Entries} {result after : Statistics}
    (done : parseStatisticsType settings libraries type (.table fields) result = .ok after) :
    ReadsStatistics settings libraries [(key, .table fields)] result after := by
  simp only [parseStatisticsType, bind_eq_ok, findAndRemove_table] at done
  obtain ⟨text, isText, mdEntryType, mapped, defaultValues, defaulted, returned⟩ := done
  have read := get_ok isText
  obtain ⟨found, allowed⟩ := mapMdEntryType_ok mapped
  have reads : readStatisticsType libraries (key, .table fields) = some (type, mdEntryType) := by
    simp [readStatisticsType, named, read, found]
  -- Nothing but the two fields was there, or nothing would be returned.
  have final : after = ⟨(result.types.emplace type mdEntryType).1, defaultValues⟩ := by
    split at returned
    · exact (pure_eq_ok.mp returned).symm
    · cases returned
  subst final
  rcases parseDefaultValue_ok defaulted with ⟨missing, rfl⟩ | ⟨value, flag, converted, rfl⟩
  · have none_ : readDefaultValue libraries (key, .table fields) = none := by
      simp [readDefaultValue, named, missing]
    exact ⟨by simp [reads, AList.emplaceAll], by simp [none_, AList.emplaceAll],
      by simpa [reads] using allowed, fun _ => by simp [none_]⟩
  · have some_ : readDefaultValue libraries (key, .table fields) = some (type, value) := by
      simp [readDefaultValue, named, converted]
    refine ⟨by simp [reads, AList.emplaceAll], by simp [some_, AList.emplaceAll],
      by simpa [reads] using allowed, fun off => ?_⟩
    rw [flag] at off
    cases off

/-- The section of statistics is read as what it describes. -/
theorem parseEachStatistics_ok {settings : Settings} {libraries : Libraries} {entries : Entries}
    {result after : Statistics}
    (done : parseEachStatistics settings libraries entries result = .ok after) :
    ReadsStatistics settings libraries entries result after := by
  induction entries generalizing result with
  | nil =>
    cases done
    exact ⟨rfl, rfl, by simp, fun _ => rfl⟩
  | cons entry rest ih =>
    obtain ⟨key, node⟩ := entry
    rw [parseEachStatistics] at done
    split at done
    · cases done
    next type named =>
      cases node with
      | table fields =>
        obtain ⟨middle, parsed, looped⟩ := bind_eq_ok.mp done
        have first := parseStatisticsType_ok named parsed
        have others := ih looped
        -- The entry comes first, and the others find what it has emplaced.
        have split_ {β : Type} (read : String × Node → Option β) :
            ((key, Node.table fields) :: rest).filterMap read =
              [(key, Node.table fields)].filterMap read ++ rest.filterMap read := by
          rw [← List.filterMap_append, List.singleton_append]
        refine ⟨?_, ?_, ?_, ?_⟩
        · rw [split_, AList.emplaceAll_append, ← first.types, others.types]
        · rw [split_, AList.emplaceAll_append, ← first.defaultValues, others.defaultValues]
        · rw [split_]
          intro entry member
          exact (List.mem_append.mp member).elim (first.remapped entry) (others.remapped entry)
        · intro off
          rw [split_, first.allowed off, others.allowed off, List.nil_append]
      | _ => cases done

/-- The table of a broadcast is read as what it describes. -/
theorem parseBroadcastNode_ok {key : String} {node : Node} {broadcast : Broadcast}
    (done : parseBroadcastNode key node = .ok broadcast) :
    readBroadcast (key, node) = some (key, broadcast) := by
  cases node with
  | table fields =>
    simp only [parseBroadcastNode, bind_eq_ok, Prod.exists] at done
    obtain ⟨exchange, _, first, sourceRegex, _, second, targetsRegex, _, third, _, -, _, -,
      returned⟩ := done
    obtain ⟨isExchange, rfl⟩ := getAndRemove_ok first
    obtain ⟨isSourceRegex, rfl⟩ := getAndRemove_ok second
    obtain ⟨rfl, -⟩ := parseSymbols3_ok third
    clear first second third
    -- A lookup does not notice that other keys are gone.
    simp (disch := decide) only [readStrings, lookup_remove, pure_eq_ok] at isSourceRegex returned
    subst returned
    simp [readBroadcast, readString, readStrings, isExchange, isSourceRegex]
  | _ => cases done

/-- The section of broadcasts is read as what it describes. -/
theorem parseEachBroadcast_ok {entries : Entries} {result after : Table String Broadcast}
    (done : parseEachBroadcast entries result = .ok after) :
    after = result.emplaceAll (entries.filterMap readBroadcast) := by
  -- The loop adds one broadcast after the other, each read as it is described.
  induction entries generalizing result with
  | nil =>
    cases done
    rfl
  | cons entry rest ih =>
    obtain ⟨key, node⟩ := entry
    obtain ⟨broadcast, parsed, looped⟩ := bind_eq_ok.mp done
    rw [ih looped, List.filterMap_cons_some (parseBroadcastNode_ok parsed)]
    rfl

/-- The table of an error has no key but one. -/
theorem FitsError.single {libraries : Libraries} {fields : Entries}
    (fits : FitsError libraries fields) (nodup : (fields.map Prod.fst).Nodup) :
    fields = [] ∨ ∃ node value, fields = [("cxl_rej_reason", node)] ∧
      libraries.uint32? node = some value ∧ 100 ≤ value := by
  cases fields with
  | nil => exact Or.inl rfl
  | cons entry rest =>
    obtain ⟨key, node⟩ := entry
    obtain ⟨rfl, value, converted, large⟩ := fits _ List.mem_cons_self
    -- A second key would have to be the same one.
    have single : rest = [] := by
      refine List.eq_nil_iff_forall_not_mem.mpr fun other member => ?_
      have same := (fits other (List.mem_cons_of_mem _ member)).1
      exact (List.nodup_cons.mp nodup).1 (List.mem_map.mpr ⟨other, member, same⟩)
    exact Or.inr ⟨node, value, by rw [single], converted, large⟩

/-- The reason of an error is read from the only key of its table, and is at least 100. -/
theorem parseReasons_ok {libraries : Libraries} {key : String} {error : Error}
    (named : libraries.parseError key = .ok error) {fields : Entries}
    (nodup : (fields.map Prod.fst).Nodup) {result after : CxlRejReasons}
    (done : parseReasons libraries error fields result = .ok after) :
    after = result.insertAll (readReason libraries (key, .table fields)).toList ∧
      ∀ entry ∈ readReason libraries (key, .table fields), 100 ≤ entry.2 := by
  -- The fields of an error that is accepted are empty or a reason alone.
  have fits := (parseReasons_ends libraries error fields result).passes_iff.mp ⟨after, done⟩
  rcases fits.single nodup with rfl | ⟨node, value, rfl, converted, large⟩
  · cases done
    simp [readReason, named, Except.toOption, AList.insertAll]
  · have reads : readReason libraries (key, .table [("cxl_rej_reason", node)]) =
        some (error, value) := by
      simp [readReason, named, converted, Except.toOption]
    -- The reason is large enough, as the loop has checked.
    have small : ¬ value < 100 := UInt32.not_lt.mpr large
    simp only [parseReasons, converted, if_neg small, if_pos] at done
    cases done
    refine ⟨by simp [reads, AList.insertAll], ?_⟩
    rw [reads]
    rintro _ ⟨⟩
    exact large

/-- The section of errors is read as what it describes. -/
theorem parseEachError_ok {libraries : Libraries} {entries : Entries}
    (keyed : (Node.table entries).Keyed) {result after : CxlRejReasons}
    (done : parseEachError libraries entries result = .ok after) :
    after = result.insertAll (entries.filterMap (readReason libraries)) ∧
      ∀ entry ∈ entries.filterMap (readReason libraries), 100 ≤ entry.2 := by
  induction entries generalizing result with
  | nil =>
    cases done
    exact ⟨rfl, by simp⟩
  | cons entry rest ih =>
    obtain ⟨key, node⟩ := entry
    have keyedRest : (Node.table rest).Keyed :=
      .table (List.nodup_cons.mp keyed.nodup).2 fun entry member =>
        keyed.of_mem (List.mem_cons_of_mem _ member)
    rw [parseEachError] at done
    split at done
    · cases done
    next error named =>
      cases node with
      | table fields =>
        obtain ⟨middle, parsed, looped⟩ := bind_eq_ok.mp done
        have fieldsKeyed : (Node.table fields).Keyed := keyed.of_mem List.mem_cons_self
        obtain ⟨rfl, large⟩ := parseReasons_ok named fieldsKeyed.nodup parsed
        obtain ⟨rfl, others⟩ := ih keyedRest looped
        -- An error without a reason adds nothing.
        cases reads : readReason libraries (key, .table fields) with
        | none =>
          rw [List.filterMap_cons_none reads]
          exact ⟨rfl, others⟩
        | some reason =>
          rw [reads] at large
          rw [List.filterMap_cons_some reads]
          refine ⟨rfl, fun entry member => ?_⟩
          rcases List.mem_cons.mp member with rfl | later
          · exact large _ rfl
          · exact others entry later
      | _ => cases done

/-- A section that may be missing is read as its entries, if its parser reads them so. -/
theorem parseSection_reads {α : Type} {key : String} {missing : α}
    {parse : Entries → Except Failure α} (document : Root) {entries : Entries} {result : α}
    {rest : Node} (reads : Entries → α → Prop)
    (same : entries.lookup key = document.entries.lookup key) (empty : reads [] missing)
    (loop : ∀ {inner result}, (Node.table inner).Keyed → parse inner = .ok result →
      reads inner result)
    (done : parseSection key missing parse (.table entries) = .ok (result, rest)) :
    reads (sectionOf key document) result := by
  -- A missing section reads as one without entries, which gives the default.
  simp only [parseSection, findAndRemove_table] at done
  cases found : entries.lookup key with
  | none =>
    simp only [found, Except.ok.injEq, Prod.mk.injEq] at done
    obtain ⟨rfl, -⟩ := done
    rw [sectionOf_of_none (same.symm.trans found)]
    exact empty
  | some node =>
    cases node with
    | table inner =>
      simp only [found, bind_eq_ok, pure_eq_ok, Prod.mk.injEq] at done
      obtain ⟨_, parsed, rfl, -⟩ := done
      have there := same.symm.trans found
      rw [sectionOf_of_lookup there]
      exact loop (document.keyed.of_mem (mem_of_lookup there)) parsed
    | _ => simp [found] at done

/-- Every member of a configuration is what its document says. -/
structure Contents (settings : Settings) (libraries : Libraries) (document : Root)
    (config : Config) : Prop where
  policy : config.orderCancelPolicy = getOrderCancelPolicy settings
  symbols : ∀ gateway regex,
    regex ∈ config.symbols.at_ gateway ↔ Subscribed document gateway regex
  /-- A user is found under the key of its table, which is numbered by its position. -/
  users : config.users = (∅ : Table String User).emplaceAll
    (numberUsers libraries 0 (sectionOf "users" document))
  /-- Where two keys name one statistics type, the first of them counts. -/
  statistics : config.statistics = (∅ : Table StatisticsType MDEntryType).emplaceAll
    ((sectionOf "statistics" document).filterMap (readStatisticsType libraries))
  defaultValues : config.defaultValues = (∅ : Table StatisticsType UInt64).emplaceAll
    ((sectionOf "statistics" document).filterMap (readDefaultValue libraries))
  broadcast : config.broadcast = (∅ : Table String Broadcast).emplaceAll
    ((sectionOf "broadcast" document).filterMap readBroadcast)
  /-- Where two keys name one error, the last of them counts. -/
  cxlRejReason : config.cxlRejReason = (∅ : CxlRejReasons).insertAll
    ((sectionOf "errors" document).filterMap (readReason libraries))
  /-- The usual types are not remapped. -/
  remapped : ∀ entry ∈ (sectionOf "statistics" document).filterMap (readStatisticsType libraries),
    entry.2 ∉ [.undefined, .bid, .offer, .trade]
  /-- Default values are only allowed with a flag. -/
  allowed : settings.initMissingMdEntryTypeToZero = false →
    (sectionOf "statistics" document).filterMap (readDefaultValue libraries) = []
  /-- Custom reasons do not clash with those of the standard. -/
  custom : ∀ entry ∈ (sectionOf "errors" document).filterMap (readReason libraries),
    100 ≤ entry.2

/-- A configuration that is created holds what its document says. -/
theorem contents_of_create {settings : Settings} {libraries : Libraries} {order : List String}
    {document : Root} {config : Config}
    (done : create settings libraries order document = .ok config) :
    Contents settings libraries document config := by
  have created := create_ok done
  obtain ⟨gateways, foundSymbols, parsedSymbols⟩ := created.symbols
  obtain ⟨entries, foundUsers, parsedUsers⟩ := created.users
  -- Each parser sees the document without the sections that were consumed before it.
  simp only [create, parseStatistics, parseBroadcast, parseCxlRejReason, bind_eq_ok,
    Prod.exists] at done
  obtain ⟨symbols, _, first, users, _, second, statistics, _, third, broadcast, _, fourth,
    reasons, _, fifth, _, -, _, -, checked⟩ := done
  obtain ⟨-, rfl⟩ := parseSymbols_ok first
  obtain ⟨-, rfl⟩ := parseUsers_ok second
  have isStatistics := parseSection_reads document
    (ReadsStatistics settings libraries · ⟨∅, ∅⟩)
    (by simp (disch := decide) only [lookup_remove]) ⟨rfl, rfl, by simp, fun _ => rfl⟩
    (fun _ parsed => parseEachStatistics_ok parsed) third
  obtain ⟨-, rfl⟩ := parseSection_ok third
  have isBroadcast := parseSection_reads document
    (fun entries result => result = (∅ : Table String Broadcast).emplaceAll
      (entries.filterMap readBroadcast))
    (by simp (disch := decide) only [lookup_remove]) rfl
    (fun _ parsed => parseEachBroadcast_ok parsed) fourth
  obtain ⟨-, rfl⟩ := parseSection_ok fourth
  have isErrors := parseSection_reads document
    (fun entries result => result = (∅ : CxlRejReasons).insertAll
      (entries.filterMap (readReason libraries)) ∧
        ∀ entry ∈ entries.filterMap (readReason libraries), 100 ≤ entry.2)
    (by simp (disch := decide) only [lookup_remove]) ⟨rfl, by simp⟩
    (fun keyed parsed => parseEachError_ok keyed parsed) fifth
  have isUsers : config.users = (∅ : Table String User).emplaceAll
      (numberUsers libraries 0 (sectionOf "users" document)) := by
    rw [sectionOf_of_lookup foundUsers]
    have keyed := document.keyed.of_mem (mem_of_lookup foundUsers)
    exact parseEachUser_contents keyed.nodup (by simp) parsedUsers
  have isSymbols : ∀ gateway regex,
      regex ∈ config.symbols.at_ gateway ↔ Subscribed document gateway regex := by
    intro gateway regex
    rw [parseGateways_ok parsedSymbols, subscribed_iff foundSymbols]
    exact or_iff_right (AList.notMem_empty regex)
  -- Nothing is changed by the checks that are left.
  have members : config.statistics = statistics.types ∧
      config.defaultValues = statistics.defaultValues ∧ config.broadcast = broadcast ∧
      config.cxlRejReason = reasons := by
    cases routed : settings.omsRouteByStrategy with
    | true =>
      simp only [routed, Bool.not_true, Bool.false_eq_true, if_false, pure_eq_ok] at checked
      subst checked
      exact ⟨rfl, rfl, rfl, rfl⟩
    | false =>
      simp only [routed, Bool.not_false, if_true, bind_eq_ok, pure_eq_ok] at checked
      obtain ⟨_, -, rfl⟩ := checked
      exact ⟨rfl, rfl, rfl, rfl⟩
  obtain ⟨types, defaultValues, broadcasts, cxlRejReason⟩ := members
  exact ⟨created.policy, isSymbols, isUsers, types.trans isStatistics.types,
    defaultValues.trans isStatistics.defaultValues, broadcasts.trans isBroadcast,
    cxlRejReason.trans isErrors.1, isStatistics.remapped, isStatistics.allowed, isErrors.2⟩

/-- The order in which hash tables are walked does not show in what is created. -/
theorem create_order {settings : Settings} {libraries : Libraries} {order : List String}
    {document : Root} {config : Config}
    (done : create settings libraries order document = .ok config) (other : List String) :
    create settings libraries other document = .ok config := by
  have acceptable := (create_ends settings libraries order document).passes_iff.mp ⟨config, done⟩
  obtain ⟨again, done'⟩ :=
    (create_ends settings libraries other document).passes_iff.mpr acceptable
  have first := contents_of_create done
  have second := contents_of_create done'
  obtain ⟨gateways, found, parsed⟩ := (create_ok done).symbols
  obtain ⟨gateways', found', parsed'⟩ := (create_ok done').symbols
  -- The other members are what the document says, and the symbols come from one section.
  have symbols : again.symbols = config.symbols := by
    rw [found] at found'
    cases found'
    rw [parsed] at parsed'
    exact (Except.ok.inj parsed').symm
  have same : again = config := by
    cases again
    cases config
    simp only [Config.mk.injEq]
    exact ⟨second.policy.trans first.policy.symm, symbols, second.users.trans first.users.symm,
      second.defaultValues.trans first.defaultValues.symm,
      second.statistics.trans first.statistics.symm, second.broadcast.trans first.broadcast.symm,
      second.cxlRejReason.trans first.cxlRejReason.symm⟩
  rw [done', same]

/--
A configuration is exactly what its document says, whatever order the hash tables are walked in.

Of two keys that name one statistics type the first counts, and of two that name one error the last.
-/
theorem create_contents {settings : Settings} {libraries : Libraries} {order : List String}
    {document : Root} {config : Config}
    (done : create settings libraries order document = .ok config) :
    (∀ other, create settings libraries other document = .ok config) ∧
    config.orderCancelPolicy = getOrderCancelPolicy settings ∧
    (∀ gateway regex, regex ∈ config.symbols.at_ gateway ↔ Subscribed document gateway regex) ∧
    (∀ key, config.users.lookup key =
      (numberUsers libraries 0 (sectionOf "users" document)).lookup key) ∧
    (∀ type, config.statistics.lookup type = ((sectionOf "statistics" document).filterMap
      (readStatisticsType libraries)).lookup type) ∧
    (∀ type, config.defaultValues.lookup type = ((sectionOf "statistics" document).filterMap
      (readDefaultValue libraries)).lookup type) ∧
    (∀ key, config.broadcast.lookup key =
      ((sectionOf "broadcast" document).filterMap readBroadcast).lookup key) ∧
    (∀ error, config.cxlRejReason.lookup error = ((sectionOf "errors" document).filterMap
      (readReason libraries)).reverse.lookup error) := by
  -- Each table was made by adding entries in order, and answers with what was added for a key.
  have contents := contents_of_create done
  refine ⟨create_order done, contents.policy, contents.symbols, fun key => ?_, fun type => ?_,
    fun type => ?_, fun key => ?_, fun error => ?_⟩
  · simp [contents.users, AList.lookup_emplaceAll]
  · simp [contents.statistics, AList.lookup_emplaceAll]
  · simp [contents.defaultValues, AList.lookup_emplaceAll]
  · simp [contents.broadcast, AList.lookup_emplaceAll]
  · simp [contents.cxlRejReason, AList.lookup_insertAll]

/-- Libraries that know two statistics types by their exact names, and one error in either case. -/
def caselessLibraries : Libraries where
  toUInt32 := plainLibraries.toUInt32
  toDouble
    | .floatingPoint bits => some bits
    | _ => none
  statisticsType key := if key = "OPEN_PRICE" then some 4 else
    if key = "CLOSE_PRICE" then some 7 else none
  mdEntryType value := if value = "OPENING_PRICE" then some (.other 52) else
    if value = "CLOSING_PRICE" then some (.other 53) else none
  parseError key := if key = "TOO_LATE" ∨ key = "too_late" then .ok 9 else .error "Unexpected"

/-- A document in which an error is named twice. -/
def repeated : Root where
  entries := [
    ("broadcast", .table [("combo", .table [("exchange", .string "deribit"),
      ("source_regex", .string "(.*)"), ("targets_regex", .string "(.*)-PERPETUAL")])]),
    ("errors", .table [
      ("TOO_LATE", .table [("cxl_rej_reason", .scalar (.integer 101))]),
      ("too_late", .table [("cxl_rej_reason", .scalar (.integer 102))])]),
    ("statistics", .table [
      ("CLOSE_PRICE", .table [("fix_md_entry_type", .string "CLOSING_PRICE")]),
      ("OPEN_PRICE", .table [("default_value", .scalar (.floatingPoint 0)),
        ("fix_md_entry_type", .string "OPENING_PRICE")])]),
    ("symbols", .table [("regex", .string ".*")]),
    ("users", .table (usersOf twoUsers))]
  keyed := Node.keyed_sound (by decide)

/-- The document is accepted, as a repeated error is no mistake. -/
theorem create_repeated :
    ∃ config, create ⟨false, false, true⟩ caselessLibraries [] repeated = .ok config :=
  ⟨_, rfl⟩

/-- Each statistics type has its mapping, and the last reason of the error is kept. -/
theorem create_contents_repeated :
    ∃ config, create ⟨false, false, true⟩ caselessLibraries [] repeated = .ok config ∧
      config.statistics.lookup 4 = some (.other 52) ∧ config.defaultValues.lookup 4 = some 0 ∧
      config.statistics.lookup 7 = some (.other 53) ∧ config.defaultValues.lookup 7 = none ∧
      config.cxlRejReason.lookup 9 = some 102 ∧
      (config.users.lookup "b").map User.userId = some 2 := by
  -- What the tables answer is looked up in the document, and the document is evaluated.
  obtain ⟨config, done⟩ := create_repeated
  obtain ⟨-, -, -, users, statistics, defaultValues, -, reasons⟩ := create_contents done
  refine ⟨config, done, ?_, ?_, ?_, ?_, ?_, ?_⟩
  · rw [statistics]; decide +kernel
  · rw [defaultValues]; decide +kernel
  · rw [statistics]; decide +kernel
  · rw [defaultValues]; decide +kernel
  · rw [reasons]; decide +kernel
  · rw [users]; decide +kernel

end Config

end FixBridge
