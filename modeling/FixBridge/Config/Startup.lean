import FixBridge.Config.Contents

/-! What the controller makes of a configuration at start-up: the options of the bridge. -/

namespace FixBridge

namespace Controller

/--
The members of `fix::bridge::Manager::Options` that are made of the configuration.

The others are copied from settings that nothing else reads.
-/
structure Options where
  compId : String
  defaultValues : List (Config.StatisticsType × UInt64)
  statistics : List (Config.StatisticsType × Config.MDEntryType)
  routeByStrategy : Bool
  cxlRejReasonMapping : List (Config.Error × Config.CxlRejReason)
  testInitMissingMdEntryTypeToZero : Bool
  deriving DecidableEq, Repr

/-- The orders in which the hash tables are walked that `create_bridge` reads. -/
structure OptionsOrder where
  defaultValues : List Config.StatisticsType
  statistics : List Config.StatisticsType
  cxlRejReason : List Config.Error

/-- `create_bridge`, up to the creation of the bridge from its options. -/
def createBridge (order : OptionsOrder) (settings : Config.Settings) (fixCompId : String)
    (config : Config) : Options where
  compId := fixCompId
  defaultValues := config.defaultValues.walk order.defaultValues
  statistics := config.statistics.walk order.statistics
  routeByStrategy := settings.omsRouteByStrategy
  cxlRejReasonMapping := config.cxlRejReason.walk order.cxlRejReason
  testInitMissingMdEntryTypeToZero := settings.initMissingMdEntryTypeToZero

end Controller

namespace Config

open Document

/--
The options of the bridge hold exactly what an accepted document says, and each key once.

No statistics type is mapped to a usual one, there are default values only with the flag, and no
reason clashes with those of the standard.
-/
theorem createBridge_described {settings : Settings} {libraries : Libraries}
    {order : List String} {document : Root} {config : Config}
    (done : create settings libraries order document = .ok config)
    (walk : Controller.OptionsOrder) (fixCompId : String) :
    let options := Controller.createBridge walk settings fixCompId config
    let statistics := sectionOf "statistics" document
    let errors := sectionOf "errors" document
    ((options.statistics.map Prod.fst).Nodup ∧
      (∀ type mdEntryType, (type, mdEntryType) ∈ options.statistics ↔
        (statistics.filterMap (readStatisticsType libraries)).lookup type = some mdEntryType) ∧
      ∀ entry ∈ options.statistics, entry.2 ∉ [.undefined, .bid, .offer, .trade]) ∧
    ((options.defaultValues.map Prod.fst).Nodup ∧
      (∀ type value, (type, value) ∈ options.defaultValues ↔
        (statistics.filterMap (readDefaultValue libraries)).lookup type = some value) ∧
      (options.testInitMissingMdEntryTypeToZero = false → options.defaultValues = [])) ∧
    ((options.cxlRejReasonMapping.map Prod.fst).Nodup ∧
      (∀ error reason, (error, reason) ∈ options.cxlRejReasonMapping ↔
        (errors.filterMap (readReason libraries)).reverse.lookup error = some reason) ∧
      ∀ entry ∈ options.cxlRejReasonMapping, 100 ≤ entry.2) := by
  intro options statistics errors
  have contents := contents_of_create done
  -- A walk lists what the keys of a table lead to, and that is what the sections say.
  have types : ∀ type mdEntryType, (type, mdEntryType) ∈ options.statistics ↔
      (statistics.filterMap (readStatisticsType libraries)).lookup type = some mdEntryType := by
    intro type mdEntryType
    rw [show options.statistics = config.statistics.walk walk.statistics from rfl,
      contents.statistics]
    exact AList.mem_walk_emplaceAll
  have values : ∀ type value, (type, value) ∈ options.defaultValues ↔
      (statistics.filterMap (readDefaultValue libraries)).lookup type = some value := by
    intro type value
    rw [show options.defaultValues = config.defaultValues.walk walk.defaultValues from rfl,
      contents.defaultValues]
    exact AList.mem_walk_emplaceAll
  have reasons : ∀ error reason, (error, reason) ∈ options.cxlRejReasonMapping ↔
      (errors.filterMap (readReason libraries)).reverse.lookup error = some reason := by
    intro error reason
    rw [show options.cxlRejReasonMapping = config.cxlRejReason.walk walk.cxlRejReason from rfl,
      contents.cxlRejReason]
    exact AList.mem_walk_insertAll
  refine ⟨⟨AList.nodup_walk _ _, types, fun entry member => ?_⟩,
    ⟨AList.nodup_walk _ _, values, fun off => ?_⟩,
    ⟨AList.nodup_walk _ _, reasons, fun entry member => ?_⟩⟩
  · exact contents.remapped entry (AList.mem_of_lookup_eq ((types entry.1 entry.2).mp member))
  · refine List.eq_nil_iff_forall_not_mem.mpr fun entry member => ?_
    have found := (values entry.1 entry.2).mp member
    rw [contents.allowed off] at found
    cases found
  · have found := AList.mem_of_lookup_eq ((reasons entry.1 entry.2).mp member)
    exact contents.custom entry (List.mem_reverse.mp found)

/-- A statistics type and a repeated error of a document reach the bridge once each. -/
theorem createBridge_described_repeated :
    ∃ config, create ⟨false, false, true⟩ caselessLibraries [] repeated = .ok config ∧
      let options := Controller.createBridge ⟨[], [], []⟩ ⟨false, false, true⟩ "BRIDGE" config
      (4, .other 52) ∈ options.statistics ∧ (9, 102) ∈ options.cxlRejReasonMapping ∧
        (9, 101) ∉ options.cxlRejReasonMapping := by
  -- The document is accepted, and then the options say what it describes.
  obtain ⟨config, done⟩ := create_repeated
  obtain ⟨⟨-, types, -⟩, -, -, reasons, -⟩ :=
    createBridge_described done ⟨[], [], []⟩ "BRIDGE"
  -- The reason that is given last is kept, and the one before it is gone.
  refine ⟨config, done, (types _ _).mpr ?_, (reasons _ _).mpr ?_, (reasons _ _).not.mpr ?_⟩
  all_goals decide +kernel

end Config

end FixBridge
