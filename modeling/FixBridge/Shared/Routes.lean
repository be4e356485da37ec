import FixBridge.Library.Table

/-! The two tables that say which client session receives the order updates of a strategy. -/

namespace FixBridge

/-- Session identifiers are 64-bit counters. -/
abbrev SessionId := UInt64

/-- Strategy identifiers are 32-bit numbers. -/
abbrev StrategyId := UInt32

/-- The routing members of `Shared`. -/
structure Routes where
  /-- The session that registered a strategy. -/
  strategyIdToSessionId : Table StrategyId SessionId
  /-- The strategies that a session registered. -/
  sessionIdToStrategyId : Table SessionId (KeySet StrategyId)
  deriving DecidableEq

namespace Routes

/-- The tables of a bridge that has just been constructed. -/
def empty : Routes := ⟨∅, ∅⟩

/-- `Shared::add_route`: a strategy without a session is registered in both tables. -/
def addRoute (sessionId : SessionId) (strategyId : StrategyId) (routes : Routes) :
    Routes × Bool :=
  match routes.strategyIdToSessionId.lookup strategyId with
  | none =>
    -- The subscript creates the session's set, if there is none, before the strategy is added.
    let strategies := routes.sessionIdToStrategyId.at_ sessionId
    ({ strategyIdToSessionId := (routes.strategyIdToSessionId.emplace strategyId sessionId).1
       sessionIdToStrategyId :=
        routes.sessionIdToStrategyId.insert sessionId (strategies.add strategyId).1 }, true)
  | some _ => (routes, false)

/-- `Shared::remove_route`: only the registered session removes a strategy. -/
def removeRoute (sessionId : SessionId) (strategyId : StrategyId) (routes : Routes) :
    Routes × Bool :=
  match routes.strategyIdToSessionId.lookup strategyId with
  | none => (routes, false)
  | some owner =>
    if owner ≠ sessionId then (routes, false)
    else
      -- The session keeps its entry in the second table, even when its set becomes empty.
      let strategies := routes.sessionIdToStrategyId.at_ sessionId
      ({ sessionIdToStrategyId :=
          routes.sessionIdToStrategyId.insert sessionId (strategies.erase strategyId)
         strategyIdToSessionId := routes.strategyIdToSessionId.erase strategyId }, true)

/-- `Shared::remove_all_routes`: a session and everything it registered leave both tables. -/
def removeAllRoutes (sessionId : SessionId) (routes : Routes) : Routes :=
  match routes.sessionIdToStrategyId.lookup sessionId with
  | none => routes
  | some strategies =>
    -- The strategies of the session are erased one by one from the first table.
    { strategyIdToSessionId := routes.strategyIdToSessionId.eraseAll strategies.keys
      sessionIdToStrategyId := routes.sessionIdToStrategyId.erase sessionId }

end Routes

end FixBridge
