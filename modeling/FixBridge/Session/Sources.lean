import FixBridge.Library.Latch
import FixBridge.Session.Handling
import FixBridge.Session.Plain

/-! The gateways that are connected, and the cancellations that are sent to them. -/

namespace FixBridge

/-- A call by which `Shared` learns about a gateway. -/
inductive SourceCall where
  | addSource (sourceId : UInt8) (sourceName : String)
  | removeSource (sourceId : UInt8) (sourceName : String)

namespace Shared

/-- `Shared::add_source`. -/
def addSource (sourceId : UInt8) (sourceName : String) (shared : Shared) : Shared :=
  -- The subscript inserts a gateway that is not connected where there is none by that name.
  let gateways := (shared.gateways.emplace sourceName (0, false)).1
  -- A gateway that is connected already is only warned about.
  if (gateways.at_ sourceName).2 then { shared with gateways }
  else { shared with gateways := gateways.modify sourceName fun _ => (sourceId, true) }

/-- `Shared::remove_source`. -/
def removeSource (sourceId : UInt8) (sourceName : String) (shared : Shared) : Shared :=
  let gateways := (shared.gateways.emplace sourceName (0, false)).1
  -- A gateway that is not connected is only warned about.
  if (gateways.at_ sourceName).2 then
    { shared with gateways := gateways.modify sourceName fun _ => (sourceId, false) }
  else { shared with gateways }

/-- `Shared::get_sources`: what the callbacks make of a state, and whether there are gateways. -/
def getSources {σ : Type} (callback : UInt8 → String → Bool → σ → σ) (shared : Shared)
    (state : σ) : σ × Bool :=
  if shared.gateways.entries.isEmpty then (state, false)
  else (shared.gateways.entries.foldl
    (fun state entry => callback entry.2.1 entry.1 entry.2.2 state) state, true)

/-- The effect of one call. -/
def call (shared : Shared) : SourceCall → Shared
  | .addSource sourceId sourceName => shared.addSource sourceId sourceName
  | .removeSource sourceId sourceName => shared.removeSource sourceId sourceName

/-- What a sequence of calls has made of the initial state. -/
def called (calls : List SourceCall) : Shared := calls.foldl call {}

/-- The source id of a gateway that is connected. -/
def connected (sourceName : String) (shared : Shared) : Option UInt8 :=
  (shared.gateways.lookup sourceName).bind fun found => if found.2 then some found.1 else none

end Shared

/-- What a call means to the gateway of a name. -/
def SourceCall.signal (sourceName : String) : SourceCall → Latch.Signal UInt8
  | .addSource sourceId name => if name = sourceName then .set sourceId else .idle
  | .removeSource _ name => if name = sourceName then .reset else .idle

/--
A gateway is connected with the source id of an `add_source` that was no redundant call and that
no `remove_source` has undone.
-/
def SourceCall.Connects (sourceName : String) (sourceId : UInt8) (calls : List SourceCall) :
    Prop :=
  Latch.SetTo (SourceCall.signal sourceName) sourceId calls

namespace Shared

variable {sourceId : UInt8} {sourceName : String} {shared : Shared}

section Subscript

variable (gateways : Table String (UInt8 × Bool)) (name other : String)

/-- A subscript inserts an entry for its gateway, and the other gateways keep theirs. -/
theorem lookup_subscript : (gateways.emplace name (0, false)).1.lookup other =
    if other = name then some (gateways.at_ name) else gateways.lookup other :=
  AList.lookup_emplace name other (0, false) gateways

/-- The entry that a subscript refers to tells what was known about the gateway before. -/
theorem at_subscript : (gateways.emplace name (0, false)).1.at_ name = gateways.at_ name := by
  rw [AList.at_, lookup_subscript, if_pos rfl, Option.getD_some]

/-- An assignment through a subscript is an assignment to the entry. -/
theorem lookup_assign (value : UInt8 × Bool) :
    ((gateways.emplace name (0, false)).1.modify name fun _ => value).lookup other =
      if other = name then some value else gateways.lookup other := by
  -- The entry is made if it is not there, and then it is overwritten.
  rw [AList.lookup_modify, lookup_subscript, lookup_subscript, if_pos rfl, Option.map_some]
  split <;> rfl

end Subscript

/-- Adding a source writes to the entry of a gateway that is not connected. -/
theorem lookup_addSource (other : String) :
    (shared.addSource sourceId sourceName).gateways.lookup other =
      if other = sourceName then
        some (if (shared.gateways.at_ sourceName).2 then shared.gateways.at_ sourceName
          else (sourceId, true))
      else shared.gateways.lookup other := by
  -- A gateway that is ready already keeps its source.
  simp only [addSource, at_subscript]
  split
  · exact lookup_subscript _ _ _
  · exact lookup_assign _ _ _ _

/-- Removing a source writes to the entry of a gateway that is connected. -/
theorem lookup_removeSource (other : String) :
    (shared.removeSource sourceId sourceName).gateways.lookup other =
      if other = sourceName then
        some (if (shared.gateways.at_ sourceName).2 then (sourceId, false)
          else shared.gateways.at_ sourceName)
      else shared.gateways.lookup other := by
  -- A gateway that is not ready is left alone, except that it is known from now on.
  simp only [removeSource, at_subscript]
  split
  · exact lookup_assign _ _ _ _
  · exact lookup_subscript _ _ _

/-- A gateway is connected when its entry says so. -/
theorem connected_of_at (shared : Shared) (name : String) :
    shared.connected name =
      if (shared.gateways.at_ name).2 then some (shared.gateways.at_ name).1 else none := by
  -- A gateway that is not known reads as one that is not ready.
  unfold connected AList.at_
  cases shared.gateways.lookup name with
  | none => rfl
  | some found => rfl

/-- Adding a source connects its gateway, which keeps a source id that it has already. -/
theorem connected_addSource (name : String) :
    (shared.addSource sourceId sourceName).connected name =
      if name = sourceName then some ((shared.connected sourceName).getD sourceId)
      else shared.connected name := by
  -- Only the entry of the gateway that is added changes.
  rw [connected, lookup_addSource]
  by_cases same : name = sourceName
  · rw [if_pos same, if_pos same, connected_of_at]
    split <;> simp_all
  · rw [if_neg same, if_neg same, connected]

/-- Removing a source disconnects its gateway. -/
theorem connected_removeSource (name : String) :
    (shared.removeSource sourceId sourceName).connected name =
      if name = sourceName then none else shared.connected name := by
  -- Only the entry of the gateway that is removed changes.
  rw [connected, lookup_removeSource]
  by_cases same : name = sourceName
  · rw [if_pos same, if_pos same]
    split <;> simp_all
  · rw [if_neg same, if_neg same, connected]

/-- To the gateway of a name, a call is what it means to a latch. -/
theorem connected_call (shared : Shared) (call : SourceCall) (name : String) :
    (shared.call call).connected name =
      Latch.step (SourceCall.signal name) (shared.connected name) call := by
  -- A call for this gateway is a signal, and a call for another one is none.
  cases call with
  | addSource sourceId sourceName =>
    rw [Shared.call, connected_addSource]
    by_cases same : name = sourceName
    · subst same; simp [Latch.step, SourceCall.signal]
    · simp [Latch.step, SourceCall.signal, same, Ne.symm same]
  | removeSource sourceId sourceName =>
    rw [Shared.call, connected_removeSource]
    by_cases same : name = sourceName
    · subst same; simp [Latch.step, SourceCall.signal]
    · simp [Latch.step, SourceCall.signal, same, Ne.symm same]

/-- After any calls, a gateway is connected as the calls connect it. -/
theorem connected_called {calls : List SourceCall} {name : String} {sourceId : UInt8} :
    (called calls).connected name = some sourceId ↔ SourceCall.Connects name sourceId calls := by
  -- The gateway follows the calls as a latch does.
  have latched : (called calls).connected name =
      calls.foldl (Latch.step (SourceCall.signal name)) none :=
    (List.foldl_hom (connected name) fun shared call =>
      (connected_call shared call name).symm).symm
  rw [latched]
  exact (Latch.foldl_spec _ calls).2 sourceId

/-- The gateways that are connected, each with its source id. -/
def readySources (shared : Shared) : List (String × UInt8) :=
  (shared.gateways.entries.filter fun entry => entry.2.2).map fun entry => (entry.1, entry.2.1)

/-- The ready sources are those of the connected gateways. -/
theorem mem_readySources {name : String} :
    (name, sourceId) ∈ shared.readySources ↔ shared.connected name = some sourceId := by
  -- The entries of the table are what its lookups answer.
  simp only [readySources, List.mem_map, List.mem_filter, Prod.mk.injEq]
  constructor
  · intro listed
    obtain ⟨⟨other, found⟩, ⟨member, ready⟩, rfl, rfl⟩ := listed
    have located : shared.gateways.lookup other = some found :=
      AList.mem_lookup_iff.mpr member
    rw [connected, located, Option.bind_some, if_pos ready]
  · intro located
    obtain ⟨found, present, same⟩ := Option.bind_eq_some_iff.mp located
    split at same
    · next ready =>
      cases same
      exact ⟨⟨name, found⟩, ⟨AList.mem_lookup_iff.mp present, ready⟩, rfl, rfl⟩
    · cases same

/-- No gateway is listed twice. -/
theorem readySources_nodup (shared : Shared) : (shared.readySources.map Prod.fst).Nodup := by
  -- The names are some of the keys of the table, which are not repeated.
  have listed : shared.readySources.map Prod.fst =
      (shared.gateways.entries.filter fun entry => entry.2.2).map Sigma.fst := by
    rw [readySources, List.map_map]
    rfl
  rw [listed]
  exact List.Nodup.sublist (List.filter_sublist.map Sigma.fst) shared.gateways.nodupKeys

end Shared

namespace Session

variable (env : Environment) (sessionId : SessionId)

/-- Whether or not it throws, the dispatcher was asked to send. -/
theorem outcome_sendCancel (cancel : CancelAllOrders) (sourceId : UInt8) (world : World) :
    outcome (sendCancel env sessionId cancel sourceId world) =
      world.record (.cancelAllOrders sessionId cancel sourceId) := by
  -- The request is noted before it is known whether it can be sent.
  unfold sendCancel
  split <;> rfl

/-- The loop goes on after each source, with an exception caught. -/
theorem cancelSources_cons (cancel : CancelAllOrders) (entry : Sigma fun _ : String => UInt8 × Bool)
    (rest : List (Sigma fun _ : String => UInt8 × Bool)) (world : World) :
    cancelSources env sessionId cancel (entry :: rest) world =
      cancelSources env sessionId cancel rest
        (if entry.2.2 then outcome (sendCancel env sessionId cancel entry.2.1 world)
          else world) := by
  -- A request that cannot be sent is caught, and the loop goes on.
  obtain ⟨name, sourceId, ready⟩ := entry
  rw [cancelSources]
  cases sendCancel env sessionId cancel sourceId world <;> rfl

/-- The orders are cancelled by a callback for the sources that catches every exception. -/
theorem cancelAllOrders_getSources {account : String} (named : account ≠ "") (world : World) :
    cancelAllOrders env sessionId account world =
      (world.controller.shared.getSources (fun sourceId _ ready world =>
        if ready then outcome (sendCancel env sessionId { account } sourceId world) else world)
        world).1 := by
  rw [cancelAllOrders, if_neg named, Shared.getSources]
  generalize world.controller.shared.gateways.entries = entries
  -- Without gateways there is nothing to loop over.
  cases entries with
  | nil => rfl
  | cons first rest =>
    simp only [List.isEmpty_cons, Bool.false_eq_true, if_false]
    generalize first :: rest = entries
    induction entries generalizing world with
    | nil => rfl
    | cons entry rest ih => rw [cancelSources_cons, ih, List.foldl_cons]

/-- The loop over the sources asks for one cancellation for each that is ready. -/
theorem cancelSources_eq (cancel : CancelAllOrders)
    (entries : List (Sigma fun _ : String => UInt8 × Bool)) (world : World) :
    cancelSources env sessionId cancel entries world =
      { world with log := world.log ++ (entries.filter fun entry => entry.2.2).map fun entry =>
        ⟨.cancelAllOrders sessionId cancel entry.2.1, world.controller⟩ } := by
  -- Induction on the entries; those that are not ready are passed over.
  induction entries generalizing world with
  | nil => simp [cancelSources]
  | cons entry rest ih =>
    rw [cancelSources_cons, ih, outcome_sendCancel]
    by_cases ready : entry.2.2 = true
    · simp [ready]
    · simp [ready]

/--
Whatever gateways have come and gone, and whichever sends throw, a session with an account asks
once for each connected gateway, with its source id, that all orders of the account be cancelled.
-/
theorem cancelAllOrders_connected {account : String} (named : account ≠ "")
    {calls : List SourceCall} {world : World}
    (known : world.gateways = (Shared.called calls).gateways) :
    ∃ sends : List (String × UInt8), (sends.map Prod.fst).Nodup ∧
      (∀ sourceName sourceId, (sourceName, sourceId) ∈ sends ↔
        SourceCall.Connects sourceName sourceId calls) ∧
      cancelAllOrders env sessionId account world =
        { world with log := world.log ++ sends.map fun send =>
          { action := .cancelAllOrders sessionId
              { account, orderId := none, exchange := "", symbol := "", strategyId := none
                side := none }
              send.2
            before := world.controller } } := by
  -- The requests go to the sources that are ready, in the order of the table.
  refine ⟨(Shared.called calls).readySources, Shared.readySources_nodup _, ?_, ?_⟩
  · -- To be ready at the end is to be connected by the calls.
    intro sourceName sourceId
    rw [Shared.mem_readySources, Shared.connected_called]
  · have entries : world.controller.shared.gateways.entries = _ := congrArg AList.entries known
    rw [cancelAllOrders, if_neg named, entries, cancelSources_eq, Shared.readySources,
      List.map_map]
    rfl

/-- Gateways come and go, one under different source ids, and two calls are redundant. -/
def comings : List SourceCall := [
  .addSource 1 "deribit",
  .addSource 2 "cme",
  .addSource 3 "deribit",
  .removeSource 2 "cme",
  .addSource 4 "cme",
  .removeSource 5 "ftx"]

/-- Nothing can be sent to the first source. -/
def firstDown : Environment :=
  { Environment.byAccount with notConnected := fun _ sourceId => sourceId = 1 }

/-- Both gateways that are left are asked, though the first source is down. -/
theorem cancelAllOrders_connected_comings :
    let world : World := { controller := { shared := Shared.called comings } }
    let later := cancelAllOrders firstDown 1 "A1" world
    later.log.map Step.action =
      [.cancelAllOrders 1 { account := "A1" } 4, .cancelAllOrders 1 { account := "A1" } 1] ∧
    ∃ sends : List (String × UInt8), (sends.map Prod.fst).Nodup ∧
      (∀ sourceName sourceId, (sourceName, sourceId) ∈ sends ↔
        SourceCall.Connects sourceName sourceId comings) ∧
      later = { world with log := world.log ++ sends.map fun send =>
        { action := .cancelAllOrders 1
            { account := "A1", orderId := none, exchange := "", symbol := "", strategyId := none
              side := none }
            send.2
          before := world.controller } } :=
  ⟨by decide +kernel, cancelAllOrders_connected firstDown 1 (by decide) rfl⟩

end Session

end FixBridge
