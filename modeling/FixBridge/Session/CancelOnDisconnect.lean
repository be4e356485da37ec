import FixBridge.Session.Chains
import FixBridge.Session.Plain

/-! Orders that are not cancelled when a session ends. -/

namespace FixBridge

/-- A source is connected when the last that the controller was told about it is Connected. -/
def SourceConnected (sourceId : UInt8) (history : List Step) : Prop :=
  (history.filterMap fun step =>
    match step.action with
    | .gatewayConnected source _ => if source = sourceId then some true else none
    | .gatewayDisconnected source _ => if source = sourceId then some false else none
    | _ => none).getLast? = some true

instance (sourceId : UInt8) (history : List Step) : Decidable (SourceConnected sourceId history) :=
  inferInstanceAs (Decidable (_ = _))

/-- The bridge sends a session the reply to a Logon of a user. -/
def Step.logsOn (sessionId : SessionId) (username : String) (step : Step) : Bool :=
  match step.action with
  | .send session .addressed sent => session = sessionId ∧ sent.value = .logon username
  | _ => false

/-- The bridge sent a session the reply to a Logon of a user. -/
def LoggedOnAs (sessionId : SessionId) (username : String) (history : List Step) : Prop :=
  ∃ step ∈ history, step.logsOn sessionId username

instance (sessionId : SessionId) (username : String) (history : List Step) :
    Decidable (LoggedOnAs sessionId username history) :=
  inferInstanceAs (Decidable (∃ step ∈ history, _))

/--
A step with which a session ends that has orders to cancel.

The option is set, the session becomes a zombie for the first time, and the bridge logged it on for
a user with an account.
-/
structure OwesCancel (env : Environment) (sessionId : SessionId) (account : String)
    (history : List Step) (step : Step) : Prop where
  enabled : env.settings.cancelOnDisconnect = true
  ends : step.action = .makeZombie sessionId
  first : step.before.Open sessionId
  named : account ≠ ""
  loggedOn : ∃ username user, LoggedOnAs sessionId username history ∧
    env.users.lookup username = some user ∧ user.account = account

namespace Process

variable (env : Environment)

/-- A session that is not ready cancels no orders, and no session is ever ready. -/
theorem run_cancels (events : List Event) :
    ∀ step ∈ (run env events).world.log, ¬ step.action.Cancels :=
  -- That no step of the log cancels orders is an invariant, which every step keeps.
  run_invariant env (fun world => ∀ step ∈ world.log, ¬ step.action.Cancels)
    (fun _ member => by cases member)
    (fun step calm _ quiet _ member => ((step.extends calm).mem member).elim (quiet _) id) events

/--
In a run, the orders of sessions that end are cancelled at the connected sources exactly if there
are no connected sources whenever a session ends that has orders to cancel.
-/
theorem run_cancelOnDisconnect (events : List Event) :
    (∀ earlier step later, (run env events).world.log = earlier ++ step :: later →
      ∀ sessionId account sourceId, OwesCancel env sessionId account earlier step →
        SourceConnected sourceId earlier →
        ∃ request ∈ later, request.action = .cancelAllOrders sessionId { account } sourceId) ↔
    (∀ earlier step later, (run env events).world.log = earlier ++ step :: later →
      ∀ sessionId account, OwesCancel env sessionId account earlier step →
        ∀ sourceId, ¬ SourceConnected sourceId earlier) := by
  constructor
  · -- A cancellation would be among the steps of the run, which has none.
    intro cancelled earlier step later split sessionId account owes sourceId connected
    obtain ⟨request, member, action⟩ :=
      cancelled earlier step later split sessionId account sourceId owes connected
    refine run_cancels env events request (by simp [split, member]) ?_
    rw [action]
    trivial
  · intro none_ earlier step later split sessionId account sourceId owes connected
    -- Nothing is promised when no source is connected.
    exact absurd connected (none_ earlier step later split sessionId account owes sourceId)

/-- The user alice logs on and disconnects while a source is connected, and nothing is cancelled. -/
theorem run_cancelOnDisconnect_logged_on :
    let log := (run .byAccount [.gatewayConnected 1 "deribit" [], .accept, .read 1 logon,
      .bridge [.message 1 (.logon "alice")], .disconnected 1]).world.log
    ∃ earlier step later, log = earlier ++ step :: later ∧
      OwesCancel .byAccount 1 "A1" earlier step ∧ SourceConnected 1 earlier ∧
      ∀ request ∈ later, request.action ≠ .cancelAllOrders 1 { account := "A1" } 1 := by
  intro log
  -- The eighth step of the run ends the session.
  have ends : ∀ step ∈ log[7]?, step.action = .makeZombie 1 ∧ step.before.Open 1 := by
    decide +kernel
  have long : 7 < log.length := by decide +kernel
  have found : log[7] ∈ log[7]? := List.getElem?_eq_getElem long
  have split : log = log.take 7 ++ log[7] :: log.drop 8 := by
    rw [← List.drop_eq_getElem_cons long, List.take_append_drop]
  -- Alice was logged on in the steps before.
  have loggedOn : LoggedOnAs 1 "alice" (log.take 7) := by decide +kernel
  refine ⟨log.take 7, log[7], log.drop 8, split, ⟨rfl, (ends _ found).1, (ends _ found).2,
    by decide, "alice", accountedAlice, loggedOn, by decide +kernel, rfl⟩, ?_, ?_⟩
  · decide +kernel
  · decide +kernel

end Process

end FixBridge
