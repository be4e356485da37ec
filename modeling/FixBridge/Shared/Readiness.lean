import FixBridge.Library.History
import FixBridge.Shared.Logons

/-! What a history of status events has to do with the logons that `Shared` accepts. -/

namespace FixBridge

open History

/-- The events that decide about an account: a stream's with orders, or the end of all streams. -/
def StatusEvent.concerns (account : String) : StatusEvent → Bool
  | .disconnected => true
  | .streamStatus value => value.account = account && value.supportsOrder

/-- The status that an event leaves behind for an account that it concerns. -/
def StatusEvent.status? : StatusEvent → Option ConnectionStatus
  | .disconnected => none
  | .streamStatus value => some value.connectionStatus

/-- The latest of a source's events that concern an account. -/
def latestStatus (account : String) (source : Nat) (history : List (UInt8 × StatusEvent)) :
    Option StatusEvent :=
  (latest (fun event => event.1.toNat = source && event.2.concerns account) history).map Prod.snd

namespace Authentication

/-- The status that is known of an account at a source. -/
def status? (account : String) (source : Nat) (shared : Authentication) :
    Option ConnectionStatus :=
  shared.omsStatus[source]?.bind fun statuses => statuses.lookup account

/-- The state in which `Shared` is constructed, for a number of sources. -/
def initial (blockClientOnNotReady : Bool) (crypto : Crypto) (usernameToUser : Table String User)
    (sourceCount : Nat) : Authentication where
  blockClientOnNotReady
  crypto
  usernameToUser
  omsStatus := List.replicate sourceCount ∅

/-- What the events never change. -/
structure Frame (first second : Authentication) : Prop where
  blockClientOnNotReady : second.blockClientOnNotReady = first.blockClientOnNotReady
  crypto : second.crypto = first.crypto
  usernameToUser : second.usernameToUser = first.usernameToUser
  sources : second.omsStatus.length = first.omsStatus.length

/-- An event changes the status of accounts only. -/
theorem handle_frame (shared : Authentication) (event : UInt8 × StatusEvent) :
    Frame shared (shared.handle event) := by
  obtain ⟨source, event⟩ := event
  cases event with
  | disconnected => exact ⟨rfl, rfl, rfl, by simp [handle, disconnected]⟩
  | streamStatus value =>
    simp only [handle, streamStatus]
    -- A stream that is passed over changes nothing at all.
    split
    · exact ⟨rfl, rfl, rfl, rfl⟩
    · split
      · exact ⟨rfl, rfl, rfl, rfl⟩
      · exact ⟨rfl, rfl, rfl, by simp⟩

/-- A history changes the status of accounts only. -/
theorem run_frame (shared : Authentication) (history : List (UInt8 × StatusEvent)) :
    Frame shared (shared.run history) := by
  -- Induction on the history, no event of which touches these members.
  induction history generalizing shared with
  | nil => exact ⟨rfl, rfl, rfl, rfl⟩
  | cons event rest ih =>
    have first := handle_frame shared event
    have later := ih (shared.handle event)
    exact ⟨later.1.trans first.1, later.2.trans first.2, later.3.trans first.3,
      later.4.trans first.4⟩

/-- An event overwrites the status of an account that it concerns, at its source. -/
theorem status_handle {account : String} (named : account ≠ "") {source : Nat}
    {shared : Authentication} (known : source < shared.omsStatus.length)
    (event : UInt8 × StatusEvent) :
    (shared.handle event).status? account source =
      if (event.1.toNat = source && event.2.concerns account) = true then event.2.status?
      else shared.status? account source := by
  obtain ⟨at_, event⟩ := event
  unfold status?
  cases event with
  | disconnected =>
    -- The table of the source is emptied, whatever was in it.
    simp only [handle, disconnected, StatusEvent.concerns, StatusEvent.status?, Bool.and_true,
      decide_eq_true_eq, List.getElem?_set]
    by_cases here : at_.toNat = source
    · simp [here, known]
    · simp [here]
  | streamStatus value =>
    simp only [handle, streamStatus, StatusEvent.concerns, StatusEvent.status?]
    by_cases anonymous : value.account = ""
    · -- The account that is asked about has a name.
      have other : value.account ≠ account := by rw [anonymous]; exact named.symm
      simp [anonymous, named.symm]
    rw [if_neg anonymous]
    by_cases orders : value.supportsOrder = true
    · simp only [orders, Bool.not_true, Bool.false_eq_true, if_false, Bool.and_true,
        Bool.and_eq_true, decide_eq_true_eq, List.getElem?_modify]
      by_cases here : at_.toNat = source
      · -- The entry of the stream's account is overwritten, and no other.
        rw [List.getElem?_eq_getElem known]
        by_cases same : value.account = account
        · simp [here, same]
        · simp [here, same, Ne.symm same]
      · simp [here]
    · simp [orders]

/-- The status of an account at a source is that of the latest event that concerns it. -/
theorem status_run {account : String} (named : account ≠ "") {source : Nat}
    {shared : Authentication} (known : source < shared.omsStatus.length)
    (history : List (UInt8 × StatusEvent)) :
    (shared.run history).status? account source =
      ((latestStatus account source history).map StatusEvent.status?).getD
        (shared.status? account source) := by
  -- The sources stay known, so that every event about this one is written down.
  have kept : ∀ (state : Authentication) event, source < state.omsStatus.length →
      source < (state.handle event).omsStatus.length := by
    intro state event within
    rw [(handle_frame state event).sources]
    exact within
  -- As a fold, the last event that concerns the account and the source is what is seen.
  have seen := (foldl_latest (status? account source) _ kept
    (fun state event within => status_handle named within event) history known).2
  rw [latestStatus, Option.map_map]
  exact seen

/-- An account is ready when its status is, at every source. -/
theorem ready_iff {account : String} {shared : Authentication} :
    ready account shared.omsStatus = true ↔
      ∀ source < shared.omsStatus.length, shared.status? account source = some .ready := by
  -- The loop over the sources asks each of them for its status.
  simp only [ready, List.all_eq_true, decide_eq_true_eq, status?]
  constructor
  · intro each source known
    rw [List.getElem?_eq_getElem known]
    exact each _ (List.getElem_mem known)
  · intro each statuses member
    obtain ⟨source, known, rfl⟩ := List.getElem_of_mem member
    simpa [List.getElem?_eq_getElem known] using each source known

/-- Nothing is known of any account when `Shared` is constructed. -/
theorem status_initial (account : String) (source : Nat) (blockClientOnNotReady : Bool)
    (crypto : Crypto) (usernameToUser : Table String User) (sourceCount : Nat) :
    (initial blockClientOnNotReady crypto usernameToUser sourceCount).status? account source =
      none := by
  -- A known source starts with an empty table, and an unknown one has none.
  simp only [status?, initial, List.getElem?_replicate]
  split
  · rfl
  · rfl

/-- An account is ready after a history when its latest event says so, at every source. -/
theorem ready_run_iff {account : String} (named : account ≠ "") (blockClientOnNotReady : Bool)
    (crypto : Crypto) (usernameToUser : Table String User) (sourceCount : Nat)
    (history : List (UInt8 × StatusEvent)) :
    let shared := initial blockClientOnNotReady crypto usernameToUser sourceCount
    ready account (shared.run history).omsStatus = true ↔
      ∀ source < sourceCount, ∃ value,
        latestStatus account source history = some (.streamStatus value) ∧
          value.connectionStatus = .ready := by
  intro shared
  have sources : shared.omsStatus.length = sourceCount := List.length_replicate
  rw [ready_iff, (run_frame shared history).sources, sources]
  refine forall_congr' fun source => forall_congr' fun known => ?_
  rw [status_run named (sources.symm ▸ known), status_initial]
  -- Without an event, and after the end of all streams, no status is known.
  cases latestStatus account source history with
  | none => simp
  | some event =>
    cases event with
    | disconnected => simp [StatusEvent.status?]
    | streamStatus value => simp [StatusEvent.status?]

/-- Events that do not concern an account have no part in what is latest for it. -/
theorem latestStatus_filter (account : String) (source : Nat)
    (history : List (UInt8 × StatusEvent)) :
    latestStatus account source (history.filter fun event => event.2.concerns account) =
      latestStatus account source history := by
  -- An event about the account and the source is one about the account.
  unfold latestStatus
  rw [latest_filter]
  intro event both
  exact (Bool.and_eq_true_iff.mp both).2

/-- The credentials are judged by the user's readiness, and by what the events never change. -/
theorem sessionLogon_congr {primitives : Crypto.Primitives} {now : Int64}
    {credentials : Credentials} {user : User} {first second : Authentication}
    (found : first.usernameToUser.lookup credentials.username = some user)
    (same : Frame first second)
    (equally : ready user.account first.omsStatus = ready user.account second.omsStatus) :
    first.sessionLogon primitives now credentials =
      second.sessionLogon primitives now credentials := by
  -- The function reads the members that are the same, and of the rest only the readiness.
  unfold sessionLogon sessionLogonHelper
  rw [same.usernameToUser, same.blockClientOnNotReady, same.crypto, found]
  simp only [equally]

/--
A user with an account is let in when the credentials are right and every source is ready.

A source is ready when the latest of its events that concern the account says so; the other
events change nothing, wherever they stand. Sources from the count on have no table.
-/
theorem accepts_run_iff (primitives : Crypto.Primitives) (now : Int64) (credentials : Credentials)
    (crypto : Crypto) (usernameToUser : Table String User) (sourceCount : Nat)
    (history : List (UInt8 × StatusEvent)) {user : User}
    (found : usernameToUser.lookup credentials.username = some user)
    (accounted : user.account ≠ "") :
    let shared := initial true crypto usernameToUser sourceCount
    ((shared.run history).Accepts primitives now credentials ↔
      credentials.component = user.component ∧
        credentials.Validates primitives crypto now user ∧
        ∀ source < sourceCount, ∃ value,
          latestStatus user.account source history = some (.streamStatus value) ∧
            value.connectionStatus = .ready) ∧
    (shared.run history).sessionLogon primitives now credentials =
      (shared.run (history.filter fun event => event.2.concerns user.account)).sessionLogon
        primitives now credentials := by
  intro shared
  have framed := run_frame shared history
  have located : (shared.run history).usernameToUser.lookup credentials.username = some user := by
    rw [framed.usernameToUser]
    exact found
  have readiness := ready_run_iff accounted true crypto usernameToUser sourceCount history
  refine ⟨?_, ?_⟩
  · rw [accepts_iff, located]
    simp only [Option.some_inj, exists_eq_left', accounted, false_or, framed.crypto,
      framed.blockClientOnNotReady]
    -- The check for readiness is made, since the flag is set.
    constructor
    · intro passed
      obtain ⟨isReady, component, validates⟩ := passed
      exact ⟨component, validates, readiness.mp (isReady rfl)⟩
    · intro passed
      obtain ⟨component, validates, statuses⟩ := passed
      exact ⟨fun _ => readiness.mpr statuses, component, validates⟩
  · have filtered := run_frame shared (history.filter fun event => event.2.concerns user.account)
    refine sessionLogon_congr located ⟨?_, ?_, ?_, ?_⟩ ?_
    · rw [filtered.blockClientOnNotReady, framed.blockClientOnNotReady]
    · rw [filtered.crypto, framed.crypto]
    · rw [filtered.usernameToUser, framed.usernameToUser]
    · rw [filtered.sources, framed.sources]
    · -- Both histories have the same latest events.
      have filteredReadiness := ready_run_iff accounted true crypto usernameToUser sourceCount
        (history.filter fun event => event.2.concerns user.account)
      simp only [latestStatus_filter] at filteredReadiness
      exact Bool.eq_iff_iff.mpr (readiness.trans filteredReadiness.symm)

/-- Alice, whose account is known as `A1`. -/
def alice : User where
  userId := 1
  component := "bridge"
  username := "alice"
  password := "secret"
  strategyId := 0
  account := "A1"
  accountsRegex := []
  symbolsRegex := []

/-- Two sources of which the first has been lost and has come back, among events of others. -/
def recovered : List (UInt8 × StatusEvent) := [
  (0, .streamStatus ⟨"A1", true, .ready⟩), (1, .streamStatus ⟨"A1", true, .ready⟩),
  (0, .disconnected), (1, .streamStatus ⟨"A1", false, .undefined⟩),
  (0, .streamStatus ⟨"A1", true, .ready⟩), (0, .streamStatus ⟨"A2", true, .undefined⟩)]

/-- Alice is let in when both sources are ready for her account. -/
theorem accepts_run_iff_alice :
    (run (initial true ⟨.undefined, 0⟩ (AList.singleton "alice" alice) 2) recovered).Accepts
      Config.plainPrimitives 0 ⟨"bridge", "alice", "secret", ""⟩ := by
  refine (accepts_run_iff Config.plainPrimitives 0 ⟨"bridge", "alice", "secret", ""⟩
    ⟨.undefined, 0⟩ (AList.singleton "alice" alice) 2 recovered rfl (by decide)).1.mpr
    ⟨rfl, ⟨_, rfl, rfl⟩, fun source known => ?_⟩
  -- There are two sources, each with its own latest event.
  match source, known with
  | 0, _ => exact ⟨_, rfl, rfl⟩
  | 1, _ => exact ⟨_, rfl, rfl⟩

end Authentication

end FixBridge
