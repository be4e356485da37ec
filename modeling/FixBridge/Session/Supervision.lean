import FixBridge.Library.Supervision
import FixBridge.Session.Traces
import FixBridge.Session.Turns
import Mathlib.Data.UInt

/-! What `Session::check` reports about the sequence numbers that a session receives. -/

namespace FixBridge

open Supervision (Report)

/-- Sequence numbers count like their values, as long as they do not wrap around. -/
theorem counts_toNat : Supervision.Counts UInt64.toNat where
  injective _ _ same := UInt64.toNat_inj.mp same
  lt_iff := UInt64.lt_iff_toNat_lt
  succ {first second} less := by
    -- A number below another one is not the greatest of all.
    have bound := second.toNat_lt
    rw [UInt64.toNat_add, UInt64.toNat_one, Nat.mod_eq_of_lt (by omega)]
  sub less := UInt64.toNat_sub_of_le _ _ (UInt64.le_iff_toNat_le.mpr less)

/-- Counting from zero gives the number of the count. -/
theorem nsmul_one_eq (count : Nat) : count • (1 : UInt64) = UInt64.ofNat count := by
  -- Induction on the count, since addition of words wraps around as `ofNat` does.
  induction count with
  | zero => rfl
  | succ count ih =>
    rw [succ_nsmul, ih, UInt64.ofNat_add]
    rfl

/-- The warning of `Session::check`: `SEQUENCE GAP` or `SEQUENCE REPLAY`. -/
def Session.checkSequence (header : Header) (session : Session) : Option (Report UInt64) :=
  let current := header.msgSeqNum
  let expected := session.inbound + 1
  if current ≠ expected then
    if expected < current then some (.gap current session.inbound (current - session.inbound))
    else some (.replay current session.inbound (session.inbound - current))
  else none

/-- The number is inspected as one that should come after the previous one. -/
theorem Session.checkSequence_eq (header : Header) (session : Session) :
    session.checkSequence header = Supervision.inspect session.inbound header.msgSeqNum := by
  -- Both compare with the next number, in the same order.
  unfold checkSequence Supervision.inspect
  split <;> simp_all

/-- What a step reports about a session, if it is a check of one of its headers. -/
def Step.report? (sessionId : SessionId) (step : Step) : Option (Report UInt64) :=
  match step.action with
  | .check other header =>
    if other = sessionId then
      (step.before.session sessionId).bind (Session.checkSequence header)
    else none
  | _ => none

namespace World

/-- Everything that has been reported about the numbers that a session has received. -/
def reports (sessionId : SessionId) (world : World) : List (Report UInt64) :=
  world.log.filterMap (Step.report? sessionId)

/-- The numbers that a session has received. -/
def numbers (sessionId : SessionId) (world : World) : List UInt64 :=
  ((world.actions sessionId).filterMap Action.checked?).map Header.msgSeqNum

end World

/-- A header is checked by a session that records what it has done before. -/
def Step.Recorded (earlier : List Step) (step : Step) : Prop :=
  ∀ sessionId header, step.action = .check sessionId header →
    ∃ session, step.before.session sessionId = some session ∧
      session.Records ((earlier.map Step.action).filter fun action =>
        action.sessionId? = some sessionId)

/-- A step of the process is the check of a header by an open session, or contains no check. -/
theorem ProcessStep.checks {env : Environment} {world next : World}
    (step : ProcessStep env world next) (calm : world.NeverReady) :
    (∃ sessionId header, world.Open sessionId ∧ next = Session.check sessionId header world) ∨
      History.Extends (fun step => ∀ sessionId header, step.action ≠ .check sessionId header)
        world.log next.log := by
  -- Only the first of the steps checks a header; the actions of the others are known.
  cases step with
  | check sessionId header alive => exact Or.inl ⟨sessionId, header, alive, rfl⟩
  | bridge step =>
    refine Or.inr ((step.extends calm).mono fun step bridged sessionId header same => ?_)
    rw [same] at bridged
    exact bridged
  | reply sessionId value stored =>
    refine Or.inr ((Session.sendHelper_extends ..).mono fun step sends => ?_)
    obtain ⟨sent, same⟩ := sends
    simp [same]
  | enroll =>
    obtain ⟨first, second, log, -⟩ := SessionManager.enroll_log world
    exact Or.inr ⟨_, log, by simp⟩
  | disconnected sessionId stored =>
    refine Or.inr ((Session.conclude_extends env calm (Session.ends_of_stored stored)).mono
      fun step kind => ?_)
    -- The five actions of an ending, none of which is a check.
    rcases kind with same | same | same | same | same <;> simp [same]
  | removeZombies =>
    refine Or.inr ((SessionManager.removeZombies_extends env world).mono fun step kind => ?_)
    obtain ⟨sessionId, same⟩ := kind
    simp [same]
  | schedule => exact Or.inr (.refl _ _)
  | message | addRoute | removeRoute | gatewayConnected | gatewayDisconnected =>
    exact Or.inr (.single (by simp))

/-- The numbers that checks have looked at, up to some point of a history. -/
def numbersOf (sessionId : SessionId) (steps : List Step) : List UInt64 :=
  (((steps.map Step.action).filter fun action => action.sessionId? = some sessionId).filterMap
    Action.checked?).map Header.msgSeqNum

/-- One step more may be one number more. -/
theorem numbersOf_concat (sessionId : SessionId) (steps : List Step) (step : Step) :
    numbersOf sessionId (steps ++ [step]) =
      numbersOf sessionId steps ++ numbersOf sessionId [step] := by
  simp [numbersOf]

/-- A step that is no check of a session's header reports nothing about it. -/
theorem report_of_other {sessionId : SessionId} {step : Step}
    (other : ¬ ∃ header, step.action = .check sessionId header) :
    Step.report? sessionId step = none ∧ numbersOf sessionId [step] = [] := by
  -- A check by another session does not concern this one, and other actions report nothing.
  obtain ⟨action, before⟩ := step
  cases action with
  | check checker header =>
    have different : checker ≠ sessionId := fun same => other ⟨header, by rw [same]⟩
    simp [Step.report?, numbersOf, Action.sessionId?, different]
  | _ =>
    refine ⟨rfl, ?_⟩
    simp [numbersOf, List.filter_cons, apply_ite, Action.checked?]

/-- The reports of a history are those about the numbers that have been looked at. -/
theorem reports_of_recorded {steps : List Step} (recorded : History.Each Step.Recorded steps)
    (sessionId : SessionId) :
    steps.filterMap (Step.report? sessionId) =
      Supervision.reports 0 (numbersOf sessionId steps) := by
  induction steps using List.reverseRecOn with
  | nil => rfl
  | append_singleton steps step ih =>
    have before := ih (History.each_append.mp recorded).1
    rw [numbersOf_concat, List.filterMap_append, before]
    -- The step looks at one more number, or it has nothing to do with this session.
    by_cases checks : ∃ header, step.action = .check sessionId header
    · obtain ⟨header, action⟩ := checks
      obtain ⟨session, located, records⟩ := recorded steps step [] rfl sessionId header action
      -- The previous number is that of the last header in the record.
      have previous : session.inbound = Supervision.last 0 (numbersOf sessionId steps) := by
        rw [records.inbound, records.received, Supervision.last, numbersOf, List.getLast?_map]
      have one : numbersOf sessionId [step] = [header.msgSeqNum] := by
        simp [numbersOf, action, Action.sessionId?, Action.checked?]
      have reported : Step.report? sessionId step = session.checkSequence header := by
        simp [Step.report?, action, located]
      rw [one, Supervision.reports_concat, ← previous, ← Session.checkSequence_eq,
        List.filterMap_cons, reported]
      cases session.checkSequence header <;> rfl
    · obtain ⟨silent, nothing⟩ := report_of_other checks
      rw [nothing, List.append_nil, List.filterMap_cons_none silent, List.filterMap_nil,
        List.append_nil]

namespace Process

/-- Every header of a run is checked by a session that records what it has done before. -/
theorem run_recorded (env : Environment) (events : List Event)
    (few : (run env events).world.enrolled.length < 2 ^ 64) :
    History.Each Step.Recorded (run env events).world.log := by
  have both : (World.lives env.settings).Tracks {} (run env events).world ∧
      History.Each Step.Recorded (run env events).world.log := by
    refine @run_few_invariant env (fun world => (World.lives env.settings).Tracks {} world ∧
      History.Each Step.Recorded world.log) ⟨.refl _ ({} : World), History.each_nil _⟩
      (fun step calm listed life few before => ?_) events few
    obtain ⟨tracks, recorded⟩ := before
    refine ⟨tracks.trans (step.tracks calm listed life few), ?_⟩
    rcases step.checks calm with ⟨sessionId, header, alive, rfl⟩ | others
    · -- The session that looks at the header has recorded everything so far.
      obtain ⟨session, located, -⟩ := World.open_iff.mp alive
      refine History.each_append.mpr ⟨recorded, ?_⟩
      simp only [History.each_cons, History.each_nil, and_true, List.append_nil]
      rintro other header' ⟨⟩
      exact ⟨session, located, World.records_of_tracks tracks located⟩
    · exact others.each recorded fun earlier entry kind sessionId header same =>
        absurd same (kind sessionId header)
  exact both.2

/--
A session reports exactly where the numbers that it receives jump, and by how much.

It is silent as long as the numbers are 1, 2, 3, and so on. The last number is the count of the
messages together with the jumps that were reported, wrapping around as 64-bit numbers do. If the
numbers go up, only gaps are reported, and together they tell how many messages are missing; each
distance is one more than the number of messages that its gap has left out.
-/
theorem run_supervised (env : Environment) (events : List Event)
    (few : (run env events).world.enrolled.length < 2 ^ 64) (sessionId : SessionId) :
    let world := (run env events).world
    let numbers := world.numbers sessionId
    let reports := world.reports sessionId
    let last := Supervision.last 0 numbers
    (reports = [] ↔
      numbers = (List.range numbers.length).map fun index => UInt64.ofNat (index + 1)) ∧
    last = UInt64.ofNat numbers.length + (reports.map Report.jump).sum ∧
    ((0 :: numbers.map UInt64.toNat).Pairwise (· < ·) →
      (∀ report ∈ reports, ∃ current previous distance,
        report = .gap current previous distance) ∧
      (Finset.Ioc 0 last.toNat \ (numbers.map UInt64.toNat).toFinset).card =
        (reports.map (Report.missing UInt64.toNat)).sum) := by
  -- What was reported is what the general supervision of the numbers says.
  intro world numbers reports last
  have same : reports = Supervision.reports 0 numbers :=
    reports_of_recorded (run_recorded env events few) sessionId
  refine ⟨?_, ?_, fun increasing => ?_⟩
  · rw [same, Supervision.reports_eq_nil]
    simp only [zero_add, nsmul_one_eq]
  · have balance := Supervision.last_eq 0 numbers
    rw [zero_add, nsmul_one_eq, ← same] at balance
    exact balance
  · rw [same]
    -- Increasing words have increasing values, so that nothing wraps around.
    have above : ((0 : UInt64).toNat :: numbers.map UInt64.toNat).Pairwise (· < ·) := increasing
    exact ⟨(Supervision.reports_of_increasing counts_toNat above).1,
      Supervision.missing_of_increasing counts_toNat above⟩

/-- A Logon of the user alice whose number is not the first one. -/
def lateLogon : List UInt8 := bytesOf <|
  "8=FIX.4.4|9=0000077|35=A|49=CLIENT|56=BRIDGE|34=3|52=19700101-00:00:00.000|" ++
  "98=0|108=30|553=alice|10=030|"

/-- A client that begins with the number 3, and sends it again, is reported twice. -/
theorem run_supervised_jumps :
    let world := (run .plain [.accept, .read 1 lateLogon, .read 1 lateLogon]).world
    world.reports 1 = [.gap 3 0 3, .replay 3 3 0] ∧
      Supervision.last 0 (world.numbers 1) =
        UInt64.ofNat (world.numbers 1).length + ((world.reports 1).map Report.jump).sum := by
  -- The number is 3 both times: at first it is too large, and then it has been seen.
  have few : (run .plain [.accept, .read 1 lateLogon, .read 1 lateLogon]).world.enrolled.length <
    2 ^ 64 := by decide +kernel
  exact ⟨by decide +kernel, (run_supervised .plain _ few 1).2.1⟩

end Process

end FixBridge
