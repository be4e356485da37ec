import FixBridge.Library.Numbering
import FixBridge.Session.Plain
import FixBridge.Session.SessionLaws

/-! The sequence numbers of the messages that a session sends, and of those that are accepted. -/

namespace FixBridge

/-- The sequence number of a message. -/
def Sent.number (sent : Sent) : Nat := sent.header.msgSeqNum.toNat

/-- The messages that the connection queued. -/
def Session.accepted (session : Session) : List Sent :=
  session.connection.sent.filter (·.accepted)

/-- A session numbers all its messages, whether the connection accepts them or not. -/
def Session.Numbered (session : Session) : Prop :=
  session.connection.sent.length < 2 ^ 64 →
    Numbering.Counts Sent.number 1 session.connection.sent ∧
    session.outbound.toNat = session.connection.sent.length

/-- Every session numbers its messages. -/
theorem Session.numbered_law : SessionLaw Session.Numbered where
  new _ _ := ⟨rfl, rfl⟩
  advance {session sent} next holds few := by
    have sentLength : (session.advance sent).connection.sent.length =
        session.connection.sent.length + 1 := by simp [advance]
    -- One message more was sent, so the bound applies to the ones before.
    obtain ⟨counts, outbound⟩ := holds (by omega)
    -- The counter is the number of messages so far, and the next number is one more.
    have number : sent.number = 1 + session.connection.sent.length := by
      rw [Sent.number, next, UInt64.toNat_add, UInt64.toNat_one, outbound]
      omega
    refine ⟨counts.concat Sent.number number, ?_⟩
    rw [sentLength, Nat.add_comm]
    exact number
  receive _ holds := holds
  expire holds := holds
  close holds := holds

namespace Process

/--
The accepted messages of a session carry the numbers 1, 2, 3, ... exactly if the connection accepts
no message after one that it refused.

All messages together, accepted or not, always carry these numbers.
-/
theorem run_accepted (env : Environment) (events : List Event) {sessionId : SessionId}
    {session : Session} (located : (run env events).world.session sessionId = some session)
    (few : session.connection.sent.length < 2 ^ 64) :
    Numbering.Counts Sent.number 1 session.connection.sent ∧
    (session.accepted.map Sent.number = List.range' 1 session.accepted.length ↔
      session.connection.sent.Pairwise fun earlier later =>
        later.accepted = true → earlier.accepted = true) := by
  have lawful := Session.numbered_law.of_run env events
  -- The session has numbered all that it sent, and the accepted ones are some of these.
  obtain ⟨counts, -⟩ := lawful.stored sessionId session located few
  exact ⟨counts, Numbering.counts_filter Sent.number _ counts⟩

/-- A session whose messages are all accepted numbers them without a gap. -/
theorem run_accepted_both : ∃ session, (run .plain [.accept, .read 1 logon, .bridge
      [.message 1 (.logon "alice"), .message 1 (.message .heartbeat [])]]).world.session 1 =
        some session ∧
    session.accepted.map Sent.number = List.range' 1 session.accepted.length := by
  -- The run is evaluated for what the theorem asks, and the numbers follow from it.
  let world := (run .plain [.accept, .read 1 logon, .bridge
    [.message 1 (.logon "alice"), .message 1 (.message .heartbeat [])]]).world
  have stored : ∃ session, world.session 1 = some session :=
    Option.isSome_iff_exists.mp (by decide +kernel)
  -- Both messages were accepted, so that no refusal stands before an acceptance.
  have facts : ∀ session ∈ world.session 1, session.connection.sent.length < 2 ^ 64 ∧
      session.connection.sent.Pairwise fun earlier later =>
        later.accepted = true → earlier.accepted = true := by
    decide +kernel
  obtain ⟨session, located⟩ := stored
  obtain ⟨few, ordered⟩ := facts session located
  exact ⟨session, located, (run_accepted .plain _ located few).2.mpr ordered⟩

/-- The first message that is accepted after a refusal carries the number 2. -/
theorem run_accepted_after_refusal :
    let env := { Environment.plain with accepts := fun world _ => world.log.length ≠ 4 }
    ((run env [.accept, .read 1 logon, .bridge
      [.message 1 (.logon "alice"), .message 1 (.message .heartbeat [])]]).world.session 1).map
        (fun session => session.accepted.map Sent.number) = some [2] := by
  decide +kernel

end Process

end FixBridge
