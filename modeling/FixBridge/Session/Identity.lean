import FixBridge.Session.Addressing
import FixBridge.Session.Turns

/-! Under which name a session knows its client, and what it does with messages of another name. -/

namespace FixBridge

namespace Session

/-- The assertions of `Session::check` about a header, which a release build does not make. -/
def Asserts (header : Header) (session : Session) : Prop :=
  header.senderCompId ≠ "" ∧ (session.compId ≠ "" → header.senderCompId = session.compId)

/-- A header names its sender, and the same one as the first message on the connection. -/
def Consistent (header : Header) (session : Session) : Prop :=
  header.senderCompId ≠ "" ∧ ∀ first, session.connection.received.head? = some first →
    header.senderCompId = first.senderCompId

/-- A session whose first message named its sender. -/
def Named (session : Session) : Prop :=
  ∀ first, session.connection.received.head? = some first → first.senderCompId ≠ ""

/-- A session that has read nothing is named. -/
theorem Named.new (sessionId : SessionId) : Named { sessionId } := by
  -- A new session has received nothing.
  intro first read
  cases read

/-- Ageing changes nothing that has been read. -/
theorem Named.aged {session later : Session} (named : session.Named) (aged : session.Aged later) :
    later.Named := by
  -- What was received is the same, and so is the first of it.
  intro first read
  rw [aged.received] at read
  exact named first read

/-- A header that names its sender can be the first. -/
theorem Named.receive {session : Session} (named : session.Named) {header : Header}
    (sender : header.senderCompId ≠ "") : (session.receive header).Named := by
  intro first read
  -- The header is the first one or stands behind it.
  cases received : session.connection.received with
  | nil =>
    simp only [Session.receive, received, List.nil_append, List.head?_cons,
      Option.some.injEq] at read
    rw [← read]
    exact sender
  | cons head rest =>
    simp only [Session.receive, received, List.cons_append, List.head?_cons,
      Option.some.injEq] at read
    rw [← read]
    exact named head (by rw [received]; rfl)

/-- The assertions are about the first message when that has named its sender. -/
theorem asserts_iff {session : Session} (introduced : session.Introduced)
    (named : session.Named) (header : Header) :
    session.Asserts header ↔ session.Consistent header := by
  refine and_congr_right fun _ => ?_
  rw [introduced.1]
  cases read : session.connection.received.head? with
  | none =>
    have nothing := List.head?_eq_none_iff.mp read
    simp [Session.introduced, nothing]
  | some first =>
    -- The first name is the one that the session goes by.
    have sender := named first read
    simp [introduced_first read sender, sender]

end Session

namespace Process

/-- A session parses a message in the course of a run. -/
structure Reads (env : Environment) (events : List Event) (sessionId : SessionId)
    (frame : List UInt8) (world : World) (session : Session) (message : Message) : Prop where
  receives : Receives env events sessionId frame world
  located : world.session sessionId = some session
  decoded : env.decode frame = some message

/-- A session knows its client by one name throughout a run. -/
structure Identified (env : Environment) (events : List Event) (sessionId : SessionId) : Prop where
  /-- No assertion fails. -/
  asserts : ∀ {frame world session message},
    Reads env events sessionId frame world session message → session.Asserts message.header
  /-- A message that is handed to the bridge bears the name of the first one. -/
  handedOver : ∀ {frame world session message},
    Reads env events sessionId frame world session message →
    (Session.receiveFrame env sessionId frame world).inbound sessionId =
      world.inbound sessionId ++ [.message message] → session.Consistent message.header
  /-- The name never changes once it is set. -/
  keeps : ∀ {earlier event later before after}, events = earlier ++ event :: later →
    (run env earlier).world.session sessionId = some before →
    (run env (earlier ++ [event])).world.session sessionId = some after →
    before.compId ≠ "" → after.compId = before.compId

section Identity

variable {env : Environment} {events : List Event} {sessionId : SessionId}

/-- While all messages name their sender, so does the first one. -/
theorem Receives.named
    (senders : ∀ {frame world session message},
      Reads env events sessionId frame world session message → message.header.senderCompId ≠ "")
    {frame : List UInt8} {world : World} (receives : Receives env events sessionId frame world)
    {session : Session} (located : world.session sessionId = some session) : session.Named := by
  refine receives.turns env
    (fun world => ∀ session, world.session sessionId = some session → session.Named)
    ?_ ?_ ?_ session located
  · intro session located
    cases located
  · intro other frame world receives holds session located
    obtain ⟨before, found, aged | ⟨rfl, message, decoded, aged⟩⟩ :=
      Session.receiveFrame_session receives.neverReady receives.alive located
    · exact (holds before found).aged aged
    · -- The session has read a header, which names its sender like all others.
      exact ((holds before found).receive (senders ⟨receives, found, decoded⟩)).aged aged
  · intro event world happens holds session located
    have calm := happens.neverReady
    rcases handle_session env event calm located with ⟨before, found, aged⟩ | ⟨-, aged⟩
    · exact (holds before found).aged aged
    · exact (Session.Named.new sessionId).aged aged

/-- Whatever happens, a session keeps the name that it has. -/
theorem run_keeps {earlier : List Event} {event : Event} {before after : Session}
    (located : (run env earlier).world.session sessionId = some before)
    (located' : (run env (earlier ++ [event])).world.session sessionId = some after)
    (named : before.compId ≠ "") : after.compId = before.compId := by
  rw [run_concat] at located'
  by_cases other : ∀ sessionId bytes, event ≠ .read sessionId bytes
  · -- Events other than reads do not touch the name.
    rw [step_world env other] at located'
    rcases handle_session env event (run_neverReady env earlier) located' with
      ⟨same, found, aged⟩ | ⟨missing, -⟩
    · rw [located] at found
      cases found
      exact aged.compId
    · rw [located] at missing
      cases missing
  · simp only [not_forall, not_not] at other
    obtain ⟨reader, bytes, rfl⟩ := other
    -- Each frame of a read leaves a name that is set as it is.
    have only : earlier ++ [Event.read reader bytes] = earlier ++ .read reader bytes :: [] := rfl
    refine read_turns env (fun world => ∀ session, world.session sessionId = some session →
      session.compId = before.compId) only ?_ ?_ after located'
    · intro frame world receives holds session located
      obtain ⟨same, found, aged | ⟨-, message, -, aged⟩⟩ :=
        Session.receiveFrame_session receives.neverReady receives.alive located
      · rw [aged.compId, holds same found]
      · have set_ := holds same found
        rw [aged.compId, Session.receive, if_neg (by rw [set_]; exact named)]
        exact set_
    · intro session found
      rw [located] at found
      cases found
      rfl

end Identity

/--
A session knows its client by one name exactly if all messages bear the name of the first one.

A message that does not is handed to the bridge in a release build, and ends the process in a
build with assertions.
-/
theorem run_identified (env : Environment) (events : List Event) (sessionId : SessionId) :
    Identified env events sessionId ↔ ∀ {frame world session message},
      Reads env events sessionId frame world session message →
        session.Consistent message.header := by
  -- The session obeys its law in every world in which it parses a message.
  have introduced : ∀ {frame world session message},
      Reads env events sessionId frame world session message → session.Introduced :=
    fun reads => (Session.introduced_law.of_chain reads.receives.chain).stored _ _ reads.located
  constructor
  · intro identified frame world session message reads
    have named := reads.receives.named (fun reads => (identified.asserts reads).1) reads.located
    exact (Session.asserts_iff (introduced reads) named _).mp (identified.asserts reads)
  · intro consistent
    refine ⟨fun reads => ?_, fun reads _ => consistent reads, fun _ => run_keeps⟩
    have named := reads.receives.named (fun reads => (consistent reads).1) reads.located
    exact (Session.asserts_iff (introduced reads) named _).mpr (consistent reads)

/-- A Logon under another name than that of the client that has connected. -/
def imposter : List UInt8 := bytesOf <|
  "8=FIX.4.4|9=0000078|35=A|49=MALLORY|56=BRIDGE|34=2|52=19700101-00:00:00.000|" ++
  "98=0|108=30|553=alice|10=028|"

/-- A second message under another name is handed to the bridge. -/
theorem run_identified_imposter :
    ¬ Identified .plain [.accept, .read 1 logon, .read 1 imposter] 1 := by
  intro identified
  let world := (run .plain [.accept, .read 1 logon]).world
  have client : (world.session 1).map (fun session =>
      (session.state, session.connection.received.head?.map (·.senderCompId))) =
        some (.waitingLogon, some "CLIENT") := by
    decide +kernel
  have frames : (Environment.plain.framer.frames
      ((run .plain [.accept, .read 1 logon]).buffer 1 ++ imposter)).1 = [imposter] := by
    decide +kernel
  have parsed : (Environment.plain.decode imposter).map (fun message =>
      (message.header.senderCompId, message.header.msgType)) = some ("MALLORY", .logon) := by
    decide +kernel
  obtain ⟨session, located, read⟩ := Option.map_eq_some_iff.mp client
  obtain ⟨state, first⟩ := Prod.mk.inj read
  obtain ⟨message, decoded, header⟩ := Option.map_eq_some_iff.mp parsed
  obtain ⟨sender, kind⟩ := Prod.mk.inj header
  have alive : world.Open 1 := ⟨session, located, by rw [state]; decide⟩
  have reads : Reads .plain [.accept, .read 1 logon, .read 1 imposter] 1 imposter world session
      message := by
    refine ⟨⟨[.accept, .read 1 logon], imposter, [], 0, rfl, ?_, rfl, fun fewer least => ?_⟩,
      located, decoded⟩
    · rw [frames]
      rfl
    · rw [Nat.le_zero.mp least]
      exact alive
  -- A Logon is handed to the bridge, whoever has sent it.
  have delivered : Environment.plain.delivery imposter = some (.message message) := by
    rw [Environment.delivery, decoded, Option.bind_some, Message.delivery, kind]
    rfl
  have heard := (Session.receiveFrame_hears .plain 1 imposter
    (run_neverReady .plain [.accept, .read 1 logon]) alive).2.inbound
  rw [if_pos rfl, delivered] at heard
  obtain ⟨head, read, name⟩ := Option.map_eq_some_iff.mp first
  have same := (identified.handedOver reads heard).2 head read
  rw [sender, name] at same
  exact absurd same (by decide)

end Process

end FixBridge
