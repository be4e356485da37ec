import FixBridge.Session.Emissions
import FixBridge.Session.Plain
import FixBridge.Session.SessionLaws

/-! To whom messages are sent, and when nobody is known to whom they could be. -/

namespace FixBridge

/-- The first name under which the client of a session identified itself. -/
def Session.introduced (session : Session) : String :=
  ((session.connection.received.map (·.senderCompId)).find? (· ≠ "")).getD ""

/-- A session talks to the first name that it read, and it has ended if its connection is closed. -/
def Session.Introduced (session : Session) : Prop :=
  session.compId = session.introduced ∧
    (session.connection.closed = true → session.state = .zombie)

/-- Reading one more header finds the first name, unless it is known already. -/
theorem Session.introduced_receive (session : Session) (header : Header) :
    (session.receive header).introduced =
      if session.introduced = "" then header.senderCompId else session.introduced := by
  -- The headers are searched from the first one on, and the new one is the last.
  have read : (session.receive header).introduced =
      (((session.connection.received.map (·.senderCompId)).find? (· ≠ "")).or
        ([header.senderCompId].find? (· ≠ ""))).getD "" := by
    simp only [introduced, receive, List.map_append, List.map_cons, List.map_nil,
      List.find?_append]
  rcases Option.eq_none_or_eq_some ((session.connection.received.map (·.senderCompId)).find?
    (· ≠ "")) with found | ⟨name, found⟩
  · -- Nobody has been named yet, so the new header decides.
    have nobody : session.introduced = "" := by rw [introduced, found, Option.getD_none]
    rw [read, nobody, if_pos rfl, found]
    by_cases named : header.senderCompId = "" <;> simp [named]
  · -- The first name is known and stays the first.
    have named : name ≠ "" := by simpa using List.find?_some found
    have known : session.introduced = name := by rw [introduced, found, Option.getD_some]
    rw [read, known, if_neg named, found]
    rfl

/-- Every session talks to the first name that it read. -/
theorem Session.introduced_law : SessionLaw Session.Introduced where
  new _ := ⟨rfl, fun closed => by cases closed⟩
  advance _ holds := holds
  receive {session} header holds := by
    -- The source assigns the name under the same condition.
    refine ⟨?_, holds.2⟩
    rw [introduced_receive, ← holds.1]
    rfl
  expire holds := ⟨holds.1, fun _ => rfl⟩
  close holds := ⟨holds.1, fun _ => rfl⟩

/-- A message is sent on an open connection to the client that sent the first message on it. -/
def Step.Addressed (step : Step) : Prop :=
  match step.action with
  | .send sessionId _ sent => ∃ session, step.before.session sessionId = some session ∧
    session.state ≠ .zombie ∧ session.connection.closed = false ∧
    session.compId ≠ "" ∧
    session.connection.received.head?.map (·.senderCompId) = some session.compId ∧
    sent.header.targetCompId = session.compId
  | _ => True

/-- A message is sent by a session that knows no name of its client. -/
def Step.nameless (step : Step) : Bool :=
  match step.action with
  | .send sessionId _ _ => (step.before.session sessionId).map (·.compId) = some ""
  | _ => false

/-- What a session reads first is the name that it talks to, unless the first name is empty. -/
theorem Session.introduced_first {session : Session} {first : Header}
    (read : session.connection.received.head? = some first) (named : first.senderCompId ≠ "") :
    session.introduced = first.senderCompId := by
  -- The first header names the client, so that the search for a name ends there.
  cases received : session.connection.received with
  | nil => simp [received] at read
  | cons head rest =>
    obtain rfl : head = first := by simpa [received] using read
    simp [introduced, received, named]

/-- Only messages have to be addressed. -/
theorem Step.addressed_of_silent {step : Step}
    (silent : ∀ sessionId cause sent, step.action ≠ .send sessionId cause sent) :
    step.Addressed := by
  -- Only sends have something to be addressed.
  unfold Addressed
  split
  next sessionId cause sent action => exact absurd action (silent sessionId cause sent)
  next => trivial

/-- A session that obeys its law addresses its messages exactly if it is acquainted. -/
theorem Session.Introduced.addressed_iff {session : Session} (holds : session.Introduced)
    {sessionId : SessionId} {cause : Cause} {sent : Sent} {controller : Controller}
    (located : controller.session sessionId = some session)
    (target : sent.header.targetCompId = session.compId) :
    Step.Addressed ⟨.send sessionId cause sent, controller⟩ ↔ session.Acquainted := by
  obtain ⟨introduced, closes⟩ := holds
  constructor
  · intro addressed
    obtain ⟨other, located', alive, -, named, talks, -⟩ := addressed
    rw [located] at located'
    cases located'
    -- A session that talks to the sender of the first message has read that message.
    obtain ⟨first, read, same⟩ := Option.map_eq_some_iff.mp talks
    exact ⟨alive, first, read, by rw [same]; exact named⟩
  · intro acquainted
    obtain ⟨alive, first, read, named⟩ := acquainted
    -- The name that is read first is the one that the session talks to.
    have talks := Session.introduced_first read named
    refine ⟨session, located, alive, ?_, ?_, ?_, target⟩
    · -- An open session has not closed its connection.
      cases closed : session.connection.closed with
      | false => rfl
      | true => exact absurd (closes closed) alive
    · rw [introduced, talks]
      exact named
    · rw [read, introduced, talks]
      rfl

/-- Nobody is ready, and all sessions obey the law of introductions. -/
structure World.Introduced (world : World) : Prop where
  calm : world.NeverReady
  lawful : world.Lawful Session.Introduced

namespace World.Introduced

variable {env : Environment} {world later : World}

/-- Whatever happens, this stays so. -/
theorem along (holds : world.Introduced) (chain : ProcessChain env world later) :
    later.Introduced :=
  History.chain_preserves World.Introduced
    (fun step holds => ⟨step.neverReady holds.calm,
      holds.lawful.kept Session.introduced_law step holds.calm⟩) chain holds

/-- It is so wherever the steps of the process lead to. -/
theorem of_chain (chain : ProcessChain env {} world) : world.Introduced :=
  ⟨ProcessChain.neverReady chain World.neverReady_initial,
    Session.introduced_law.of_chain chain⟩

/-- So it is after every send. -/
theorem sendHelper (holds : world.Introduced) (env : Environment) (cause : Cause)
    (sessionId : SessionId) (value : Outbound) :
    (Session.sendHelper env cause sessionId value world).Introduced :=
  ⟨(Session.sendHelper_follows env cause sessionId value world).neverReady holds.calm,
    holds.lawful.sendHelper Session.introduced_law env cause sessionId value⟩

/-- So it is when no session changes, and nothing is sent. -/
theorem of_manager (holds : world.Introduced)
    (same : later.controller.sessionManager = world.controller.sessionManager)
    (grown : History.Extends (fun step => ∀ sessionId cause sent,
      step.action ≠ .send sessionId cause sent) world.log later.log) : later.Introduced := by
  have ages := World.Ages.of_manager same
  refine ⟨ages.neverReady holds.calm, holds.lawful.extend grown fun sessionId session located => ?_⟩
  -- The session that is found later is the one that is stored now.
  have found := congrArg (fun manager => manager.sessions.lookup sessionId) same
  exact holds.lawful.stored sessionId session (found.symm.trans located)

/-- So it is when something is recorded that is no message. -/
theorem record (holds : world.Introduced) {action : Action}
    (silent : ∀ sessionId cause sent, action ≠ .send sessionId cause sent) :
    (world.record action).Introduced :=
  holds.of_manager rfl (.single silent)

end World.Introduced

/-- What a world gains until a later one is addressed exactly under a condition. -/
abbrev World.Addresses (condition : Prop) (world later : World) : Prop :=
  History.ExtendsIff Step.Addressed condition world.log later.log

section Addresses

variable (env : Environment) {sessionId : SessionId} {world : World}

/-- Steps that are no messages are addressed without a condition. -/
theorem World.Addresses.of_silent {later : World}
    (grown : History.Extends (fun step => ∀ sessionId cause sent,
      step.action ≠ .send sessionId cause sent) world.log later.log) :
    world.Addresses True later :=
  .of_extends (grown.mono fun _ silent => Step.addressed_of_silent silent)

/-- An action that is no message is addressed without a condition. -/
theorem World.Addresses.record {action : Action}
    (silent : ∀ sessionId cause sent, action ≠ .send sessionId cause sent) :
    world.Addresses True (world.record action) :=
  .of_silent (.single silent)

/-- A session that sends has to be acquainted. -/
theorem Session.sendHelper_addresses (cause : Cause) (value : Outbound)
    (holds : world.Introduced) :
    world.Addresses (world.Acquainted sessionId)
      (sendHelper env cause sessionId value world) := by
  cases located : world.session sessionId with
  | none =>
    -- A session that does not exist sends nothing.
    rw [sendHelper_of_missing located]
    refine (History.ExtendsIff.refl _ _).congr (iff_of_true trivial fun session found => ?_)
    rw [located] at found
    cases found
  | some session =>
    obtain ⟨sent, -, -, -, target, same⟩ := sendHelper_of_stored env cause value located
    have law := holds.lawful.stored sessionId session located
    rw [same]
    refine (History.ExtendsIff.single (law.addressed_iff located target)).congr ?_
    -- The session is the one that is stored.
    constructor
    · intro acquainted other found
      rw [located] at found
      cases found
      exact acquainted
    · intro acquainted
      exact acquainted session located

/-- A send leaves all sessions as acquainted as they were. -/
theorem Session.sendHelper_acquainted (cause : Cause) (value : Outbound) (other : SessionId) :
    (sendHelper env cause sessionId value world).Acquainted other ↔ world.Acquainted other :=
  (sendHelper_follows env cause sessionId value world).ages.acquainted_iff
    (sendHelper_frame env cause sessionId value world other).1

/-- All sessions that are visited have to be acquainted. -/
theorem Controller.forSessions_addresses (value : ExecutionReport) (sessionIds : List SessionId)
    (stored : ∀ sessionId ∈ sessionIds, sessionId ∈ world.sessionIds) (holds : world.Introduced) :
    world.Addresses (∀ sessionId ∈ sessionIds, world.Acquainted sessionId)
      (SessionManager.forSessions (fun sessionId => Session.sendHelper env .unaddressed sessionId
        (.executionReport value)) sessionIds world) := by
  -- One session sends after the other, and makes no other one more or less acquainted.
  induction sessionIds generalizing world with
  | nil => exact (History.ExtendsIff.refl _ _).congr (by simp)
  | cons sessionId rest ih =>
    have sends : world.Addresses (world.Acquainted sessionId) _ :=
      Session.sendHelper_addresses env .unaddressed (.executionReport value) holds
    have rest := ih (fun other member => by
        rw [Session.sendHelper_sessionIds]
        exact stored other (by simp [member]))
      (holds.sendHelper env .unaddressed sessionId (.executionReport value))
    simp only [Session.sendHelper_acquainted] at rest
    exact (sends.trans rest).congr (by simp)

/-- A report has to find all stored sessions acquainted. -/
theorem Controller.executionReport_addresses (value : ExecutionReport)
    (holds : world.Introduced) :
    world.Addresses (∀ sessionId, world.Acquainted sessionId)
      (executionReport env value world) := by
  have noted : world.Addresses True (world.record (.executionReport value)) :=
    .record (by simp)
  have told : (world.record (.executionReport value)).Introduced := holds.record (by simp)
  have visited : World.Addresses _ (world.record (.executionReport value)) _ :=
    forSessions_addresses env value
      (visit (env.order (world.record (.executionReport value))) world.sessionIds)
      (fun _ member => mem_visit.mp member) told
  refine (noted.trans visited).congr ⟨fun both sessionId session located => ?_, fun all => ?_⟩
  · -- A session that is stored is visited.
    have stored := World.mem_sessionIds.mpr ⟨session, located⟩
    exact both.2 sessionId (mem_visit.mpr stored) session located
  · exact ⟨trivial, fun sessionId _ => all sessionId⟩

/-- An ending sends nothing itself. -/
theorem Session.conclude_addresses {closes peer : Bool} (holds : world.Introduced)
    (ends : Ends closes peer sessionId world) :
    world.Addresses True (conclude env closes peer sessionId world) := by
  -- The five actions of an ending, none of which is a message.
  refine .of_silent ((conclude_extends env holds.calm ends).mono fun step kind => ?_)
  rcases kind with action | action | action | action | action <;> simp [action]

/-- A close has to leave courteous what the bridge does in the course of it. -/
theorem Session.close_addresses {during : World → World} {condition : World → Prop}
    (chain : ∀ world, world.NeverReady → BridgeChain env world (during world))
    (told : ∀ {world : World}, world.Introduced → world.Addresses (condition world) (during world))
    (holds : world.Introduced) :
    world.Addresses (world.Open sessionId → env.closeReenters world sessionId = true →
      condition (conclude env true true sessionId world)) (close env during sessionId world) := by
  rw [close_eq]
  by_cases alive : world.Open sessionId
  · rw [if_pos alive]
    by_cases reenters : env.closeReenters world sessionId = true
    · rw [if_pos reenters]
      have ends : Ends true true sessionId world := Or.inl alive
      have silent := conclude_addresses env holds ends
      have ended : (conclude env true true sessionId world).Introduced :=
        holds.along (.single (.bridge (.close world true sessionId alive)))
      have inner := chain _ ended.calm
      -- The session is still a zombie when the close returns to it.
      have still := (BridgeChain.follows inner ended.calm).zombie
        (conclude_zombie env holds.calm ends)
      rw [makeZombie_of_zombie still]
      have again : World.Addresses True (during (conclude env true true sessionId world))
          (World.record (.makeZombie sessionId) _) :=
        .record (by simp)
      exact ((silent.trans (told ended)).trans again).congr (by simp [alive, reenters])
    · rw [if_neg reenters]
      have silent : world.Addresses True (conclude env true false sessionId world) :=
        conclude_addresses env holds (Or.inl alive)
      exact silent.congr (iff_of_true trivial fun _ yes => absurd yes reenters)
  · -- A session that has ended is left alone.
    rw [if_neg alive]
    exact (History.ExtendsIff.refl _ _).congr (iff_of_true trivial fun yes => absurd yes alive)

mutual

/-- A call of the bridge has to be courteous, and so have all calls in the course of it. -/
theorem Controller.callback_addresses (call : Callback) {world : World}
    (holds : world.Introduced) :
    world.Addresses (EachCall env Callback.Courteous call world) (callback env call world) := by
  -- The calls made in the course of a close are shorter, hence the joint recursion.
  cases call with
  | message sessionId value =>
    have same : callback env (.message sessionId value) world =
        Session.sendHelper env .addressed sessionId value world :=
      SessionManager.getSession_of_idle Session.sendHelper_of_missing
    rw [same]
    exact Session.sendHelper_addresses env .addressed value holds
  | executionReport value => exact executionReport_addresses env value holds
  | disconnect sessionId during =>
    have same : callback env (.disconnect sessionId during) world =
        Session.close env (fun world => callbacks env during world) sessionId world :=
      SessionManager.getSession_of_idle Session.close_of_missing
    rw [same]
    have closes : world.Addresses _ (Session.close env _ sessionId world) :=
      Session.close_addresses env (fun _ calm => callbacks_chain env during calm)
        (fun holds => callbacks_addresses during holds) holds
    exact closes.congr ⟨fun each => ⟨trivial, each⟩, fun both => both.2⟩

/-- All calls that the bridge makes while it has control have to be courteous. -/
theorem Controller.callbacks_addresses (calls : List Callback) {world : World}
    (holds : world.Introduced) :
    world.Addresses (EachCalls env Callback.Courteous calls world)
      (callbacks env calls world) := by
  cases calls with
  | nil => exact .refl _ _
  | cons first rest =>
    -- The rest of the calls starts where the first call ends.
    have chain := callback_chain env first holds.calm
    exact (callback_addresses first holds).trans
      (callbacks_addresses rest (holds.along (BridgeChain.process chain)))

end

/-- The bridge is called after something is noted that is no message. -/
theorem Controller.noted_addresses (calls : List Callback) {action : Action}
    (silent : ∀ sessionId cause sent, action ≠ .send sessionId cause sent)
    (holds : world.Introduced) :
    world.Addresses (EachCalls env Callback.Courteous calls (world.record action))
      (callbacks env calls (world.record action)) := by
  -- The note needs no condition, and leaves the sessions as they are.
  have noted : world.Addresses True (world.record action) := .record silent
  exact (noted.trans (callbacks_addresses env calls (holds.record silent))).congr (by simp)

/-- A close that the session asks for itself hands over to the bridge. -/
theorem Session.close_handOver_addresses (holds : world.Introduced) :
    world.Addresses (ClosesCourteously env sessionId world)
      (close env (handOver env) sessionId world) := by
  -- The bridge is told of the end, and answers with calls that are courteous or not.
  let courteous := fun world => Controller.EachCalls env Callback.Courteous
    (env.onDisconnected world) world
  exact @close_addresses env sessionId world (handOver env) courteous (handOver_chain env)
    (fun {world} holds => Controller.callbacks_addresses env (env.onDisconnected world) holds) holds

namespace Session

variable {message : Message}

/-- The bridge makes its calls, whether it throws after them or not. -/
theorem dispatch_eq : dispatch env sessionId message world =
    if (env.onMessage (handed sessionId message world)).throws then
      .error (Controller.callbacks env (env.onMessage (handed sessionId message world)).callbacks
        (handed sessionId message world))
    else .ok (Controller.callbacks env (env.onMessage (handed sessionId message world)).callbacks
      (handed sessionId message world)) := rfl

/-- Handing a message to the bridge is as courteous as what the bridge does with it. -/
theorem handed_addresses (holds : world.Introduced) :
    world.Addresses (Controller.EachCalls env Callback.Courteous
        (env.onMessage (handed sessionId message world)).callbacks (handed sessionId message world))
      (Controller.callbacks env (env.onMessage (handed sessionId message world)).callbacks
        (handed sessionId message world)) :=
  Controller.noted_addresses env _ (by simp) holds

/-- A request is settled with an answer by a session that has to be acquainted. -/
theorem settle_addresses (request : UserRequest) (strategyId : StrategyId)
    (holds : world.Introduced) :
    world.Addresses (world.Acquainted sessionId)
      (settle env sessionId request strategyId world) := by
  obtain ⟨middle, userStatus, text, settles, same⟩ :=
    settle_cases env sessionId request strategyId world
  -- Whatever becomes of the route, nothing is sent and no session changes.
  have grown : History.Extends (fun step => ∀ sessionId cause sent,
      step.action ≠ .send sessionId cause sent) world.log middle.log := by
    refine settles.extends.mono fun step about => ?_
    rcases about with action | action <;> simp [action]
  have middle' := holds.of_manager settles.manager grown
  have acquainted : middle.Acquainted sessionId ↔ world.Acquainted sessionId := by
    refine (World.Ages.of_manager settles.manager).acquainted_iff ?_
    unfold World.Open Controller.Open Controller.session
    rw [settles.manager]
  rw [same]
  have sends : middle.Addresses _ (respond env sessionId request userStatus text middle) :=
    sendHelper_addresses env .reply _ middle'
  exact ((World.Addresses.of_silent grown).trans sends).congr (by simp [acquainted])

/-- A request that the bridge is given is answered afterwards, unless something throws. -/
theorem userRequest_addresses {request : UserRequest} (holds : world.Introduced)
    (alive : world.Open sessionId) (kind : message.header.msgType = .userRequest)
    (created : env.createUserRequest message = some request) :
    world.Addresses (HandlesCourteously env sessionId message world)
      (outcome (userRequest env sessionId message request world)) := by
  rw [handlesCourteously_iff]
  let given := handed sessionId message world
  have told : world.Addresses _ (Controller.callbacks env (env.onMessage given).callbacks given) :=
    handed_addresses env holds
  have delivered : message.delivery env = some (.message message) := by
    simp [Message.delivery, kind, created]
  have supported : ¬ message.header.msgType.supported = false := by rw [kind]; decide
  simp only [userRequest_eq, dispatch_eq]
  by_cases throws : (env.onMessage given).throws = true
  · -- The bridge throws, and nobody answers.
    have unanswered : ¬ Answers env sessionId message world := by
      simp [Answers, supported, throws, given]
    rw [if_pos throws]
    exact told.congr (by simp [delivered, unanswered])
  rw [if_neg throws]
  simp only [Except.bind]
  cases named : env.fromChars request.username with
  | none =>
    -- A username that is no strategy makes the session throw.
    have unanswered : ¬ Answers env sessionId message world := by
      simp [Answers, supported, created, named]
    exact told.congr (by simp [delivered, unanswered])
  | some strategyId =>
    have answers : Answers env sessionId message world :=
      Or.inr ⟨kind, by simpa using throws, request, strategyId, created, named⟩
    have given' : given.Introduced := holds.record (by simp)
    have chain := Controller.callbacks_chain env (env.onMessage given).callbacks given'.calm
    -- The bridge has control before the answer, and can end the session by then.
    have spares : (Controller.callbacks env _ given).Acquainted sessionId ↔ _ :=
      Controller.callbacks_acquainted env (env.onMessage given).callbacks given'.calm alive
    have settles : World.Addresses (World.Acquainted sessionId _) _ _ :=
      settle_addresses env request strategyId (given'.along (BridgeChain.process chain))
    exact (told.trans settles).congr (by rw [spares]; simp [delivered, answers, kind, given])

/-- A message is handled as courteously as the bridge reacts, and answered by an acquaintance. -/
theorem parseHelper_addresses (holds : world.Introduced) (alive : world.Open sessionId) :
    world.Addresses (HandlesCourteously env sessionId message world)
      (outcome (parseHelper env sessionId message world)) := by
  have nothing : world.Addresses True world := .refl _ _
  unfold parseHelper
  by_cases kind : message.header.msgType = .userRequest
  · rw [if_pos kind]
    cases created : env.createUserRequest message with
    | none =>
      -- A request that cannot be decoded is shown to nobody, and it is not answered.
      have undelivered : message.delivery env = none := by simp [Message.delivery, kind, created]
      have unanswered : ¬ Answers env sessionId message world := by
        simp [Answers, kind, created, MsgType.supported]
      exact nothing.congr (by simp [handlesCourteously_iff, undelivered, unanswered])
    | some request => exact userRequest_addresses env holds alive kind created
  rw [if_neg kind]
  cases supported : message.header.msgType.supported with
  | false =>
    -- The reject is the answer, and the bridge hears nothing of the message.
    have answers : Answers env sessionId message world := Or.inl supported
    have undelivered : message.delivery env ≠ some (.message message) := by
      simp [Message.delivery, kind, supported]
    have sends : world.Addresses _ (sendHelper env .reply sessionId _ world) :=
      sendHelper_addresses env .reply (.businessMessageReject (unexpectedMsgType message.header))
        holds
    exact sends.congr (by simp [handlesCourteously_iff, answers, undelivered, kind])
  | true =>
    have unanswered : ¬ Answers env sessionId message world := by simp [Answers, supported, kind]
    rw [if_pos rfl]
    by_cases creates : env.creates message = true
    · rw [if_pos creates, dispatch_eq]
      have delivered : message.delivery env = some (.message message) := by
        simp [Message.delivery, kind, supported, creates]
      have told := @handed_addresses env sessionId world message holds
      have courteous := told.congr (show _ ↔ HandlesCourteously env sessionId message world by
        simp [handlesCourteously_iff, delivered, unanswered])
      -- Whether the bridge throws or not, it has made its calls by then.
      split
      · exact courteous
      · exact courteous
    · have undelivered : message.delivery env = none := by
        simp [Message.delivery, kind, supported, creates]
      rw [if_neg creates]
      exact nothing.congr (by simp [handlesCourteously_iff, undelivered, unanswered])

/-- A frame has to be received courteously. -/
theorem receiveFrame_addresses (frame : List UInt8) (holds : world.Introduced)
    (alive : world.Open sessionId) :
    world.Addresses (ReceivesCourteously env sessionId frame world)
      (receiveFrame env sessionId frame world) := by
  have parsed : world.Addresses (∀ message, env.decode frame = some message →
      HandlesCourteously env sessionId message (check sessionId message.header world))
      (outcome (parseFrame env sessionId frame world)) := by
    unfold parseFrame
    cases decoded : env.decode frame with
    | none => exact (History.ExtendsIff.refl _ _).congr (by simp)
    | some message =>
      -- The header is looked at first, which sends nothing.
      have checked : ProcessStep env world (check sessionId message.header world) :=
        .check world sessionId message.header alive
      have looked : world.Addresses True (check sessionId message.header world) :=
        .of_silent (.single (by simp))
      have handled : World.Addresses (HandlesCourteously env sessionId message _) _ _ :=
        parseHelper_addresses env (holds.along (.single checked)) (check_open.mpr alive)
      exact (looked.trans handled).congr (by simp)
  have after := holds.along (parseFrame_chain env frame holds.calm alive)
  unfold receiveFrame
  -- Only an exception is followed by something, which is a close.
  cases result : parseFrame env sessionId frame world with
  | ok next =>
    rw [result] at parsed
    exact parsed.congr ⟨fun handled => ⟨handled, by simp [result]⟩, fun both => both.handled⟩
  | error thrown =>
    rw [result] at parsed after
    refine (parsed.trans (close_handOver_addresses env after)).congr ?_
    exact ⟨fun both => ⟨both.1, by simpa [result] using both.2⟩,
      fun both => ⟨both.handled, both.closed thrown result⟩⟩

end Session

/-- An event has to be courteous. -/
theorem Process.handle_addresses (event : Event) (holds : world.Introduced) :
    world.Addresses (event.Courteous env world) (handle env event world) := by
  cases event with
  | accept =>
    -- The session is stored before the bridge is told about it.
    obtain ⟨first, second, log, -⟩ := SessionManager.enroll_log world
    have enrolled : world.Addresses True (SessionManager.enroll world) :=
      .of_silent ⟨_, log, by simp⟩
    have step : ProcessStep env world (SessionManager.enroll world) := .enroll world
    have told := Controller.callbacks_addresses env
      (env.onConnected (SessionManager.enroll world)) (holds.along (.single step))
    exact (enrolled.trans told).congr (by simp [Event.Courteous])
  | read sessionId bytes => exact .refl _ _
  | disconnected sessionId =>
    simp only [handle, SessionManager.getSession]
    cases located : world.session sessionId with
    | none =>
      -- The report is lost when the session has been removed already.
      have gone : sessionId ∉ world.sessionIds := by simp [World.mem_sessionIds, located]
      exact (History.ExtendsIff.refl _ _).congr (by simp [Event.Courteous, gone])
    | some session =>
      have stored := World.mem_sessionIds.mpr ⟨session, located⟩
      have step : ProcessStep env world (Session.conclude env false true sessionId world) :=
        .disconnected world sessionId stored
      have ended := Session.conclude_addresses env holds (Session.ends_of_stored stored)
      have told := Controller.callbacks_addresses env
        (env.onDisconnected (Session.conclude env false true sessionId world))
        (holds.along (.single step))
      exact (ended.trans told).congr (by simp [Event.Courteous, stored])
  | bridge calls => exact Controller.callbacks_addresses env calls holds
  | timer now =>
    simp only [handle, SessionManager.timer]
    -- A cleanup removes sessions and sends nothing.
    split
    · refine .of_silent ((SessionManager.removeZombies_extends env _).mono fun step removes => ?_)
      obtain ⟨sessionId, action⟩ := removes
      simp [action]
    · exact .refl _ _
  | gatewayConnected sourceId sourceName calls =>
    exact Controller.noted_addresses env calls (by simp) holds
  | gatewayDisconnected sourceId sourceName calls =>
    exact Controller.noted_addresses env calls (by simp) holds
  | logout sessionId error =>
    have same : handle env (.logout sessionId error) world =
        Session.logout env (Session.handOver env) error sessionId world := by
      refine SessionManager.getSession_of_idle fun missing => ?_
      rw [Session.logout, Session.sendHelper_of_missing missing, Session.close_of_missing missing]
    rw [same]
    -- The logout is sent before the connection is closed.
    have sends : world.Addresses (world.Acquainted sessionId) _ :=
      Session.sendHelper_addresses env .reply (.logout error.getText) holds
    exact sends.trans (Session.close_handOver_addresses env
      (holds.sendHelper env .reply sessionId (.logout error.getText)))

end Addresses

namespace Process

/--
Every message of a run is addressed exactly if the run is courteous.

This is to say that the bridge emits nothing for a session before its client has named itself or
after the session has ended, and that the session itself is as careful with its answers.
-/
theorem run_addressed (env : Environment) (events : List Event) :
    (∀ step ∈ (run env events).world.log, step.Addressed) ↔ Courteous env events := by
  -- Frames and other events are judged one by one, in the world in which they find the process.
  rw [run_turns_iff
    (fun receives => Session.receiveFrame_addresses env _ (.of_chain receives.chain) receives.alive)
    (fun happens => handle_addresses env _ (.of_chain happens.chain))]
  exact ⟨fun both => ⟨both.1, both.2⟩, fun courteous => ⟨courteous.frames, courteous.events⟩⟩

/-- A report that the bridge emits is sent to a client before it has said who it is. -/
theorem run_addressed_connected :
    ∃ step ∈ (run .plain [.accept, .bridge [.executionReport
      { account := "A1", strategyId := 7, fields := [] }]]).world.log, ¬ step.Addressed := by
  have nameless : ∃ step ∈ (run .plain [.accept, .bridge [.executionReport
      { account := "A1", strategyId := 7, fields := [] }]]).world.log,
      step.nameless := by
    decide +kernel
  obtain ⟨⟨action, before⟩, member, nameless⟩ := nameless
  -- The step is a send by a session that knows no name.
  refine ⟨⟨action, before⟩, member, fun addressed => ?_⟩
  cases action with
  | send sessionId cause sent =>
    obtain ⟨session, located, -, -, named, -⟩ := addressed
    exact named (by simpa [Step.nameless, located] using nameless)
  | _ => cases nameless

end Process

end FixBridge
