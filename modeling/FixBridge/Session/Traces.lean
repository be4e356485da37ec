import FixBridge.Session.Life

/-! What is known about the actions of a session wherever they are cut. -/

namespace FixBridge

/-- The message that an action hands to the connection. -/
def Action.sent? : Action → Option Sent
  | .send _ _ sent => some sent
  | _ => none

/-- The header that an action looks at. -/
def Action.checked? : Action → Option Header
  | .check _ header => some header
  | _ => none

/-- The comp id of the client: the first SenderCompID that is not empty. -/
def clientCompId (headers : List Header) : String :=
  ((headers.map Header.senderCompId).find? (· ≠ "")).getD ""

/-- A further header matters as long as the comp id is not known. -/
theorem clientCompId_concat (headers : List Header) (header : Header) :
    clientCompId (headers ++ [header]) =
      if clientCompId headers = "" then header.senderCompId else clientCompId headers := by
  rw [clientCompId, clientCompId, List.map_append, List.find?_append]
  rcases found : (headers.map Header.senderCompId).find? (· ≠ "") with _ | compId
  · -- Nothing was found so far, and an empty SenderCompID changes nothing.
    by_cases empty : header.senderCompId = "" <;> simp [empty]
  · have known : compId ≠ "" := by simpa using List.find?_some found
    simp [known]

namespace Session

/-- What an action makes of the members of the session that takes it. -/
def take : Action → Session → Session
  | .check _ header, session => session.receive header
  | .send _ _ sent, session => session.advance sent
  | .close _, session => session.shut
  | .disconnect _, session => session.expire
  | _, session => session

/-- The members of a session, as the actions that it has taken determine them. -/
structure Records (taken : List Action) (session : Session) : Prop where
  received : session.connection.received = taken.filterMap Action.checked?
  sent : session.connection.sent = taken.filterMap Action.sent?
  compId : session.compId = clientCompId session.connection.received
  outbound : session.outbound = UInt64.ofNat session.connection.sent.length
  inbound : session.inbound =
    (session.connection.received.getLast?.map Header.msgSeqNum).getD 0

/-- A new session has taken no action that its members record. -/
theorem Records.new (sessionId other : SessionId) :
    Records [.addSession sessionId] { sessionId := other } :=
  ⟨rfl, rfl, rfl, rfl, rfl⟩

/-- If an action is a send, then with the header that is due. -/
def Signs (settings : Settings) (action : Action) (session : Session) : Prop :=
  ∀ sent ∈ action.sent?, sent.header = session.header settings sent.value sent.header.sendingTime

/-- The members of a session go on recording what it does. -/
theorem Records.take {settings : Settings} {taken : List Action} {action : Action}
    {session : Session} (signs : session.Signs settings action) (records : session.Records taken) :
    (session.take action).Records (taken ++ [action]) := by
  obtain ⟨received, sent, compId, outbound, inbound⟩ := records
  cases action with
  | check sessionId header =>
    refine ⟨?_, ?_, ?_, outbound, by simp [Session.take, receive]⟩
    · simp [Session.take, receive, received, Action.checked?]
    · simp [Session.take, receive, sent, Action.sent?]
    · -- The header decides about the comp id if none before it did.
      simp only [Session.take, receive, clientCompId_concat, ← compId]
  | send sessionId cause message =>
    refine ⟨?_, ?_, compId, ?_, inbound⟩
    · simp [Session.take, advance, received, Action.checked?]
    · simp [Session.take, advance, sent, Action.sent?]
    · -- The number of the message is that of the last one plus one.
      have due := congrArg Header.msgSeqNum (signs message rfl)
      simp [Session.take, advance, due, header, outbound]
  | _ =>
    refine ⟨?_, ?_, compId, outbound, inbound⟩
    · simp [Session.take, shut, expire, received, Action.checked?]
    · simp [Session.take, shut, expire, sent, Action.sent?]

end Session

namespace Life

variable {settings : Settings} {life later : Life} {action : Action} {session : Session}

/-- How far a life has come. -/
def age : Life → Nat
  | .unborn => 0
  | .added _ => 1
  | .alive _ => 2
  | .ending _ => 3
  | .ended _ => 4
  | .removed => 5

/-- The session of a life, as long as it is stored. -/
def session? : Life → Option Session
  | .unborn | .removed => none
  | .added session | .alive session | .ending session | .ended session => some session

/-- A message is sent with the header that is due, and the session has sent it. -/
theorem sends_eq_some {sent : Sent} {next : Session} (taken : sends settings sent session = some next) :
    sent.header = session.header settings sent.value sent.header.sendingTime ∧
      next = session.advance sent := by
  -- A message is sent only with the header that is due.
  unfold sends at taken
  split at taken
  next due => exact ⟨due, (Option.some.inj taken).symm⟩
  next => cases taken

/-- A life does not go back. -/
theorem age_le (taken : next settings life action = some later) : life.age ≤ later.age := by
  -- Each action that is allowed leaves the state, or leads to one of a greater age.
  unfold next at taken
  split at taken <;> first | (obtain ⟨session, -, rfl⟩ := Option.map_eq_some_iff.mp taken) | cases taken
  all_goals simp [age]

/-- An action begins a life, ends it, or lets the session go on as what the action makes of it. -/
theorem next_session (taken : next settings life action = some later) :
    (∃ sessionId, life = .unborn ∧ action = .addSession sessionId ∧
      later.session? = some { sessionId }) ∨
    later = .removed ∨
    ∃ session, life.session? = some session ∧ session.Signs settings action ∧
      later.session? = some (session.take action) := by
  cases action with
  | addSession sessionId =>
    cases life with
    | unborn =>
      cases taken
      exact Or.inl ⟨sessionId, rfl, rfl, rfl⟩
    | _ => cases taken
  | removeSession sessionId =>
    cases life with
    | ended session =>
      cases taken
      exact Or.inr (Or.inl rfl)
    | _ => cases taken
  | send sessionId cause sent =>
    cases life with
    | alive session | ended session =>
      obtain ⟨advanced, allowed, rfl⟩ := Option.map_eq_some_iff.mp taken
      obtain ⟨due, rfl⟩ := sends_eq_some allowed
      refine Or.inr (Or.inr ⟨session, rfl, ?_, rfl⟩)
      rintro _ ⟨⟩
      exact due
    | _ => cases taken
  | _ =>
    -- No other action sends anything, and the session goes on where the action is allowed.
    cases life with
    | unborn | removed => cases taken
    | added session | alive session | ending session | ended session =>
      first
      | cases taken; exact Or.inr (Or.inr ⟨session, rfl, by simp [Session.Signs, Action.sent?], rfl⟩)
      | cases taken

/-- The members of the session record the actions so far, as long as it is stored. -/
structure Records (taken : List Action) (life : Life) : Prop where
  unborn : life = .unborn → taken = []
  stored : ∀ session, life.session? = some session → session.Records taken

/-- Nothing has to be recorded in the beginning. -/
theorem Records.initial : Records [] .unborn :=
  ⟨fun _ => rfl, fun session located => by cases located⟩

/-- An action that is allowed is recorded. -/
theorem Records.next {taken : List Action} (allowed : Life.next settings life action = some later)
    (records : Records taken life) : Records (taken ++ [action]) later := by
  rcases next_session allowed with ⟨sessionId, rfl, rfl, born⟩ | rfl | ⟨before, found, signs, after⟩
  · -- The first action of all stores the session.
    rw [records.unborn rfl]
    refine ⟨fun unborn => by simp [unborn, session?] at born, fun session located => ?_⟩
    rw [born] at located
    cases located
    exact .new sessionId sessionId
  · exact ⟨fun unborn => (Life.noConfusion unborn), fun session located => by cases located⟩
  · refine ⟨fun unborn => by simp [unborn, session?] at after, fun session located => ?_⟩
    rw [after] at located
    cases located
    exact (records.stored before found).take signs

/-- A life that comes to its end does so by a close, or because the connection is gone. -/
theorem next_ending (taken : next settings life action = some later) (late : 3 ≤ later.age) :
    3 ≤ life.age ∨ ∃ sessionId, action = .close sessionId ∨ action = .peerDisconnected sessionId := by
  -- Every allowed action, one after the other: two of them lead to the third age.
  unfold next at taken
  split at taken <;>
    first | (obtain ⟨session, -, rfl⟩ := Option.map_eq_some_iff.mp taken) | cases taken
  all_goals simp [age] at late ⊢

/-- A life ends by raising Disconnect. -/
theorem next_ended (taken : next settings life action = some later) (late : 4 ≤ later.age) :
    4 ≤ life.age ∨ ∃ sessionId, action = .disconnect sessionId := by
  -- Every allowed action, one after the other: one of them leads to the fourth age.
  unfold next at taken
  split at taken <;>
    first | (obtain ⟨session, -, rfl⟩ := Option.map_eq_some_iff.mp taken) | cases taken
  all_goals simp [age] at late ⊢

/-- A session that is ending was told so, and one that has ended has raised Disconnect. -/
structure Ended (taken : List Action) (life : Life) : Prop where
  ending : 3 ≤ life.age →
    ∃ sessionId, .close sessionId ∈ taken ∨ .peerDisconnected sessionId ∈ taken
  ended : 4 ≤ life.age → ∃ sessionId, .disconnect sessionId ∈ taken

/-- The action that brings a life to its end has been taken. -/
theorem Ended.next {taken : List Action} (allowed : Life.next settings life action = some later)
    (before : Ended taken life) : Ended (taken ++ [action]) later where
  ending late := by
    -- The session was ending before, or this is the action that ends it.
    rcases next_ending allowed late with earlier | ⟨sessionId, now⟩
    · obtain ⟨sessionId, told⟩ := before.ending earlier
      exact ⟨sessionId, told.imp (List.mem_append_left _) (List.mem_append_left _)⟩
    · refine ⟨sessionId, now.imp ?_ ?_⟩ <;> simp +contextual
  ended late := by
    -- The session had ended before, or this is the action that says so.
    rcases next_ended allowed late with earlier | ⟨sessionId, rfl⟩
    · obtain ⟨sessionId, raised⟩ := before.ended earlier
      exact ⟨sessionId, List.mem_append_left _ raised⟩
    · exact ⟨sessionId, by simp⟩

/-- A session that is ending looks at no header, hands over no message, and closes nothing. -/
theorem next_early (early : (∃ sessionId header, action = .check sessionId header) ∨
      (∃ sessionId message, action = .message sessionId message) ∨
      ∃ sessionId, action = .close sessionId)
    (taken : next settings life action = some later) : life.age < 3 := by
  -- Each of the three is allowed to an open session alone.
  rcases early with ⟨sessionId, header, rfl⟩ | ⟨sessionId, message, rfl⟩ | ⟨sessionId, rfl⟩
  all_goals cases life <;> first | cases taken; simp [age] | cases taken

end Life

namespace World

/-- The actions of a session are its own. -/
theorem actions_own {sessionId : SessionId} {world : World} {action : Action}
    (taken : action ∈ world.actions sessionId) : action.sessionId? = some sessionId := by
  simpa using (List.mem_filter.mp taken).2

/-- The life of a stored session is that of its members. -/
theorem life_session {sessionId : SessionId} {world : World} {session : Session}
    (located : world.session sessionId = some session) :
    (world.life sessionId).session? = some session := by
  -- A zombie and an open session are both kept by their life.
  by_cases ended : session.state = .zombie
  · rw [life_of_zombie located ended]
    rfl
  · rw [life_of_open located ended]
    rfl

/-- The members of a session record what it has done since the beginning. -/
theorem records_of_tracks {settings : Settings} {world : World} {sessionId : SessionId}
    {session : Session} (tracks : (lives settings).Tracks {} world)
    (located : world.session sessionId = some session) :
    session.Records (world.actions sessionId) := by
  -- The life is the run over the actions, and each of them keeps the record.
  have lived : Guarded.run (Life.next settings) (world.actions sessionId) .unborn =
      some (world.life sessionId) := tracks.from_nothing rfl sessionId
  have records : Life.Records (world.actions sessionId) (world.life sessionId) :=
    Guarded.run_records Life.Records.initial Life.Records.next lived
  exact records.stored session (life_session located)

end World

namespace Process

variable {env : Environment} {events : List Event} {sessionId : SessionId}
  {earlier later : List Action} {action : Action}

/-- A session leads its life up to any of its actions, and from there on. -/
theorem run_cut (few : (run env events).world.enrolled.length < 2 ^ 64)
    (cut : (run env events).world.actions sessionId = earlier ++ action :: later) :
    ∃ before after, Guarded.run (Life.next env.settings) earlier .unborn = some before ∧
      Life.next env.settings before action = some after ∧
      Guarded.run (Life.next env.settings) later after =
        some ((run env events).world.life sessionId) := by
  -- The life is the run over all actions, which can be split at any of them.
  have lived : Guarded.run (Life.next env.settings) ((run env events).world.actions sessionId)
      .unborn = some ((run env events).world.life sessionId) :=
    (run_tracks env events few).from_nothing rfl sessionId
  rw [cut] at lived
  exact Guarded.run_split lived

/--
A session that has closed its connection, or was told that it is gone, is ending for good.

It looks at no further header, hands over no further message, and closes nothing again. A session
raises Disconnect for one of these reasons only, before it tells the bridge and before its removal,
and its removal is the last thing that happens to it.
-/
theorem run_closing (few : (run env events).world.enrolled.length < 2 ^ 64)
    (cut : (run env events).world.actions sessionId = earlier ++ action :: later) :
    (action = .close sessionId ∨ action = .peerDisconnected sessionId →
      (∀ header, .check sessionId header ∉ later) ∧
      (∀ message, .message sessionId message ∉ later) ∧ .close sessionId ∉ later) ∧
    (action = .disconnect sessionId →
      .close sessionId ∈ earlier ∨ .peerDisconnected sessionId ∈ earlier) ∧
    (action = .disconnected sessionId → .disconnect sessionId ∈ earlier) ∧
    (action = .removeSession sessionId → .disconnect sessionId ∈ earlier ∧ later = []) := by
  obtain ⟨before, after, first, taken, last⟩ := run_cut few cut
  have own : ∀ other ∈ earlier, other.sessionId? = some sessionId := fun other member =>
    World.actions_own (by rw [cut]; exact List.mem_append_left _ member)
  have ended : Life.Ended earlier before := Guarded.run_records
    ⟨fun late => by simp [Life.age] at late, fun late => by simp [Life.age] at late⟩
    Life.Ended.next first
  -- The actions in question are those of this session.
  have told (late : 3 ≤ before.age) :
      .close sessionId ∈ earlier ∨ .peerDisconnected sessionId ∈ earlier := by
    obtain ⟨other, told⟩ := ended.ending late
    rcases told with member | member
    all_goals
      obtain rfl := Option.some.inj (own _ member)
      simp [member]
  have raised (late : 4 ≤ before.age) : .disconnect sessionId ∈ earlier := by
    obtain ⟨other, member⟩ := ended.ended late
    obtain rfl := Option.some.inj (own _ member)
    exact member
  refine ⟨fun closing => ?_, ?_, ?_, ?_⟩
  · have late : 3 ≤ after.age := by
      rcases closing with rfl | rfl
      all_goals cases before <;> first | cases taken; simp [Life.age] | cases taken
    refine ⟨fun header => ?_, fun message => ?_, ?_⟩
    · exact Guarded.notMem_of_measure Life.age_le
        (Life.next_early (Or.inl ⟨_, _, rfl⟩)) last late
    · exact Guarded.notMem_of_measure Life.age_le
        (Life.next_early (Or.inr (Or.inl ⟨_, _, rfl⟩))) last late
    · exact Guarded.notMem_of_measure Life.age_le
        (Life.next_early (Or.inr (Or.inr ⟨_, rfl⟩))) last late
  · rintro rfl
    refine told ?_
    cases before <;> first | cases taken; simp [Life.age] | cases taken
  · rintro rfl
    refine raised ?_
    cases before <;> first | cases taken; simp [Life.age] | cases taken
  · rintro rfl
    have final : before.age = 4 ∧ after = .removed := by
      cases before <;> first | cases taken; exact ⟨rfl, rfl⟩ | cases taken
    refine ⟨raised final.1.ge, ?_⟩
    -- Nothing is allowed after a removal.
    cases later with
    | nil => rfl
    | cons action later =>
      rw [final.2] at last
      cases last

/-- Nothing but its removal happens to a session that has reported its disconnection. -/
theorem run_closing_disconnected :
    let actions :=
      (run .plain [.accept, .read 1 logOn, .disconnected 1, .timer 1]).world.actions 1
    (∀ message, .message 1 message ∉ actions.drop 7) ∧ .disconnect 1 ∈ actions.take 10 := by
  intro actions
  have few : (run .plain [.accept, .read 1 logOn, .disconnected 1, .timer 1]).world.enrolled.length
    < 2 ^ 64 := by decide +kernel
  -- The history is cut where the peer is gone, and again where the session is removed.
  have gone : actions = actions.take 6 ++ .peerDisconnected 1 :: actions.drop 7 := by
    decide +kernel
  have removed : actions = actions.take 10 ++ .removeSession 1 :: [] := by decide +kernel
  exact ⟨((run_closing few gone).1 (Or.inr rfl)).2.1, ((run_closing few removed).2.2.2 rfl).1⟩

/--
Every message that a session sends has the header that its actions so far determine.

The number counts its messages, and the target is the first SenderCompID that it has looked at.
-/
theorem run_headers (few : (run env events).world.enrolled.length < 2 ^ 64) {cause : Cause}
    {sent : Sent} (cut : (run env events).world.actions sessionId =
      earlier ++ .send sessionId cause sent :: later) :
    sent.header =
      { version := .fix44
        msgType := sent.value.msgType
        senderCompId := env.settings.fixCompId
        targetCompId := clientCompId (earlier.filterMap Action.checked?)
        msgSeqNum := UInt64.ofNat ((earlier.filterMap Action.sent?).length + 1)
        sendingTime := sent.header.sendingTime } := by
  obtain ⟨before, after, first, taken, -⟩ := run_cut few cut
  have records : Life.Records earlier before :=
    Guarded.run_records Life.Records.initial Life.Records.next first
  -- A send neither begins a life nor ends it.
  rcases Life.next_session taken with ⟨_, -, other, -⟩ | removed | ⟨session, found, signs, -⟩
  · cases other
  · subst removed
    cases before <;> simp [Life.next] at taken
  · obtain ⟨received, sends, compId, outbound, -⟩ := records.stored session found
    rw [signs sent rfl, Session.header, compId, outbound, received, sends]
    simp

/-- The answer to a client's first message carries the number 1, and names the client. -/
theorem run_headers_answer :
    let actions := (run .plain [.accept, .read 1 logOn, .disconnected 1]).world.actions 1
    let value := Outbound.userResponse
      { userRequestId := "1", username := "7", userStatus := .loggedIn, userStatusText := "" }
    let header : Header := ⟨.fix44, .userResponse, "BRIDGE", "CLIENT", 1, 0⟩
    actions = actions.take 5 ++ .send 1 .reply ⟨header, value, true⟩ :: actions.drop 6 ∧
      header.targetCompId = clientCompId ((actions.take 5).filterMap Action.checked?) ∧
      header.msgSeqNum = UInt64.ofNat (((actions.take 5).filterMap Action.sent?).length + 1) := by
  -- The history is cut at the reply, and the actions before it determine the header.
  intro actions value header
  have few : (run .plain [.accept, .read 1 logOn, .disconnected 1]).world.enrolled.length <
    2 ^ 64 := by decide +kernel
  have cut : actions = actions.take 5 ++ .send 1 .reply ⟨header, value, true⟩ :: actions.drop 6 := by
    decide +kernel
  have signed := run_headers few cut
  exact ⟨cut, congrArg Header.targetCompId signed, congrArg Header.msgSeqNum signed⟩

end Process

end FixBridge
