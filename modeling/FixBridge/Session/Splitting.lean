import FixBridge.Session.Intake
import FixBridge.Session.Plain

/-! Runs that differ only in how a byte stream is cut into reads have the same inbound effect. -/

namespace FixBridge

namespace Process

section Steps

variable (env : Environment) {observed : SessionId} {process : Process}

/-- A step that does not concern a session delivers nothing for it and keeps its buffer. -/
theorem step_unheard {event : Event} (calm : process.world.NeverReady)
    (listed : process.world.Listed) (other : ¬ Concerns observed process.world event) :
    process.world.Unheard observed (process.step env event).world ∧
    (process.step env event).buffer observed = process.buffer observed := by
  cases event with
  | read sessionId bytes =>
    -- A read is heard by the session that reads, and by no other.
    refine ⟨?_, read_buffer env (Ne.symm other) bytes⟩
    show process.world.Unheard observed (process.read env sessionId bytes).world
    by_cases alive : process.world.Open sessionId
    · obtain ⟨count, processed⟩ := read_processed env bytes calm alive
      have different : sessionId ≠ observed := other
      have heard := (processed.hears calm observed).1
      rw [if_neg different] at heard
      exact heard
    · rw [read_of_ended env alive]
      exact .refl observed _
  | accept =>
    -- The session that is enrolled is another one, or it is stored already.
    have known : process.world.nextSessionId + 1 = observed →
        process.world.session observed ≠ none := fun same missing => other ⟨same, missing⟩
    refine ⟨accept_unheard env observed calm known, ?_⟩
    cases located : process.world.session (process.world.nextSessionId + 1) with
    | none =>
      -- The buffer is emptied for a session that is new.
      have different : observed ≠ process.world.nextSessionId + 1 := by
        rintro rfl
        exact known rfl located
      simp only [step, located]
      exact Function.update_of_ne different _ _
    | some session => simp only [step, located]
  | disconnected | bridge | timer | gatewayConnected | gatewayDisconnected | logout =>
    rw [step_world env (by simp)]
    -- No other event touches a buffer.
    exact ⟨handle_unheard env observed calm listed (by simp), rfl⟩

/-- A session that is enrolled starts with an empty buffer. -/
theorem step_enrolled (missing : process.world.session (process.world.nextSessionId + 1) = none) :
    (process.step env .accept).buffer (process.world.nextSessionId + 1) = [] := by
  -- A session that is not stored is created with an empty buffer.
  simp only [step, missing]
  exact Function.update_self ..

end Steps

/-- No open session keeps a complete frame in its buffer. -/
def Drained (env : Environment) (process : Process) : Prop :=
  ∀ sessionId, process.world.Open sessionId → env.framer.frame (process.buffer sessionId) = none

/-- Every step leaves the buffers of open sessions without complete frames. -/
theorem Drained.step {env : Environment} {process : Process} (drained : process.Drained env)
    (event : Event) (calm : process.world.NeverReady) (listed : process.world.Listed) :
    (process.step env event).Drained env := by
  intro observed alive
  by_cases concerns : Concerns observed process.world event
  · cases event with
    | read sessionId bytes =>
      obtain rfl : sessionId = observed := concerns
      -- A session that is open after a read was open before, and keeps the incomplete tail.
      by_cases before : process.world.Open sessionId
      · obtain ⟨count, processed⟩ := read_processed env bytes calm before
        have tail := (processed.everything alive).2
        exact (congrArg env.framer.frame tail).trans (env.framer.frame_tail _)
      · rw [show process.step env (.read sessionId bytes) = process from
          read_of_ended env before bytes] at alive
        exact absurd alive before
    | accept =>
      obtain ⟨rfl, missing⟩ := concerns
      rw [step_enrolled env missing]
      exact env.framer.frame_nil
    | disconnected | bridge | timer | gatewayConnected | gatewayDisconnected | logout =>
      exact concerns.elim
  · -- A session that the event does not concern was open before and keeps its buffer.
    obtain ⟨unheard, same⟩ := step_unheard env calm listed concerns
    rw [same]
    exact drained observed (unheard.open_before alive)

/-- After every run the buffers of open sessions hold no complete frames. -/
theorem run_drained (env : Environment) (events : List Event) : (run env events).Drained env := by
  -- No session is open in a new process, and every step keeps what is asserted.
  induction events using List.reverseRecOn with
  | nil => exact fun sessionId alive => by obtain ⟨_, located, _⟩ := alive; cases located
  | append_singleton events event ih =>
    rw [run_concat]
    exact ih.step event (run_neverReady env events) (run_listed env events)

/-- Two processes that nothing can tell apart. -/
structure Alike (first second : Process) : Prop where
  world : first.world = second.world
  buffer : ∀ sessionId, first.world.Open sessionId →
    first.buffer sessionId = second.buffer sessionId

/-- Processes that are alike stay so. -/
theorem Alike.step {env : Environment} {first second : Process} (alike : Alike first second)
    (event : Event) (calm : first.world.NeverReady) (listed : first.world.Listed) :
    Alike (first.step env event) (second.step env event) := by
  have calm' : second.world.NeverReady := by rw [← alike.world]; exact calm
  have listed' : second.world.Listed := by rw [← alike.world]; exact listed
  -- A session that the step does not concern keeps its buffer on both sides.
  have others : ∀ sessionId, ¬ Concerns sessionId first.world event →
      (first.step env event).world.Open sessionId →
      (first.step env event).buffer sessionId = (second.step env event).buffer sessionId := by
    intro sessionId other alive
    obtain ⟨unheard, same⟩ := step_unheard env calm listed other
    rw [same, (step_unheard env calm' listed' (by rw [← alike.world]; exact other)).2]
    exact alike.buffer sessionId (unheard.open_before alive)
  by_cases reads : ∃ sessionId bytes, event = .read sessionId bytes
  · obtain ⟨sessionId, bytes, rfl⟩ := reads
    -- The session that reads has the same bytes on both sides, unless it has ended.
    have agree : Framer.Agree (Session.live sessionId) (intake sessionId first)
        (intake sessionId second) := by
      refine ⟨alike.world, fun still => alike.buffer sessionId ?_⟩
      rw [alike.world]
      exact of_decide_eq_true still
    -- On both sides the read is the arrival of the same chunk.
    have both := (read_feed env bytes calm).trans
      ((agree.feed env.framer (Session.receiveFrame env sessionId) _ bytes).trans
        (read_feed env bytes calm').symm)
    refine ⟨both.1, fun other alive => ?_⟩
    by_cases same : other = sessionId
    · subst same
      -- The session that reads agrees with itself as long as it is open.
      apply both.2
      apply decide_eq_true
      rw [← both.1]
      exact alive
    · exact others other (Ne.symm same) alive
  · have other : ∀ sessionId bytes, event ≠ .read sessionId bytes :=
      fun sessionId bytes same => reads ⟨sessionId, bytes, same⟩
    -- Every other event has the same effect on the two worlds.
    refine ⟨by rw [step_world env other, step_world env other, alike.world],
      fun sessionId alive => ?_⟩
    by_cases concerns : Concerns sessionId first.world event
    · cases event with
      | read sessionId' bytes => exact absurd rfl (other sessionId' bytes)
      | accept =>
        -- A new session starts with an empty buffer on both sides.
        obtain ⟨rfl, missing⟩ := concerns
        rw [step_enrolled env missing, alike.world, step_enrolled env]
        rw [← alike.world]
        exact missing
      | disconnected | bridge | timer | gatewayConnected | gatewayDisconnected | logout =>
        exact concerns.elim
    · exact others sessionId concerns alive

/-- Runs that continue in the same way from processes that are alike end in such processes. -/
theorem run_alike (env : Environment) {first second : List Event}
    (alike : Alike (run env first) (run env second)) (after : List Event) :
    Alike (run env (first ++ after)) (run env (second ++ after)) := by
  induction after using List.reverseRecOn with
  | nil => simpa using alike
  | append_singleton after event ih =>
    -- The common events are taken one by one.
    rw [← List.append_assoc, ← List.append_assoc, run_concat, run_concat]
    exact ih.step event (run_neverReady env _) (run_listed env _)

section Chunks

variable (env : Environment) (events : List Event) (sessionId : SessionId)

/-- Reads are the arrival of chunks. -/
theorem run_reads (chunks : List (List UInt8)) :
    Framer.Agree (Session.live sessionId)
      (intake sessionId (run env (events ++ chunks.map (.read sessionId))))
      (chunks.foldl (env.framer.feed (Session.receiveFrame env sessionId)
        (Session.live sessionId)) (intake sessionId (run env events))) := by
  induction chunks using List.reverseRecOn with
  | nil => simpa using Framer.Agree.refl (intake sessionId (run env events))
  | append_singleton chunks chunk ih =>
    -- The last read is the arrival of the last chunk.
    rw [List.map_append, ← List.append_assoc, List.map_singleton, run_concat, List.foldl_append]
    exact (read_feed env chunk (run_neverReady env _)).trans (ih.feed env.framer _ _ chunk)

/-- Reads leave the buffers of other sessions alone. -/
theorem run_reads_buffer {other : SessionId} (different : other ≠ sessionId)
    (chunks : List (List UInt8)) :
    (run env (events ++ chunks.map (.read sessionId))).buffer other =
      (run env events).buffer other := by
  induction chunks using List.reverseRecOn with
  | nil => simp
  | append_singleton chunks chunk ih =>
    -- One more read of the session does not touch the other buffer either.
    rw [List.map_append, ← List.append_assoc, List.map_singleton, run_concat]
    exact (read_buffer env different chunk).trans ih

/-- A session that is not open ignores all chunks. -/
theorem run_reads_ended (ended : ¬ (run env events).world.Open sessionId)
    (chunks : List (List UInt8)) :
    run env (events ++ chunks.map (.read sessionId)) = run env events := by
  induction chunks using List.reverseRecOn with
  | nil => simp
  | append_singleton chunks chunk ih =>
    -- One more read is ignored as well.
    rw [List.map_append, ← List.append_assoc, List.map_singleton, run_concat, ih]
    exact read_of_ended env ended chunk

/-- Two ways of cutting one stream into reads lead to processes that are alike. -/
theorem run_split {first second : List (List UInt8)} (same : first.flatten = second.flatten) :
    Alike (run env (events ++ first.map (.read sessionId)))
      (run env (events ++ second.map (.read sessionId))) := by
  by_cases alive : (run env events).world.Open sessionId
  · -- The buffer held no complete frame, so feeding the chunks depends on their bytes only.
    have incomplete := run_drained env events sessionId alive
    have live : Session.live sessionId (run env events).world = true := decide_eq_true alive
    have agree := (run_reads env events sessionId first).trans
      ((env.framer.feed_chunks_agree _ _ incomplete same live).trans
        (run_reads env events sessionId second).symm)
    refine ⟨agree.1, fun other alive' => ?_⟩
    -- The buffers of the two runs agree for the session that reads, and nobody else's is touched.
    by_cases here : other = sessionId
    · subst here
      apply agree.2
      apply decide_eq_true
      rw [← agree.1]
      exact alive'
    · rw [run_reads_buffer env events sessionId here, run_reads_buffer env events sessionId here]
  · -- A session that has ended ignores the stream in either cut.
    rw [run_reads_ended env events sessionId alive, run_reads_ended env events sessionId alive]
    exact ⟨rfl, fun _ _ => rfl⟩

/-- Reads process the first frames of the stream that starts with what the session had. -/
theorem run_processed (alive : (run env events).world.Open sessionId)
    (chunks : List (List UInt8)) :
    ∃ count, Session.Processed env sessionId ((run env events).buffer sessionId ++ chunks.flatten)
      (run env events).world
      (intake sessionId (run env (events ++ chunks.map (.read sessionId)))) count := by
  have incomplete := run_drained env events sessionId alive
  have live : Session.live sessionId (run env events).world = true := decide_eq_true alive
  -- Feeding the chunks drains what the buffer held followed by the stream.
  obtain ⟨count, processed⟩ := Session.drain_processed env
    ((run env events).buffer sessionId ++ chunks.flatten) alive
  exact ⟨count, processed.of_agree ((run_reads env events sessionId chunks).trans
    (env.framer.feed_chunks _ _ incomplete chunks live))⟩

end Chunks

/-- The bytes that arrive on the connection of a session. -/
def received (sessionId : SessionId) : Event → List UInt8
  | .read other bytes => if other = sessionId then bytes else []
  | _ => []

/--
The frames of a stream were delivered in order up to a certain one.

It is the last one of the stream if the session is open, and the session keeps the incomplete tail.
-/
structure Received (env : Environment) (sessionId : SessionId) (stream : List UInt8)
    (earlier : List Delivery) (process : Process) (count : Nat) : Prop where
  bounded : count ≤ (env.framer.frames stream).1.length
  inbound : process.world.inbound sessionId =
    earlier ++ ((env.framer.frames stream).1.take count).filterMap env.delivery
  /-- Only the last frame can be one that is refused. -/
  parsed : ∀ frame ∈ ((env.framer.frames stream).1.take count).dropLast,
    (env.delivery frame).isSome
  everything : process.world.Open sessionId → count = (env.framer.frames stream).1.length ∧
    process.buffer sessionId = (env.framer.frames stream).2 ∧
    ∀ frame ∈ (env.framer.frames stream).1, (env.delivery frame).isSome

namespace Received

variable {env : Environment} {sessionId : SessionId} {stream : List UInt8}
  {earlier : List Delivery} {process : Process} {count : Nat}

/-- A stream that a session received after what it had has been delivered as a whole. -/
theorem of_processed {final : Process} {start : World}
    (processed : Session.Processed env sessionId stream start (intake sessionId final) count)
    (calm : start.NeverReady) :
    Received env sessionId stream (start.inbound sessionId) final count := by
  obtain ⟨heard, parsed, all⟩ := processed.hears calm sessionId
  refine ⟨processed.bounded, ?_, parsed, fun still => ?_⟩
  · have inbound := heard.inbound
    -- The session observes its own deliveries.
    rw [if_pos rfl] at inbound
    exact inbound
  · obtain ⟨everything, tail⟩ := processed.everything still
    exact ⟨everything, tail, all still⟩

/-- A step that does not concern the session leaves everything as it is. -/
theorem other (got : Received env sessionId stream earlier process count) {event : Event}
    (calm : process.world.NeverReady) (listed : process.world.Listed)
    (unconcerned : ¬ Concerns sessionId process.world event) :
    Received env sessionId stream earlier (process.step env event) count := by
  obtain ⟨unheard, same⟩ := step_unheard env calm listed unconcerned
  refine ⟨got.bounded, ?_, got.parsed, fun still => ?_⟩
  · rw [unheard.inbound, List.append_nil]
    -- Nothing is heard from a step that concerns somebody else.
    exact got.inbound
  · rw [same]
    exact got.everything (unheard.open_before still)

/-- A read extends the stream, and delivers the frames that become complete. -/
theorem read (got : Received env sessionId stream earlier process count) (bytes : List UInt8)
    (calm : process.world.NeverReady) :
    ∃ more, Received env sessionId (stream ++ bytes) earlier
      (process.read env sessionId bytes) more := by
  have frames := env.framer.frames_append stream bytes
  have bounded := got.bounded
  by_cases alive : process.world.Open sessionId
  · -- All frames so far were delivered, and the new ones begin in the incomplete tail.
    obtain ⟨rfl, tail, old⟩ := got.everything alive
    obtain ⟨more, processed⟩ := read_processed env bytes calm alive
    rw [tail] at processed
    have new := of_processed processed calm
    have inbound := got.inbound
    rw [List.take_length] at inbound
    refine ⟨(env.framer.frames stream).1.length + more, ?_, ?_, ?_, fun still => ?_⟩
    · have bounded' := new.bounded
      rw [frames, List.length_append]
      omega
    · rw [new.inbound, inbound, frames, List.take_length_add_append, List.filterMap_append,
        List.append_assoc]
    · intro frame member
      rw [frames, List.take_length_add_append, List.dropLast_append] at member
      -- The last of the frames is a new one, unless no frame has become complete.
      split at member
      · exact old frame (List.mem_of_mem_dropLast member)
      · rcases List.mem_append.mp member with member | member
        · exact old frame member
        · exact new.parsed frame member
    · obtain ⟨all, rest, parsed⟩ := new.everything still
      rw [frames]
      refine ⟨by simp [all], rest, fun frame member => ?_⟩
      rcases List.mem_append.mp member with member | member
      · exact old frame member
      · exact parsed frame member
  · -- The session has ended, and later bytes only extend the frames that are never looked at.
    rw [read_of_ended env alive]
    refine ⟨count, ?_, ?_, ?_, fun still => absurd still alive⟩
    · rw [frames, List.length_append]
      -- The frames that count are among the old ones.
      omega
    · rw [frames, List.take_append_of_le_length bounded]
      exact got.inbound
    · rw [frames, List.take_append_of_le_length bounded]
      exact got.parsed

end Received

section Connection

variable (env : Environment) {events : List Event}

/-- If few connections were accepted in the end, then few were accepted so far. -/
theorem few_earlier {earlier : List Event} (begins : earlier <+: events)
    (few : (run env events).world.enrolled.length < 2 ^ 64) :
    (run env earlier).world.enrolled.length < 2 ^ 64 :=
  Nat.lt_of_le_of_lt (World.enrolled_mono (run_log env begins)) few

/-- The identifier that is given out next is added to those that were given out. -/
theorem enrolled_accept (events : List Event) :
    (run env events).world.nextSessionId + 1 ∈
      (run env (events ++ [.accept])).world.enrolled ∧
    (run env events).world.enrolled.length + 1 ≤
      (run env (events ++ [.accept])).world.enrolled.length := by
  rw [run_concat]
  have calm := run_neverReady env events
  -- The enrolment adds the identifier before the bridge is told.
  have enrolled : ProcessStep env (run env events).world _ := .enroll (run env events).world
  -- The log of the enrolment stays at the front while the bridge has control.
  have told : (SessionManager.enroll (run env events).world).log <+:
      ((run env events).step env .accept).world.log :=
    ProcessChain.log (BridgeChain.process
      (Controller.callbacks_chain env _ (enrolled.neverReady calm))) (enrolled.neverReady calm)
  have added := World.enroll_enrolled (run env events).world
  refine ⟨World.mem_enrolled_of_log told (by simp [added]), ?_⟩
  have longer := World.enrolled_mono told
  -- One identifier more was given out.
  rw [added, List.length_append] at longer
  exact longer

/-- The identifier that is given out next is not in use. -/
theorem unused_accept (few : (run env (events ++ [.accept])).world.enrolled.length < 2 ^ 64) :
    (run env events).world.session ((run env events).world.nextSessionId + 1) = none ∧
    (run env events).world.nextSessionId + 1 ∉ (run env events).world.enrolled := by
  have life := Lifecycle.of_run env events (few_earlier env (List.prefix_append ..) few)
  -- The identifiers do not wrap around, because one more is still below the bound.
  have longer := (enrolled_accept env events).2
  obtain ⟨-, unknown⟩ := life.fresh (by omega)
  exact ⟨life.absent unknown, unknown⟩

/-- Nothing is delivered for a session that was never added. -/
theorem run_undelivered (events : List Event)
    (few : (run env events).world.enrolled.length < 2 ^ 64) {sessionId : SessionId}
    (unknown : sessionId ∉ (run env events).world.enrolled) :
    (run env events).world.inbound sessionId = [] := by
  induction events using List.reverseRecOn with
  | nil => rfl
  -- The only events that could deliver something are a read and an enrolment of the session.
  | append_singleton events event ih =>
    have begins := List.prefix_append events [event]
    have few' := few_earlier env begins few
    have before : sessionId ∉ (run env events).world.enrolled := fun added =>
      unknown (World.mem_enrolled_of_log (run_log env begins) added)
    have missing := (Lifecycle.of_run env events few').absent before
    have calm := run_neverReady env events
    by_cases concerns : Concerns sessionId (run env events).world event
    · cases event with
      | read other bytes =>
        -- A session that is not stored ignores what arrives.
        obtain rfl : other = sessionId := concerns
        have ended : ¬ (run env events).world.Open other := by
          intro alive
          obtain ⟨session, located, -⟩ := World.open_iff.mp alive
          cases missing.symm.trans located
        rw [run_concat, show (run env events).step env (.read other bytes) = run env events from
          read_of_ended env ended bytes]
        exact ih few' before
      | accept =>
        -- Enrolling the session would add it.
        obtain ⟨rfl, -⟩ := concerns
        exact absurd (enrolled_accept env events).1 unknown
      | disconnected | bridge | timer | gatewayConnected | gatewayDisconnected | logout =>
        exact concerns.elim
    · rw [run_concat, (step_unheard env calm (run_listed env events) concerns).1.inbound,
        List.append_nil]
      exact ih few' before

/-- An event concerns a session that was added only if the session reads. -/
theorem read_of_concerns {sessionId : SessionId} {event : Event}
    (few : (run env (events ++ [event])).world.enrolled.length < 2 ^ 64)
    (added : sessionId ∈ (run env events).world.enrolled)
    (concerns : Concerns sessionId (run env events).world event) :
    ∃ bytes, event = .read sessionId bytes := by
  cases event with
  | read other bytes =>
    obtain rfl : other = sessionId := concerns
    exact ⟨bytes, rfl⟩
  | accept =>
    -- Identifiers are not given out again.
    obtain ⟨rfl, -⟩ := concerns
    exact absurd added (unused_accept env few).2
  | disconnected | bridge | timer | gatewayConnected | gatewayDisconnected | logout =>
    exact concerns.elim

variable (before : List Event)

/-- The events of a connection begin with the one that accepts it. -/
theorem enrolled_connection (during : List Event) :
    (run env before).world.nextSessionId + 1 ∈
      (run env (before ++ .accept :: during)).world.enrolled := by
  have begins : before ++ [.accept] <+: before ++ .accept :: during := ⟨during, by simp⟩
  -- The connection was accepted at the beginning of these events.
  exact World.mem_enrolled_of_log (run_log env begins) (enrolled_accept env before).1

/-- Whatever else happens, a connection delivers the frames of its stream in order. -/
theorem run_received (during : List Event)
    (few : (run env (before ++ .accept :: during)).world.enrolled.length < 2 ^ 64) :
    ∃ count, Received env ((run env before).world.nextSessionId + 1)
      (during.flatMap (received ((run env before).world.nextSessionId + 1))) []
      (run env (before ++ .accept :: during)) count := by
  induction during using List.reverseRecOn with
  | nil =>
    -- The identifier is new, so nothing was delivered for it and its buffer is empty.
    obtain ⟨missing, unknown⟩ := unused_accept env few
    have calm := run_neverReady env before
    have few' := few_earlier env (List.prefix_append before [.accept]) few
    have silent := run_undelivered env before few' unknown
    have frames : env.framer.frames [] = ([], []) :=
      Framer.frames_of_none env.framer env.framer.frame_nil
    rw [run_concat]
    refine ⟨0, by simp, ?_, by simp, fun _ => ?_⟩
    · rw [step_world env (by simp), (accept_inbound env _ calm).1, silent]
      rfl
    · rw [List.flatMap_nil, frames]
      exact ⟨rfl, step_enrolled env missing, by simp⟩
  | append_singleton during event ih =>
    -- The last event is taken off the end of the run.
    have split : before ++ .accept :: (during ++ [event]) =
        (before ++ .accept :: during) ++ [event] := by simp
    rw [split] at few ⊢
    obtain ⟨count, got⟩ := ih (few_earlier env (List.prefix_append ..) few)
    have calm := run_neverReady env (before ++ .accept :: during)
    rw [run_concat, List.flatMap_append, List.flatMap_singleton]
    by_cases concerns : Concerns ((run env before).world.nextSessionId + 1)
        (run env (before ++ .accept :: during)).world event
    · -- The session was added, so the event is a read on its connection.
      obtain ⟨bytes, rfl⟩ := read_of_concerns env few (enrolled_connection env before during)
        concerns
      rw [received, if_pos rfl]
      exact got.read bytes calm
    · refine ⟨count, ?_⟩
      -- Any other event brings no bytes for this session.
      have nothing : received ((run env before).world.nextSessionId + 1) event = [] := by
        cases event with
        | read other bytes => exact if_neg concerns
        | accept | disconnected | bridge | timer | gatewayConnected | gatewayDisconnected
          | logout => rfl
      rw [nothing, List.append_nil]
      exact got.other calm (run_listed env _) concerns

/-- Nothing more is delivered for a connection whose session has ended. -/
theorem run_final {during : List Event} (later : List Event)
    (few : (run env (before ++ .accept :: (during ++ later))).world.enrolled.length < 2 ^ 64)
    (ended : ¬ (run env (before ++ .accept :: during)).world.Open
      ((run env before).world.nextSessionId + 1)) :
    ¬ (run env (before ++ .accept :: (during ++ later))).world.Open
      ((run env before).world.nextSessionId + 1) ∧
    (run env (before ++ .accept :: (during ++ later))).world.inbound
        ((run env before).world.nextSessionId + 1) =
      (run env (before ++ .accept :: during)).world.inbound
        ((run env before).world.nextSessionId + 1) := by
  -- Whatever follows is taken off the end, event by event.
  induction later using List.reverseRecOn with
  | nil => simpa using ended
  | append_singleton later event ih =>
    have split : before ++ .accept :: (during ++ (later ++ [event])) =
        (before ++ .accept :: (during ++ later)) ++ [event] := by simp
    rw [split] at few ⊢
    obtain ⟨still, same⟩ := ih (few_earlier env (List.prefix_append ..) few)
    have calm := run_neverReady env (before ++ .accept :: (during ++ later))
    rw [run_concat]
    by_cases concerns : Concerns ((run env before).world.nextSessionId + 1)
        (run env (before ++ .accept :: (during ++ later))).world event
    · -- A read after the end is ignored.
      obtain ⟨bytes, rfl⟩ := read_of_concerns env few
        (enrolled_connection env before (during ++ later)) concerns
      rw [show (run env (before ++ .accept :: (during ++ later))).step env (.read _ bytes) = _ from
        read_of_ended env still bytes]
      exact ⟨still, same⟩
    · -- Nothing else is heard from the session, and it is not opened again.
      obtain ⟨unheard, -⟩ := step_unheard env calm (run_listed env _) concerns
      refine ⟨mt unheard.open_before still, ?_⟩
      rw [unheard.inbound, List.append_nil]
      exact same

end Connection

/--
The inbound effect of a connection does not depend on how its stream is cut into reads.

Two ways of cutting lead to processes that cannot be told apart, whatever happens afterwards. What
arrives at an open session is processed frame by frame, up to the first frame that closes the
session or throws. Whatever else happens in the run, with fewer than 2^64 connections, a session
delivers the first frames of its connection's stream once and in order. As long as it is open it has
delivered all of them, and its buffer holds the incomplete tail. After its end it delivers nothing.
-/
theorem run_inbound (env : Environment) (before : List Event) :
    (∀ sessionId (first second : List (List UInt8)) after, first.flatten = second.flatten →
      Alike (run env (before ++ first.map (.read sessionId) ++ after))
        (run env (before ++ second.map (.read sessionId) ++ after))) ∧
    (∀ sessionId (chunks : List (List UInt8)), (run env before).world.Open sessionId →
      let start := run env before
      let final := run env (before ++ chunks.map (.read sessionId))
      let stream := start.buffer sessionId ++ chunks.flatten
      ∃ count, Session.Processed env sessionId stream start.world (intake sessionId final) count ∧
        Received env sessionId stream (start.world.inbound sessionId) final count) ∧
    (∀ during later,
      (run env (before ++ .accept :: (during ++ later))).world.enrolled.length < 2 ^ 64 →
      let sessionId := (run env before).world.nextSessionId + 1
      let final := run env (before ++ .accept :: during)
      let stream := during.flatMap (received sessionId)
      (∃ count, Received env sessionId stream [] final count) ∧
      (final.world.Open sessionId →
        (env.framer.frames stream).1.flatten ++ final.buffer sessionId = stream ∧
        env.framer.frame (final.buffer sessionId) = none) ∧
      (¬ final.world.Open sessionId →
        (run env (before ++ .accept :: (during ++ later))).world.inbound sessionId =
          final.world.inbound sessionId)) := by
  refine ⟨fun sessionId first second after same => ?_, fun sessionId chunks alive => ?_,
    fun during later few => ?_⟩
  · -- Both cuts lead to processes that are alike, and what follows keeps them so.
    exact run_alike env (run_split env before sessionId same) after
  · -- What is processed of the stream is what is delivered for the session.
    obtain ⟨count, processed⟩ := run_processed env before sessionId alive chunks
    exact ⟨count, processed, .of_processed processed (run_neverReady env before)⟩
  · -- The connection is one of a run that may go on.
    have begins : before ++ .accept :: during <+: before ++ .accept :: (during ++ later) :=
      ⟨later, by simp⟩
    obtain ⟨count, got⟩ := run_received env before during (few_earlier env begins few)
    refine ⟨⟨count, got⟩, fun alive => ⟨?_, ?_⟩, fun ended => ?_⟩
    · -- An open session has all frames behind it, and the rest of the stream in its buffer.
      rw [(got.everything alive).2.1]
      exact env.framer.frames_flatten _
    · exact run_drained env _ _ alive
    · exact (run_final env before later few ended).2

/-- A UserRequest that arrives in two parts is delivered as if it had arrived at once. -/
theorem run_inbound_logOn :
    let parts := [logOn.take 20, logOn.drop 20]
    let final := run .plain ([.accept] ++ parts.map (.read 1))
    Alike (run .plain ([.accept] ++ parts.map (.read 1) ++ [.disconnected 1]))
      (run .plain ([.accept] ++ [logOn].map (.read 1) ++ [.disconnected 1])) ∧
    (∃ count,
      Session.Processed .plain 1 logOn (run .plain [.accept]).world (intake 1 final) count ∧
      Received .plain 1 logOn [] final count) ∧
    (∃ count, Received .plain 1 logOn [] final count) ∧
    (Plain.framer.frames logOn).1.flatten ++ final.buffer 1 = logOn ∧
    (run .plain ([.accept] ++ (parts.map (.read 1) ++ [.disconnected 1] ++
        [.read 1 logOn]))).world.inbound 1 =
      (run .plain ([.accept] ++ (parts.map (.read 1) ++ [.disconnected 1]))).world.inbound 1 := by
  intro parts final
  have connected := (run_inbound .plain []).2.2
  -- The message arrives in two parts on a connection that stays open.
  have received := connected (parts.map (.read 1)) [] (by decide +kernel)
  refine ⟨?_, ?_, ?_, ?_, ?_⟩
  · exact (run_inbound .plain [.accept]).1 1 parts [logOn] [.disconnected 1] (by simp [parts])
  · exact (run_inbound .plain [.accept]).2.1 1 parts (by decide +kernel)
  · exact received.1
  · exact (received.2.1 (by decide +kernel)).1
  · exact (connected (parts.map (.read 1) ++ [.disconnected 1]) [.read 1 logOn]
      (by decide +kernel)).2.2 (by decide +kernel)

end Process

end FixBridge
