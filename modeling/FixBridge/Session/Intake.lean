import FixBridge.Session.Delivery
import FixBridge.Session.Lifecycle

/-! The read handler forwards the frames of a byte stream however the stream is cut into reads. -/

namespace FixBridge

namespace Session

/-- A session processes frames as long as it is open. -/
def live (sessionId : SessionId) (world : World) : Bool := decide (world.Open sessionId)

section Frames

variable (env : Environment) (observed : SessionId) {sessionId : SessionId} {world : World}

/-- Received frames lead to their deliveries in order, up to the one that closes the session. -/
theorem receiveFrames_hears (frames : List (List UInt8)) (calm : world.NeverReady)
    (before : ∀ fewer < frames.length, live sessionId ((frames.take fewer).foldl
      (fun world frame => receiveFrame env sessionId frame world) world) = true) :
    let final := frames.foldl (fun world frame => receiveFrame env sessionId frame world) world
    final.NeverReady ∧
    world.Hears observed
      (if sessionId = observed then frames.filterMap env.delivery else []) final ∧
    (∀ frame ∈ frames.dropLast, (env.delivery frame).isSome) ∧
    (live sessionId final = true → ∀ frame ∈ frames, (env.delivery frame).isSome) := by
  -- The induction takes the last frame away, because it is the one that may close the session.
  induction frames using List.reverseRecOn with
  | nil =>
    refine ⟨calm, ?_, by simp, by simp⟩
    simpa using World.Unheard.refl observed world
  | append_singleton frames frame ih =>
    -- What holds before the longer list of frames holds before the shorter one.
    obtain ⟨calm', heard, -, parsed⟩ := ih fun fewer below => by
      have shorter := before fewer (by simp; omega)
      rw [List.take_append_of_le_length (by omega)] at shorter
      exact shorter
    -- All frames before the last one leave the session open, so none of them is refused.
    have alive : live sessionId (frames.foldl
        (fun world frame => receiveFrame env sessionId frame world) world) = true := by
      have whole := before frames.length (by simp)
      rw [List.take_left] at whole
      exact whole
    have open_ := of_decide_eq_true alive
    obtain ⟨final, last⟩ := receiveFrame_hears env observed frame calm' open_
    simp only [List.foldl_append, List.foldl_cons, List.foldl_nil]
    refine ⟨final, ?_, ?_, fun still other member => ?_⟩
    · -- The deliveries of the frames are appended one by one.
      have both := heard.trans last
      by_cases same : sessionId = observed
      · simp only [same, if_true, List.filterMap_append] at both ⊢
        cases delivered : env.delivery frame <;> simpa [delivered] using both
      · simpa [same] using both
    · rw [List.dropLast_concat]
      exact parsed alive
    · -- If the session is still open after the last frame, not even that one was refused.
      rcases List.mem_append.mp member with member | member
      · exact parsed alive other member
      · rw [List.mem_singleton.mp member, Option.isSome_iff_ne_none]
        intro refused
        exact receiveFrame_of_refused env refused calm' open_ (of_decide_eq_true still)

/--
The first frames of a stream were processed, and which ones they are is decided by the stream.

`final` is what a session has not processed at the end, and the world then.
-/
structure Processed (sessionId : SessionId) (stream : List UInt8) (start : World)
    (final : List UInt8 × World) (count : Nat) : Prop where
  /-- A part of the frames was processed, one after the other. -/
  bounded : count ≤ (env.framer.frames stream).1.length
  processed : final.2 = ((env.framer.frames stream).1.take count).foldl
    (fun world frame => receiveFrame env sessionId frame world) start
  /-- Every frame before the last of them left the session open. -/
  before : ∀ fewer < count, (((env.framer.frames stream).1.take fewer).foldl
    (fun world frame => receiveFrame env sessionId frame world) start).Open sessionId
  /-- A session that is still open has processed all frames, and kept the incomplete tail. -/
  everything : final.2.Open sessionId → count = (env.framer.frames stream).1.length ∧
    final.1 = (env.framer.frames stream).2

/-- Draining a buffer processes its first frames. -/
theorem drain_processed (stream : List UInt8) (alive : world.Open sessionId) :
    ∃ count, Processed env sessionId stream world
      (env.framer.drain (receiveFrame env sessionId) (live sessionId) stream world) count := by
  -- The drained frames are a prefix of those of the whole stream.
  have begins : live sessionId world = true := decide_eq_true alive
  obtain ⟨sameState, sameBuffer⟩ :=
    env.framer.drain_agree (receiveFrame env sessionId) (live sessionId) stream begins
  obtain ⟨count, bounded, processed, before, after⟩ :=
    Framer.process_prefix (receiveFrame env sessionId) (live sessionId)
      (env.framer.frames stream).1 begins
  -- The loop stops at the first frame that ends the session, or when all are processed.
  refine ⟨count, bounded, sameState.trans processed, fun fewer below => ?_, fun still => ?_⟩
  · exact of_decide_eq_true (before fewer below)
  · rw [sameState] at still
    exact ⟨after (decide_eq_true still), sameBuffer (decide_eq_true still)⟩

namespace Processed

variable {env} {stream : List UInt8} {final other : List UInt8 × World} {count : Nat}

/-- An intake that agrees has processed the same. -/
theorem of_agree (processed : Processed env sessionId stream world final count)
    (agree : Framer.Agree (live sessionId) other final) :
    Processed env sessionId stream world other count where
  bounded := processed.bounded
  processed := agree.1.trans processed.processed
  before := processed.before
  everything still := by
    -- Agreement on the world is agreement on whether the session is open.
    rw [agree.1] at still
    obtain ⟨all, tail⟩ := processed.everything still
    exact ⟨all, (agree.2 (decide_eq_true still)).trans tail⟩

/-- The processed frames lead to their deliveries, and only the last of them can be refused. -/
theorem hears (processed : Processed env sessionId stream world final count)
    (calm : world.NeverReady) (observed : SessionId) :
    world.Hears observed (if sessionId = observed then
      ((env.framer.frames stream).1.take count).filterMap env.delivery else []) final.2 ∧
    (∀ frame ∈ ((env.framer.frames stream).1.take count).dropLast,
      (env.delivery frame).isSome) ∧
    (final.2.Open sessionId → ∀ frame ∈ (env.framer.frames stream).1,
      (env.delivery frame).isSome) := by
  have bounded := processed.bounded
  -- The processed frames are the first ones, and each but the last left the session open.
  have received := receiveFrames_hears env observed
    ((env.framer.frames stream).1.take count) calm fun fewer below => by
      rw [List.length_take] at below
      rw [List.take_take, Nat.min_eq_left (by omega)]
      exact decide_eq_true (processed.before fewer (by omega))
  obtain ⟨-, heard, parsed, all⟩ := received
  rw [← processed.processed] at heard all
  -- An open session has processed all frames of the stream.
  refine ⟨heard, parsed, fun still frame member => all (decide_eq_true still) frame ?_⟩
  rw [(processed.everything still).1, List.take_length]
  exact member

end Processed

/-- The loop of the read handler drains the buffer as the framing rule says. -/
theorem readLoop_drain (buffer : List UInt8) (totalBytes : Nat) (calm : world.NeverReady)
    (alive : world.Open sessionId) :
    match readLoop env sessionId buffer totalBytes world with
    | .ok (final, bytes) => ∃ used, bytes = totalBytes + used ∧
        env.framer.drain (receiveFrame env sessionId) (live sessionId) buffer world =
          (buffer.drop used, final)
    | .error thrown => thrown.NeverReady ∧
        (env.framer.drain (receiveFrame env sessionId) (live sessionId) buffer world).2 =
          close env (handOver env) sessionId thrown := by
  -- The loop and the rule take the same frames off the buffer, one after the other.
  induction buffer, totalBytes, world using readLoop.induct env sessionId with
  | case1 buffer totalBytes world none_ =>
    rw [readLoop_of_none none_]
    exact ⟨0, rfl, Framer.drain_of_none env.framer _ _ none_ world⟩
  | case2 buffer totalBytes world bytes found thrown failed =>
    -- The frame throws, and both stop with the session closed.
    have calm' := (parseFrame_chain env (buffer.take bytes) calm alive).neverReady calm
    rw [failed, outcome_error] at calm'
    have received : receiveFrame env sessionId (buffer.take bytes) world =
        close env (handOver env) sessionId thrown := by rw [receiveFrame, failed]
    -- The exception closes the session, so that nothing else is drained.
    have ended : ¬ live sessionId (close env (handOver env) sessionId thrown) = true := by
      simpa [live] using close_ends env calm'
    simp only [readLoop_of_some found, failed, Framer.drain_of_some env.framer _ _ found, received]
    rw [if_neg ended]
    exact ⟨calm', rfl⟩
  | case3 buffer totalBytes world bytes found next parsed alive' ih =>
    have calm' := (parseFrame_chain env (buffer.take bytes) calm alive).neverReady calm
    rw [parsed, outcome_ok] at calm'
    -- The frame was processed, and the session reads on.
    have received : receiveFrame env sessionId (buffer.take bytes) world = next := by
      rw [receiveFrame, parsed]
    have still : live sessionId next = true := decide_eq_true alive'
    have rest := ih calm' alive'
    simp only [readLoop_of_some found, parsed, alive', if_true,
      Framer.drain_of_some env.framer _ _ found, received, still]
    -- The bytes that the rest of the loop used add up.
    cases result : readLoop env sessionId (buffer.drop bytes) (totalBytes + bytes) next with
    | ok final =>
      rw [result] at rest
      obtain ⟨used, total, drained⟩ := rest
      refine ⟨bytes + used, by omega, ?_⟩
      rw [drained, List.drop_drop]
    | error thrown =>
      rw [result] at rest
      exact rest
  | case4 buffer totalBytes world bytes found next parsed ended =>
    -- The frame ended the session, so both stop behind it.
    have received : receiveFrame env sessionId (buffer.take bytes) world = next := by
      rw [receiveFrame, parsed]
    have stops : ¬ live sessionId next = true := by simpa [live] using ended
    simp only [readLoop_of_some found, parsed, ended, if_false,
      Framer.drain_of_some env.framer _ _ found, received]
    rw [if_neg stops]
    exact ⟨bytes, rfl, rfl⟩

end Frames

end Session

namespace Process

/-- What a session has received and not processed, and the world. -/
def intake (sessionId : SessionId) (process : Process) : List UInt8 × World :=
  (process.buffer sessionId, process.world)

section Read

variable (env : Environment) {sessionId : SessionId} {process : Process}

/-- A session that is not open ignores what it receives. -/
theorem read_of_ended (ended : ¬ process.world.Open sessionId) (bytes : List UInt8) :
    process.read env sessionId bytes = process :=
  if_neg ended

/-- Without an exception the loop's bytes are drained from the buffer. -/
theorem read_of_ok {bytes : List UInt8} {final : World} {totalBytes : Nat}
    (alive : process.world.Open sessionId)
    (looped : Session.readLoop env sessionId (process.buffer sessionId ++ bytes) 0 process.world =
      .ok (final, totalBytes)) :
    process.read env sessionId bytes =
      ⟨final, Function.update process.buffer sessionId
        ((process.buffer sessionId ++ bytes).drop totalBytes)⟩ := by
  simp only [read, if_pos alive, looped]

/-- An exception closes the session, and nothing is drained. -/
theorem read_of_error {bytes : List UInt8} {thrown : World}
    (alive : process.world.Open sessionId)
    (failed : Session.readLoop env sessionId (process.buffer sessionId ++ bytes) 0 process.world =
      .error thrown) :
    process.read env sessionId bytes =
      ⟨Session.close env (Session.handOver env) sessionId thrown,
        Function.update process.buffer sessionId (process.buffer sessionId ++ bytes)⟩ := by
  simp only [read, if_pos alive, failed]

/-- A read leaves the buffers of other sessions alone. -/
theorem read_buffer {other : SessionId} (different : other ≠ sessionId) (bytes : List UInt8) :
    (process.read env sessionId bytes).buffer other = process.buffer other := by
  by_cases alive : process.world.Open sessionId
  · -- Both outcomes update the buffer of the session that reads, and no other.
    cases looped : Session.readLoop env sessionId (process.buffer sessionId ++ bytes) 0
      process.world with
    | ok final =>
      rw [read_of_ok env alive looped]
      exact Function.update_of_ne different _ _
    | error thrown =>
      rw [read_of_error env alive looped]
      exact Function.update_of_ne different _ _
  · rw [read_of_ended env alive]

/-- A read is the arrival of a chunk. -/
theorem read_feed (bytes : List UInt8) (calm : process.world.NeverReady) :
    Framer.Agree (Session.live sessionId)
      (intake sessionId (process.read env sessionId bytes))
      (env.framer.feed (Session.receiveFrame env sessionId) (Session.live sessionId)
        (intake sessionId process) bytes) := by
  by_cases alive : process.world.Open sessionId
  · -- The handler appends the bytes to the buffer and starts its loop.
    have drained := Session.readLoop_drain env (process.buffer sessionId ++ bytes) 0 calm alive
    have live : Session.live sessionId process.world = true := decide_eq_true alive
    simp only [intake, Framer.feed, live, if_true]
    cases looped : Session.readLoop env sessionId (process.buffer sessionId ++ bytes) 0
      process.world with
    -- What the loop drained is what the rule took.
    | ok final =>
      rw [looped] at drained
      obtain ⟨used, total, drained⟩ := drained
      rw [read_of_ok env alive looped, drained, total]
      simp only [Function.update_self, Nat.zero_add]
      exact .refl _
    | error thrown =>
      rw [looped] at drained
      rw [read_of_error env alive looped]
      refine ⟨drained.2.symm, fun still => ?_⟩
      -- The buffer keeps more than it should, but the session has ended and will not look at it.
      rw [drained.2] at still
      exact absurd (of_decide_eq_true still) (Session.close_ends env drained.1)
  · -- A session that has ended takes no bytes in either of the two.
    have stopped : ¬ Session.live sessionId process.world = true := by
      simpa [Session.live] using alive
    rw [read_of_ended env alive, Framer.feed, intake, if_neg stopped]
    exact .refl _

/-- A read processes the first frames of what the session has. -/
theorem read_processed {sessionId : SessionId} (bytes : List UInt8)
    (calm : process.world.NeverReady) (alive : process.world.Open sessionId) :
    ∃ count, Session.Processed env sessionId (process.buffer sessionId ++ bytes) process.world
      (intake sessionId (process.read env sessionId bytes)) count := by
  obtain ⟨count, processed⟩ :=
    Session.drain_processed env (process.buffer sessionId ++ bytes) alive
  -- An open session feeds the bytes behind what its buffer holds.
  have live : Session.live sessionId process.world = true := decide_eq_true alive
  have fed : Framer.Agree _ (intake sessionId (process.read env sessionId bytes)) _ :=
    read_feed env bytes calm
  simp only [Framer.feed, intake, live, if_true] at fed
  exact ⟨count, processed.of_agree fed⟩

/-- Every event but a read has its effect on the world alone. -/
theorem step_world {event : Event} (other : ∀ sessionId bytes, event ≠ .read sessionId bytes) :
    (process.step env event).world = handle env event process.world := by
  -- Bytes are the one event that has its own path.
  cases event with
  | read sessionId bytes => exact absurd rfl (other sessionId bytes)
  | accept | disconnected | bridge | timer | gatewayConnected | gatewayDisconnected | logout => rfl

end Read

/-- A step concerns a session if the session reads, or is the one that is enrolled. -/
def Concerns (observed : SessionId) (world : World) : Event → Prop
  | .read sessionId _ => sessionId = observed
  | .accept => world.nextSessionId + 1 = observed ∧ world.session observed = none
  | _ => False

section Step

variable (env : Environment) (observed : SessionId)

/-- Nothing is delivered while a connection is accepted. -/
theorem accept_inbound {world : World} (calm : world.NeverReady) :
    (handle env .accept world).inbound observed = world.inbound observed ∧
    (SessionManager.enroll world).Unheard observed (handle env .accept world) := by
  have enrolled : ProcessStep env world (SessionManager.enroll world) := .enroll world
  -- The bridge is told about the session after it was enrolled, and delivers nothing then.
  have calm' := enrolled.neverReady calm
  have told : (SessionManager.enroll world).Unheard observed (handle env .accept world) :=
    BridgeChain.unheard (Controller.callbacks_chain env _ calm') calm' observed
  obtain ⟨first, second, log, -⟩ := SessionManager.enroll_log world
  refine ⟨?_, told⟩
  rw [told.inbound, List.append_nil]
  -- Neither of the two steps of an enrolment is a delivery.
  simp [World.inbound, log, Action.delivery]

/-- An accepted connection opens at most the session that is enrolled. -/
theorem accept_unheard {world : World} (calm : world.NeverReady)
    (known : world.nextSessionId + 1 = observed → world.session observed ≠ none) :
    world.Unheard observed (handle env .accept world) := by
  obtain ⟨inbound, told⟩ := accept_inbound env observed calm
  refine ⟨fun alive => ?_, by simpa using inbound⟩
  -- A session that is open after the bridge has had control was open before.
  obtain ⟨session, located, waiting⟩ := World.open_iff.mp (told.open_before alive)
  -- It is not the session that is enrolled, unless that one is stored already.
  rcases SessionManager.enroll_stored located with before | ⟨same, missing, -⟩
  · exact ⟨session, before, waiting⟩
  · exact absurd missing (known same.symm)

/-- Every event but a read and an accepted connection delivers nothing and opens no session. -/
theorem handle_unheard {event : Event} {world : World} (calm : world.NeverReady)
    (listed : world.Listed) (other : event ≠ .accept) :
    world.Unheard observed (handle env event world) := by
  cases event with
  | accept => exact absurd rfl other
  | read sessionId bytes => exact .refl observed world
  -- The session ends first, and then the bridge has control.
  | disconnected sessionId =>
    simp only [handle, SessionManager.getSession]
    cases located : world.session sessionId with
    | none => exact .refl observed world
    | some session =>
      have ends := Session.ends_of_stored (World.mem_sessionIds.mpr ⟨session, located⟩)
      have calm' := (Session.conclude_follows env calm ends).neverReady calm
      exact (Session.conclude_unheard env observed calm ends).unheard
        (BridgeChain.unheard (Session.handOver_chain env _ calm') calm' observed)
  | bridge calls =>
    exact BridgeChain.unheard (Controller.callbacks_chain env calls calm) calm observed
  | timer now =>
    simp only [handle, SessionManager.timer]
    -- A cleanup removes only sessions that have ended.
    split
    · have scheduled : ProcessStep env world _ :=
        .schedule world (now + SessionManager.cleanupFrequency)
      exact World.Unheard.of_extends
        ((scheduled.listed calm listed).removeZombies_open env observed).mp
        (SessionManager.removeZombies_extends env _) fun step removes => by
          obtain ⟨sessionId, action⟩ := removes
          simp [action, Action.delivery]
    · exact .refl observed world
  | gatewayConnected sourceId sourceName calls =>
    -- The bridge is told about the gateway.
    have noted := World.record_hears observed world (.gatewayConnected sourceId sourceName)
    have calm' : (world.record (.gatewayConnected sourceId sourceName)).NeverReady := calm
    exact noted.unheard (BridgeChain.unheard (Controller.callbacks_chain env calls calm') calm'
      observed)
  | gatewayDisconnected sourceId sourceName calls =>
    have noted := World.record_hears observed world (.gatewayDisconnected sourceId sourceName)
    have calm' : (world.record (.gatewayDisconnected sourceId sourceName)).NeverReady := calm
    exact noted.unheard (BridgeChain.unheard (Controller.callbacks_chain env calls calm') calm'
      observed)
  | logout sessionId error =>
    simp only [handle, SessionManager.getSession]
    cases located : world.session sessionId with
    | none => exact .refl observed world
    | some session =>
      -- A logout is sent without having been asked for, and the session is closed after it.
      have stored := World.mem_sessionIds.mpr ⟨session, located⟩
      have sent := Session.sendHelper_hears env observed .reply (.logout error.getText) stored
      have calm' := (Session.sendHelper_follows env .reply sessionId (.logout error.getText)
        world).neverReady calm
      simp only [Outbound.delivery, ite_self, Option.toList_none] at sent
      exact sent.unheard (Session.close_unheard env observed calm')

end Step

end Process

end FixBridge
