import FixBridge.Session.Turns
import Mathlib.Tactic.MkIffOfInductiveProp

/-! What is asked of the bridge and of the clients, so that nobody sends to a stranger. -/

namespace FixBridge

/-- A session is open, and its client named itself in the first message on the connection. -/
def Session.Acquainted (session : Session) : Prop :=
  session.state ≠ .zombie ∧
    ∃ first, session.connection.received.head? = some first ∧ first.senderCompId ≠ ""

/-- The session that is stored under an identifier, if there is one, is acquainted. -/
def World.Acquainted (sessionId : SessionId) (world : World) : Prop :=
  ∀ session, world.session sessionId = some session → session.Acquainted

/-- Whether sessions are acquainted does not depend on the log. -/
@[simp] theorem World.record_acquainted (world : World) (action : Action)
    (sessionId : SessionId) :
    (world.record action).Acquainted sessionId ↔ world.Acquainted sessionId :=
  Iff.rfl

/--
The bridge emits for acquainted sessions only.

A message is for the session to which it is addressed, and a report without a session id is for all
stored sessions.
-/
def Callback.Courteous (call : Callback) (world : World) : Prop :=
  match call with
  | .disconnect _ _ => True
  | .message sessionId _ => world.Acquainted sessionId
  | .executionReport _ => ∀ sessionId, world.Acquainted sessionId

/-- The bridge does not disconnect a session. -/
def Callback.Spares (sessionId : SessionId) (call : Callback) (_world : World) : Prop :=
  match call with
  | .disconnect other _ => other ≠ sessionId
  | .message _ _ | .executionReport _ => True

namespace Controller

mutual

/-- A call has a property, and so has every call that the bridge makes in the course of it. -/
def EachCall (env : Environment) (property : Callback → World → Prop) : Callback → World → Prop
  | .disconnect sessionId during, world =>
    -- The bridge gains control again if the connection of an open session re-enters it.
    property (.disconnect sessionId during) world ∧
      (world.Open sessionId → env.closeReenters world sessionId = true →
        EachCalls env property during (Session.conclude env true true sessionId world))
  | .message sessionId value, world => property (.message sessionId value) world
  | .executionReport value, world => property (.executionReport value) world

/-- All calls that the bridge makes have a property, each in the world in which it is made. -/
def EachCalls (env : Environment) (property : Callback → World → Prop) :
    List Callback → World → Prop
  | [], _ => True
  | first :: rest, world =>
    EachCall env property first world ∧ EachCalls env property rest (callback env first world)

end

end Controller

namespace Session

variable (env : Environment) (sessionId : SessionId)

/-- The bridge is courteous when a close makes the connection report Disconnected. -/
def ClosesCourteously (world : World) : Prop :=
  world.Open sessionId → env.closeReenters world sessionId = true →
    let ended := conclude env true true sessionId world
    Controller.EachCalls env Callback.Courteous (env.onDisconnected ended) ended

/-- The bridge is courteous when it is given a message, and the answer goes to an acquaintance. -/
@[mk_iff]
structure HandlesCourteously (message : Message) (world : World) : Prop where
  /-- The bridge makes courteous calls if it is given the message. -/
  told : message.delivery env = some (.message message) →
    let given := handed sessionId message world
    Controller.EachCalls env Callback.Courteous (env.onMessage given).callbacks given
  /-- The first header, be it the one of this message or an earlier one, names the client. -/
  named : Answers env sessionId message world → world.Acquainted sessionId
  /-- The bridge, which is given a request before it is answered, does not end the session. -/
  spared : Answers env sessionId message world → message.header.msgType = .userRequest →
    let given := handed sessionId message world
    Controller.EachCalls env (Callback.Spares sessionId) (env.onMessage given).callbacks given

/-- The message of a frame is handled courteously, and if it throws the session is closed so. -/
structure ReceivesCourteously (frame : List UInt8) (world : World) : Prop where
  handled : ∀ message, env.decode frame = some message →
    HandlesCourteously env sessionId message (check sessionId message.header world)
  closed : ∀ thrown, parseFrame env sessionId frame world = .error thrown →
    ClosesCourteously env sessionId thrown

end Session

/-- The bridge is courteous in an event, and a session that is logged out is acquainted. -/
def Event.Courteous (env : Environment) (event : Event) (world : World) : Prop :=
  match event with
  | .accept =>
    let enrolled := SessionManager.enroll world
    Controller.EachCalls env Callback.Courteous (env.onConnected enrolled) enrolled
  -- The frames of a read are judged one by one.
  | .read _ _ => True
  | .disconnected sessionId =>
    sessionId ∈ world.sessionIds →
      let ended := Session.conclude env false true sessionId world
      Controller.EachCalls env Callback.Courteous (env.onDisconnected ended) ended
  | .bridge callbacks => Controller.EachCalls env Callback.Courteous callbacks world
  -- A cleanup emits nothing.
  | .timer _ => True
  | .gatewayConnected sourceId sourceName callbacks =>
    Controller.EachCalls env Callback.Courteous callbacks
      (world.record (.gatewayConnected sourceId sourceName))
  | .gatewayDisconnected sourceId sourceName callbacks =>
    Controller.EachCalls env Callback.Courteous callbacks
      (world.record (.gatewayDisconnected sourceId sourceName))
  | .logout sessionId error =>
    world.Acquainted sessionId ∧
      Session.ClosesCourteously env sessionId
        (Session.sendHelper env .reply sessionId (.logout error.getText) world)

/-- All frames and all other events of a run are courteous. -/
structure Process.Courteous (env : Environment) (events : List Event) : Prop where
  frames : ∀ {sessionId frame world}, Receives env events sessionId frame world →
    Session.ReceivesCourteously env sessionId frame world
  events : ∀ {event world}, Happens env events event world → event.Courteous env world

namespace World.Ages

variable {sessionId : SessionId} {world later : World}

/-- A session that is acquainted was acquainted before, because ageing introduces nobody. -/
theorem acquainted_before (ages : world.Ages later) (acquainted : later.Acquainted sessionId) :
    world.Acquainted sessionId := by
  intro session located
  obtain ⟨aged, found, aging⟩ := ages.session located
  obtain ⟨alive, first, read, named⟩ := acquainted aged found
  refine ⟨?_, first, by rw [← aging.received]; exact read, named⟩
  -- The session cannot have been a zombie, because it would still be one.
  rcases aging.state with same | ended
  · rw [← same]; exact alive
  · exact absurd ended alive

/-- A session that is acquainted and stays open is acquainted afterwards. -/
theorem acquainted_after (ages : world.Ages later) (acquainted : world.Acquainted sessionId)
    (still : world.Open sessionId → later.Open sessionId) : later.Acquainted sessionId := by
  intro session located
  obtain ⟨before, found, aging⟩ := ages.session_of_later located
  obtain ⟨alive, first, read, named⟩ := acquainted before found
  refine ⟨?_, first, by rw [aging.received]; exact read, named⟩
  -- The session is the one that is open.
  obtain ⟨other, located', alive'⟩ := World.open_iff.mp (still ⟨before, found, alive⟩)
  rw [located] at located'
  cases located'
  exact alive'

/-- As long as it stays open, a session is as acquainted as it was. -/
theorem acquainted_iff (ages : world.Ages later)
    (same : later.Open sessionId ↔ world.Open sessionId) :
    later.Acquainted sessionId ↔ world.Acquainted sessionId :=
  ⟨ages.acquainted_before, fun acquainted => ages.acquainted_after acquainted same.mpr⟩

end World.Ages

/-- A session need not be looked for by a callback that does nothing without it. -/
theorem SessionManager.getSession_of_idle {sessionId : SessionId} {callback : World → World}
    {world : World} (idle : world.session sessionId = none → callback world = world) :
    getSession sessionId callback world = callback world := by
  -- For a session that is not stored the callback would not have changed anything.
  unfold getSession
  cases located : world.session sessionId with
  | none => exact (idle located).symm
  | some session => rfl

/-- A session that is not stored is not closed either. -/
theorem Session.close_of_missing {env : Environment} {during : World → World}
    {sessionId : SessionId} {world : World} (missing : world.session sessionId = none) :
    close env during sessionId world = world := by
  -- Only open sessions are closed, and they are stored.
  have ended : ¬ world.Open sessionId := by
    intro still
    obtain ⟨session, located, -⟩ := World.open_iff.mp still
    rw [missing] at located
    cases located
  rw [close_eq, if_neg ended]

namespace Controller

variable (env : Environment) {sessionId : SessionId}

mutual

/-- A call leaves an open session open exactly if it does not disconnect the session. -/
theorem callback_spares (call : Callback) {world : World} (calm : world.NeverReady)
    (alive : world.Open sessionId) :
    (callback env call world).Open sessionId ↔
      EachCall env (Callback.Spares sessionId) call world := by
  -- The calls made in the course of a close are shorter, hence the joint recursion.
  cases call with
  | message other value =>
    refine iff_of_true ?_ trivial
    have same : callback env (.message other value) world =
        Session.sendHelper env .addressed other value world :=
      SessionManager.getSession_of_idle Session.sendHelper_of_missing
    rw [same]
    exact (Session.sendHelper_frame ..).1.mpr alive
  | executionReport value =>
    exact iff_of_true ((executionReport_frame env value world sessionId).1.mpr alive) trivial
  | disconnect other during =>
    have same : callback env (.disconnect other during) world =
        Session.close env (fun world => callbacks env during world) other world :=
      SessionManager.getSession_of_idle Session.close_of_missing
    have chain : ∀ world, World.NeverReady world →
        BridgeChain env world (callbacks env during world) :=
      fun _ calm => callbacks_chain env during calm
    rw [same]
    by_cases here : other = sessionId
    · -- The session is closed, and it is a zombie after that.
      subst here
      obtain ⟨_, _, ended⟩ := Session.close_ended env chain calm alive
      exact iff_of_false ended.not_open fun both => both.1 rfl
    · by_cases open_ : world.Open other
      · have ends : Session.Ends true true other world := Or.inl open_
        have follows := Session.conclude_follows env calm ends
        have still := (Session.conclude_open env calm ends sessionId).mpr ⟨Ne.symm here, alive⟩
        rw [Session.close_eq, if_pos open_]
        by_cases reenters : env.closeReenters world other = true
        · -- While the other session is closed, the bridge has control.
          have inner := chain _ (follows.neverReady calm)
          have ended := (BridgeChain.follows inner (follows.neverReady calm)).zombie
            (Session.conclude_zombie env calm ends)
          rw [if_pos reenters, Session.makeZombie_of_zombie ended, World.record_open]
          have during_ := callbacks_spares during (follows.neverReady calm) still
          exact during_.trans ⟨fun each => ⟨here, fun _ _ => each⟩,
            fun both => both.2 open_ reenters⟩
        · rw [if_neg reenters]
          have ends' : Session.Ends true false other world := Or.inl open_
          exact iff_of_true ((Session.conclude_open env calm ends' sessionId).mpr
            ⟨Ne.symm here, alive⟩) ⟨here, fun _ yes => absurd yes reenters⟩
      · -- A session that has ended is left alone.
        rw [Session.close_eq, if_neg open_]
        exact iff_of_true alive ⟨here, fun yes => absurd yes open_⟩

/-- So do the calls that the bridge makes while it has control. -/
theorem callbacks_spares (calls : List Callback) {world : World} (calm : world.NeverReady)
    (alive : world.Open sessionId) :
    (callbacks env calls world).Open sessionId ↔
      EachCalls env (Callback.Spares sessionId) calls world := by
  cases calls with
  | nil => exact iff_of_true alive trivial
  | cons first rest =>
    have head := callback_chain env first calm
    have calm' := (BridgeChain.follows head calm).neverReady calm
    have spares := callback_spares first calm alive
    by_cases still : (callback env first world).Open sessionId
    · -- The session survives the first call, so the others decide.
      have others := callbacks_spares rest calm' still
      exact others.trans ⟨fun each => ⟨spares.mp still, each⟩, fun both => both.2⟩
    · -- A session that has ended does not open again.
      have ended : ¬ (callbacks env rest (callback env first world)).Open sessionId :=
        mt (BridgeChain.follows (callbacks_chain env rest calm') calm').open_before still
      exact iff_of_false ended fun both => still (spares.mpr both.1)

end

/-- After calls of the bridge a session is acquainted if it was, and if none of them ended it. -/
theorem callbacks_acquainted (calls : List Callback) {world : World} (calm : world.NeverReady)
    (alive : world.Open sessionId) :
    (callbacks env calls world).Acquainted sessionId ↔
      world.Acquainted sessionId ∧ EachCalls env (Callback.Spares sessionId) calls world := by
  have ages := (BridgeChain.follows (callbacks_chain env calls calm) calm).ages
  have spares := callbacks_spares env calls calm alive
  constructor
  · intro acquainted
    obtain ⟨session, located, -⟩ := World.open_iff.mp alive
    obtain ⟨aged, found, -⟩ := ages.session located
    -- The session is still stored, and being acquainted it is open.
    exact ⟨ages.acquainted_before acquainted,
      spares.mp ⟨aged, found, (acquainted aged found).1⟩⟩
  · intro both
    exact ages.acquainted_after both.1 fun _ => spares.mpr both.2

end Controller

end FixBridge
