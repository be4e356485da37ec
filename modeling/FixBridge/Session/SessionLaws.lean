import FixBridge.Session.Chains

/-! Properties that every session has in every run, because none of its assignments breaks them. -/

namespace FixBridge

/-- A property of a session that holds of new sessions and survives whatever is assigned to them. -/
structure SessionLaw (law : Session → Prop) : Prop where
  new : ∀ sessionId, law { sessionId }
  advance : ∀ {session : Session} {sent : Sent}, sent.header.msgSeqNum = session.outbound + 1 →
    law session → law (session.advance sent)
  receive : ∀ {session : Session} (header : Header), law session → law (session.receive header)
  expire : ∀ {session : Session}, law session → law session.expire
  close : ∀ {session : Session}, law session → law session.shut.expire

/-- A message is sent by a stored session to whom it talks, and the session obeys the law. -/
def Step.Lawful (law : Session → Prop) (step : Step) : Prop :=
  match step.action with
  | .send sessionId _ sent => ∃ session, step.before.session sessionId = some session ∧
    law session ∧ sent.header.targetCompId = session.compId
  | _ => True

/-- All stored sessions obey a law, and so did those that sent messages. -/
structure World.Lawful (law : Session → Prop) (world : World) : Prop where
  stored : ∀ sessionId session, world.session sessionId = some session → law session
  sent : ∀ step ∈ world.log, step.Lawful law

namespace World.Lawful

variable {law : Session → Prop} {world next : World}

/-- Steps other than sends are lawful. -/
theorem extend (lawful : world.Lawful law)
    (grown : History.Extends
      (fun step => ∀ sessionId cause sent, step.action ≠ .send sessionId cause sent)
      world.log next.log)
    (stored : ∀ sessionId session, next.session sessionId = some session → law session) :
    next.Lawful law := by
  refine ⟨stored, fun step member => ?_⟩
  -- A step of the longer log is an old one, or it is no send.
  rcases grown.mem member with old | silent
  · exact lawful.sent step old
  · unfold Step.Lawful
    split
    next sessionId cause sent action => exact absurd action (silent sessionId cause sent)
    next => trivial

/-- An assignment to one session is lawful if it keeps the law there. -/
theorem modifySession_stored (lawful : world.Lawful law) {sessionId : SessionId}
    {change : Session → Session}
    (kept : ∀ session, world.session sessionId = some session → law session →
      law (change session)) :
    ∀ other session, (world.modifySession sessionId change).session other = some session →
      law session := by
  intro other session located
  -- Only the session that is assigned to has to be looked at.
  rw [World.modifySession_session] at located
  split at located
  · obtain ⟨before, found, rfl⟩ := Option.map_eq_some_iff.mp located
    exact kept before found (lawful.stored sessionId before found)
  · exact lawful.stored other session located

/-- Sending is lawful. -/
theorem sendHelper (lawful : world.Lawful law) (laws : SessionLaw law) (env : Environment)
    (cause : Cause) (sessionId : SessionId) (value : Outbound) :
    (Session.sendHelper env cause sessionId value world).Lawful law := by
  cases located : world.session sessionId with
  | none =>
    rw [Session.sendHelper_of_missing located]
    exact lawful
  | some session =>
    -- The message was built from a session that obeys the law.
    obtain ⟨sent, -, -, number, target, same⟩ := Session.sendHelper_of_stored env
      cause value located
    have holds := lawful.stored sessionId session located
    have noted : (world.record (.send sessionId cause sent)).Lawful law := by
      -- The send itself is lawful, because its sender was.
      refine ⟨lawful.stored, fun step member => ?_⟩
      rcases List.mem_append.mp member with old | new
      · exact lawful.sent step old
      · rw [List.mem_singleton.mp new]
        exact ⟨session, located, holds, target⟩
    rw [same]
    refine ⟨noted.modifySession_stored fun before found holds => laws.advance ?_ holds,
      noted.sent⟩
    -- The session that advances is the one that sent, with the number that it used.
    rw [World.record_session, located] at found
    cases found
    exact number

/-- An ending is lawful. -/
theorem conclude (lawful : world.Lawful law) (laws : SessionLaw law) (env : Environment)
    {closes peer : Bool} {sessionId : SessionId} (calm : world.NeverReady)
    (ends : Session.Ends closes peer sessionId world) :
    (Session.conclude env closes peer sessionId world).Lawful law := by
  -- An ending sends nothing and ends one session.
  refine lawful.extend ((Session.conclude_extends env calm ends).mono ?_) ?_
  · intro step kind
    rcases kind with action | action | action | action | action <;> simp [action]
  · intro other session located
    rw [Session.conclude_session env calm ends] at located
    split at located
    · -- That session expires, after its connection was closed or not.
      obtain ⟨before, found, rfl⟩ := Option.map_eq_some_iff.mp located
      have holds := lawful.stored sessionId before found
      cases closes
      · exact laws.expire holds
      · exact laws.close holds
    · exact lawful.stored other session located

/-- Every step of the process is lawful. -/
theorem kept (lawful : world.Lawful law) (laws : SessionLaw law) {env : Environment}
    (step : ProcessStep env world next) (calm : world.NeverReady) : next.Lawful law := by
  cases step with
  | bridge step =>
    cases step with
    | send sessionId value stored => exact lawful.sendHelper laws env .addressed sessionId value
    | executionReport value =>
      exact Controller.executionReport_preserves (Lawful law)
        (lawful.extend (.single (by simp)) lawful.stored)
        fun _ lawful => lawful.sendHelper laws env .unaddressed _ _
    | close peer sessionId alive => exact lawful.conclude laws env calm (Or.inl alive)
    | again => exact lawful.extend (.single (by simp)) lawful.stored
  | reply sessionId value stored => exact lawful.sendHelper laws env .reply sessionId value
  | enroll =>
    -- A new session obeys the law, and a stored one is not replaced.
    obtain ⟨first, second, log, -⟩ := SessionManager.enroll_log world
    refine lawful.extend ⟨_, log, by simp⟩ fun sessionId session located => ?_
    rcases SessionManager.enroll_stored located with before | ⟨-, -, rfl⟩
    · exact lawful.stored sessionId session before
    · exact laws.new sessionId
  | disconnected sessionId stored =>
    exact lawful.conclude laws env calm (Session.ends_of_stored stored)
  | check sessionId header alive =>
    -- Looking at a header reads it.
    have noted : (world.record (.check sessionId header)).Lawful law :=
      lawful.extend (.single (by simp)) lawful.stored
    exact ⟨noted.modifySession_stored
      fun _ _ holds => laws.receive header holds, noted.sent⟩
  | message | addRoute | removeRoute | gatewayConnected | gatewayDisconnected =>
    exact lawful.extend (.single (by simp)) lawful.stored
  | schedule => exact lawful.extend (.refl _ _) lawful.stored
  | removeZombies =>
    -- The sessions that are left obeyed the law before.
    refine lawful.extend ((SessionManager.removeZombies_extends env world).mono ?_) ?_
    · intro step removes
      obtain ⟨sessionId, action⟩ := removes
      simp [action]
    · intro sessionId session located
      rw [SessionManager.removeZombies_session] at located
      split at located
      · cases located
      · exact lawful.stored sessionId session located

end World.Lawful

/-- A law of sessions holds in every world that the steps of the process lead to. -/
theorem SessionLaw.of_chain {law : Session → Prop} (laws : SessionLaw law) {env : Environment}
    {world : World} (chain : ProcessChain env {} world) : world.Lawful law :=
  ProcessChain.invariant env (fun world => world.Lawful law)
    ⟨fun _ _ located => (by cases located), fun _ member => (by cases member)⟩
    (fun step calm _ lawful => lawful.kept laws step calm) chain

/-- A law of sessions holds in every run. -/
theorem SessionLaw.of_run {law : Session → Prop} (laws : SessionLaw law) (env : Environment)
    (events : List Event) : (Process.run env events).world.Lawful law :=
  laws.of_chain (Process.run_chain env events)

end FixBridge
