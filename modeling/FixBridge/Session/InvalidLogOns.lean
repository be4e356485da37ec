import FixBridge.Session.UserRequests

/-! Log-ons that cannot be for a strategy, which take the route of one all the same. -/

namespace FixBridge

/-- A request that does not say what it asks for is taken for a log-on. -/
def UserRequestType.LogsOn : UserRequestType → Prop
  | .undefined | .unknown | .logOnUser => True
  | _ => False

namespace Session

/-- A frame holds a request to log a user on. -/
structure LogOn (env : Environment) (frame : List UInt8) (message : Message)
    (request : UserRequest) : Prop where
  decoded : env.decode frame = some message
  kind : message.header.msgType = .userRequest
  created : env.createUserRequest message = some request
  logsOn : request.userRequestType.LogsOn

/-- A log-on where routing is not by strategy, or for strategy zero. -/
structure InvalidLogOn (env : Environment) (frame : List UInt8) (message : Message)
    (request : UserRequest) : Prop extends LogOn env frame message request where
  invalid : env.settings.omsRouteByStrategy = false ∨ env.fromChars request.username = some 0

/-- A frame changes neither routing table, and nobody is told to have been logged on. -/
def Refuses (env : Environment) (sessionId : SessionId) (frame : List UInt8) (world : World) :
    Prop :=
  (receiveFrame env sessionId frame world).routes = world.routes ∧
    ∀ other value, .response other value ∈
      world.answersSince (receiveFrame env sessionId frame world) → value.userStatus ≠ .loggedIn

/-- The bridge does not throw when it is given the request, and the username is a number. -/
def Passes (env : Environment) (sessionId : SessionId) (message : Message) (request : UserRequest)
    (strategyId : StrategyId) (world : World) : Prop :=
  (env.onMessage (handed sessionId message (check sessionId message.header world))).throws = false ∧
    env.fromChars request.username = some strategyId

section LogOn

variable {env : Environment} {sessionId : SessionId} {frame : List UInt8} {message : Message}
  {request : UserRequest} {strategyId : StrategyId} {world : World}

/-- A log-on is settled by adding a route, and the answer says whether it was added. -/
theorem LogOn.settle (logOn : LogOn env frame message request) (next : World) :
    settle env sessionId request strategyId next =
      respond env sessionId request
        (if (addRoute sessionId strategyId next).2 then .loggedIn else .other) ""
        (addRoute sessionId strategyId next).1 := by
  -- Every type but the last three adds a route, unknown types included.
  have logsOn := logOn.logsOn
  unfold Session.settle
  cases kind : request.userRequestType with
  | undefined | unknown | logOnUser => rfl
  | logOffUser | changePasswordForUser | requestIndividualUserStatus =>
    rw [kind] at logsOn
    exact logsOn.elim

/-- A log-on that passes adds its route, and the answer says whether it was added. -/
theorem LogOn.added (logOn : LogOn env frame message request) (calm : world.NeverReady)
    (alive : world.Open sessionId)
    (passes : Passes env sessionId message request strategyId world) :
    ∃ next, next.routes = world.routes ∧
      (receiveFrame env sessionId frame world).routes =
        (addRoute sessionId strategyId next).1.routes ∧
      world.answersSince (receiveFrame env sessionId frame world) =
        [.response sessionId ⟨request.userRequestId, request.username,
          if (addRoute sessionId strategyId next).2 then .loggedIn else .other, ""⟩] := by
  -- Nothing has changed the routes when the route of the request is added.
  obtain ⟨next, before, reacts⟩ := receiveFrame_settles env calm alive logOn.decoded logOn.kind
    logOn.created passes.2 passes.1
  obtain ⟨routes, sent, value, replies⟩ :=
    reacts (addRoute_settles sessionId strategyId next) (logOn.settle next)
  refine ⟨next, before, routes, ?_⟩
  -- The only answer since is the response to the request.
  rw [replies.answersSince, Action.answer, value]
  rfl

/-- A log-on that does not pass is refused. -/
theorem LogOn.refuses (logOn : LogOn env frame message request) (calm : world.NeverReady)
    (alive : world.Open sessionId)
    (stopped : ∀ strategyId, ¬ Passes env sessionId message request strategyId world) :
    Refuses env sessionId frame world := by
  cases receiveFrame_reacts env frame calm alive with
  | tacitly unanswered routes tacit =>
    refine ⟨routes, fun other value told => ?_⟩
    rw [World.answersSince_of_extends Action.Tacit.answer tacit] at told
    cases told
  | byReject decoded unsupported routes value replies =>
    -- Requests are supported.
    cases logOn.decoded.symm.trans decoded
    rw [logOn.kind] at unsupported
    cases unsupported
  | byResponse decoded answers kind created named settles before routes value replies =>
    cases logOn.decoded.symm.trans decoded
    cases logOn.created.symm.trans created
    rcases answers with unsupported | ⟨-, kept, -⟩
    · rw [kind] at unsupported
      cases unsupported
    · exact absurd ⟨kept, named⟩ (stopped _)

/-- A log-on is refused exactly if it does not pass or its strategy has an owner. -/
theorem LogOn.refused_iff (logOn : LogOn env frame message request) (calm : world.NeverReady)
    (alive : world.Open sessionId) :
    Refuses env sessionId frame world ↔
      ∀ strategyId, Passes env sessionId message request strategyId world →
        world.routes.owner strategyId ≠ none := by
  constructor
  · intro refuses strategyId passes free
    obtain ⟨next, before, routes, -⟩ := logOn.added calm alive passes
    rw [← before] at free
    -- The strategy goes to the session, so that the routes have changed.
    have same : (addRoute sessionId strategyId next).1.routes = next.routes :=
      routes.symm.trans (refuses.1.trans before.symm)
    have owned := congrFun (@addRoute_owner sessionId strategyId next free) strategyId
    rw [same, free, Function.update_self] at owned
    cases owned
  · intro owned
    by_cases stopped : ∀ strategyId, ¬ Passes env sessionId message request strategyId world
    · exact logOn.refuses calm alive stopped
    · obtain ⟨strategyId, passes⟩ := not_forall_not.mp stopped
      obtain ⟨next, before, routes, told⟩ := logOn.added calm alive passes
      obtain ⟨other, taken⟩ := Option.ne_none_iff_exists'.mp (owned strategyId passes)
      rw [← before] at taken
      -- The route is not added, and the answer says so.
      have refused := @Routes.addRoute_of_owned _ sessionId _ _ taken
      refine ⟨?_, fun answered value member => ?_⟩
      · rw [routes, ← before]
        exact congrArg Prod.fst refused
      · rw [told] at member
        have failure : (addRoute sessionId strategyId next).2 = false :=
          congrArg Prod.snd refused
        cases List.mem_singleton.mp member
        rw [failure]
        simp

/-- Adding a route gives away no other strategy. -/
theorem addRoute_owner_of_ne {other : StrategyId} (different : other ≠ strategyId) :
    (addRoute sessionId strategyId world).1.routes.owner other = world.routes.owner other := by
  -- The route that is added is another one, or nothing is added at all.
  cases taken : world.routes.owner strategyId with
  | none => rw [addRoute_owner taken, Function.update_of_ne different]
  | some owner =>
    have refused := @Routes.addRoute_of_owned _ sessionId _ _ taken
    exact congrArg (fun result => Routes.owner result.1 other) refused

/-- Removing a route gives no strategy away. -/
theorem removeRoute_owner_of_free {other : StrategyId} (free : world.routes.owner other = none) :
    (removeRoute sessionId strategyId world).1.routes.owner other = none := by
  -- A removal by the owner frees one more route, and any other one is refused.
  by_cases owned : world.routes.owner strategyId = some sessionId
  · rw [removeRoute_owner owned, Function.update_apply]
    split
    · rfl
    · exact free
  · have refused := Routes.removeRoute_of_other owned
    exact (congrArg (fun result => Routes.owner result.1 other) refused).trans free

/-- A strategy that was free before a frame is given away by a log-on that passes. -/
theorem receiveFrame_granted (calm : world.NeverReady) (alive : world.Open sessionId)
    (free : world.routes.owner strategyId = none)
    (taken : (receiveFrame env sessionId frame world).routes.owner strategyId ≠ none) :
    ∃ message request, LogOn env frame message request ∧
      Passes env sessionId message request strategyId world := by
  cases receiveFrame_reacts env frame calm alive with
  | tacitly unanswered routes tacit => exact absurd (routes ▸ free) taken
  | byReject decoded unsupported routes value replies => exact absurd (routes ▸ free) taken
  | @byResponse message request settled _ _ _ _ _ decoded answers kind created named _ _ _ _ _ =>
    rcases answers with unsupported | ⟨-, kept, -⟩
    · rw [kind] at unsupported
      cases unsupported
    obtain ⟨next, before, reacts⟩ :=
      receiveFrame_settles env calm alive decoded kind created named kept
    rw [← before] at free
    by_cases logsOn : request.userRequestType.LogsOn
    · have logOn : LogOn env frame message request := ⟨decoded, kind, created, logsOn⟩
      obtain ⟨routes, -⟩ := reacts (addRoute_settles sessionId settled next) (logOn.settle next)
      refine ⟨message, request, logOn, kept, ?_⟩
      -- The log-on would have left another strategy alone.
      by_cases same : strategyId = settled
      · rw [same]
        exact named
      · rw [routes, addRoute_owner_of_ne same] at taken
        exact absurd free taken
    · exfalso
      -- The other requests give nothing away.
      cases type : request.userRequestType with
      | undefined | unknown | logOnUser => exact logsOn (by rw [type]; trivial)
      | logOffUser =>
        obtain ⟨routes, -⟩ := reacts (removeRoute_settles sessionId settled next)
          (by rw [settle, type])
        rw [routes] at taken
        exact taken (removeRoute_owner_of_free free)
      | changePasswordForUser | requestIndividualUserStatus =>
        obtain ⟨routes, -⟩ := reacts (.declined rfl rfl (.refl _ _)) (by rw [settle, type])
        rw [routes] at taken
        exact taken free

end LogOn

end Session

/--
In every reachable state, an invalid log-on is refused exactly if the bridge throws, its username
is no number, or its strategy has an owner already.
-/
theorem Traffic.refuses_iff {env : Environment} {world : World} {answers : List Answer}
    (traffic : Traffic env world answers) {sessionId : SessionId} {frame : List UInt8}
    {message : Message} {request : UserRequest} (alive : world.Open sessionId)
    (invalid : Session.InvalidLogOn env frame message request) :
    Session.Refuses env sessionId frame world ↔
      ∀ strategyId, Session.Passes env sessionId message request strategyId world →
        world.routes.owner strategyId ≠ none :=
  invalid.refused_iff traffic.told.calm alive

/-- The message that holds the log-on for strategy 7. -/
def logOnMessage : Message where
  header :=
    { version := .fix44
      msgType := .userRequest
      senderCompId := "CLIENT"
      targetCompId := "BRIDGE"
      msgSeqNum := 1
      sendingTime := 0 }
  fields := [(8, "FIX.4.4"), (9, "0000074"), (35, "BE"), (49, "CLIENT"), (56, "BRIDGE"), (34, "1"),
    (52, "19700101-00:00:00.000"), (923, "1"), (924, "1"), (553, "7"), (10, "154")]

/-- The request to log on for strategy 7. -/
def logOnRequest : UserRequest where
  userRequestId := "1"
  userRequestType := .logOnUser
  username := "7"

/-- Where routing is by account, the log-on for strategy 7 is invalid. -/
theorem logOn_invalid :
    Session.InvalidLogOn .byAccount logOn logOnMessage logOnRequest where
  decoded := by decide +kernel
  kind := rfl
  created := by decide
  logsOn := trivial
  -- Routing is by account here, where nobody may log on to a strategy.
  invalid := Or.inl rfl

/-- It is refused exactly if the strategy has an owner, which it has not. -/
theorem Traffic.refuses_iff_logOn :
    let world := (Process.run .byAccount [.accept]).world
    (Session.Refuses .byAccount 1 logOn world ↔
      ∀ strategyId, Session.Passes .byAccount 1 logOnMessage logOnRequest strategyId world →
        world.routes.owner strategyId ≠ none) ∧
      Session.Passes .byAccount 1 logOnMessage logOnRequest 7 world ∧
      world.routes.owner 7 = none :=
  ⟨Traffic.refuses_iff (Process.run_traffic .byAccount [.accept]) (by decide +kernel) logOn_invalid,
    ⟨rfl, by decide +kernel⟩, rfl⟩

/-- Where routing is by account, a client that has connected logs on for strategy 7 all the same. -/
theorem Traffic.not_refuses : ¬ ∀ {env : Environment} {world : World} {answers : List Answer},
    Traffic env world answers → ∀ {sessionId frame message request}, world.Open sessionId →
      Session.InvalidLogOn env frame message request →
        Session.Refuses env sessionId frame world := by
  -- A session that has done nothing else logs on to strategy 7.
  intro refuses
  have refused : Session.Refuses .byAccount 1 logOn (Process.run .byAccount [.accept]).world :=
    refuses (Process.run_traffic .byAccount [.accept]) (by decide +kernel) logOn_invalid
  -- The route is taken all the same.
  have taken : (Session.receiveFrame .byAccount 1 logOn
      (Process.run .byAccount [.accept]).world).routes.owner 7 = some 1 := by
    decide +kernel
  rw [refused.1] at taken
  cases taken

namespace Process

/-- While invalid log-ons are refused, nobody owns a strategy that they are about. -/
theorem Receives.unowned {env : Environment} {events : List Event}
    (refused : ∀ {sessionId frame world message request},
      Receives env events sessionId frame world → Session.InvalidLogOn env frame message request →
        Session.Refuses env sessionId frame world)
    {sessionId : SessionId} {frame : List UInt8} {world : World}
    (receives : Receives env events sessionId frame world) {strategyId : StrategyId}
    (unfit : env.settings.omsRouteByStrategy = false ∨ strategyId = 0) :
    world.routes.owner strategyId = none := by
  refine receives.turns env (fun world => world.routes.owner strategyId = none) rfl ?_ ?_
  · intro sessionId frame world receives free
    by_contra taken
    obtain ⟨message, request, logOn, passes⟩ :=
      Session.receiveFrame_granted receives.neverReady receives.alive free taken
    -- The log-on that has taken the strategy is invalid.
    have invalid : Session.InvalidLogOn env frame message request :=
      ⟨logOn, unfit.imp_right fun zero => by rw [← zero]; exact passes.2⟩
    rw [(refused receives invalid).1] at taken
    exact taken free
  · intro event world happens free
    rw [(handle_unprompted env event happens.neverReady).1]
    exact free

/-- In a run, all invalid log-ons are refused exactly if none of them passes. -/
theorem run_refuses_iff (env : Environment) (events : List Event) :
    (∀ {sessionId frame world message request}, Receives env events sessionId frame world →
      Session.InvalidLogOn env frame message request →
        Session.Refuses env sessionId frame world) ↔
    (∀ {sessionId frame world message request}, Receives env events sessionId frame world →
      Session.InvalidLogOn env frame message request →
        ∀ strategyId, ¬ Session.Passes env sessionId message request strategyId world) := by
  constructor
  · intro refused sessionId frame world message request receives invalid strategyId passes
    have owned := (invalid.refused_iff receives.neverReady receives.alive).mp
      (refused receives invalid) strategyId passes
    -- Nobody can own the strategy, because earlier log-ons were refused as well.
    refine owned (receives.unowned refused (invalid.invalid.imp_right fun zero => ?_))
    exact Option.some.inj (passes.2.symm.trans zero)
  · intro stopped sessionId frame world message request receives invalid
    exact invalid.refuses receives.neverReady receives.alive (stopped receives invalid)

end Process

end FixBridge
