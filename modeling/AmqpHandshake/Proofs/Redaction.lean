import AmqpHandshake.Proofs.Calls

/-! Attempts with their secrets taken out: the shared access signature that a claim presents, and
the password for a proxy. Whatever is left is all that the handlers go by. -/
namespace AmqpHandshake

def Credentials.redacted : Credentials → Credentials
  | .sharedAccessSignature userName _ => .sharedAccessSignature userName ""
  | .tokenProvider provider flavour => .tokenProvider provider flavour

/-- A password that is taken out was there; none stays none. -/
def ProxyOptions.redacted (proxy : ProxyOptions) : ProxyOptions :=
  { proxy with password := proxy.password.map fun _ => "" }

def ConnectionConfig.redacted (config : ConnectionConfig) : ConnectionConfig :=
  { config with
    proxy := config.proxy.map ProxyOptions.redacted
    credentials := config.credentials.redacted }

def ProxyLayer.redacted (layer : ProxyLayer) : ProxyLayer :=
  { layer with credentials := layer.credentials.map fun (user, _) => (user, "") }

def TransportLayer.redacted : TransportLayer → TransportLayer
  | .webSocket layer => .webSocket layer
  | .proxy layer => .proxy layer.redacted

def LayerPlan.redacted (plan : LayerPlan) : LayerPlan :=
  { plan with proxy := plan.proxy.map ProxyLayer.redacted }

/-- A claim shows its token in two places: as it is, and by when it expires. -/
def Claim.redacted (claim : Claim) : Claim := { claim with token := "", expiresAt := none }

def Call.redacted : Call → Call
  | .addTransportLayer layer => .addTransportLayer layer.redacted
  | .sendClaim link claim refusal => .sendClaim link claim.redacted refusal
  | call => call

def Trace.redacted (trace : Trace) : Trace :=
  { trace with calls := trace.calls.map Call.redacted }

def CbsSession.redacted (cbs : CbsSession) : CbsSession :=
  { cbs with credentials := cbs.credentials.redacted }

def Controller.redacted (controller : Controller) : Controller :=
  { controller with
    config := controller.config.redacted
    cbs := controller.cbs.map CbsSession.redacted }

def Attempt.redacted (attempt : Attempt) : Attempt :=
  ⟨attempt.controller.redacted, attempt.trace.redacted⟩

/-- An engine whose answers do not depend on secrets, neither on those of a claim it is to send nor
on those of the calls before. -/
structure Engine.Blind (engine : Engine) : Prop where
  sessionId : ∀ earlier, engine.sessionId (earlier.map Call.redacted) = engine.sessionId earlier
  linkId : ∀ earlier session spec,
    engine.linkId (earlier.map Call.redacted) session spec = engine.linkId earlier session spec
  refusal : ∀ earlier link claim,
    engine.refusal (earlier.map Call.redacted) link claim.redacted =
      engine.refusal earlier link claim

/-- A script counts calls, and looks at no claim. -/
theorem Script.blind_engine (script : Script) : script.engine.Blind := by
  have counts (asks : Call → Bool) (same : ∀ call, asks (Call.redacted call) = asks call)
      (earlier : List Call) : (earlier.map Call.redacted).countP asks = earlier.countP asks := by
    rw [List.countP_map]
    exact List.countP_congr fun call _ => by simp [same]
  have ids (earlier : List Call) : script.idAfter (earlier.map Call.redacted) =
      script.idAfter earlier := by
    unfold idAfter
    rw [counts handsOutId fun call => by cases call <;> rfl]
  constructor
  · intro earlier
    exact congrArg SessionId.mk (ids earlier)
  · intro earlier session spec
    exact congrArg LinkId.mk (ids earlier)
  · intro earlier link claim
    simp only [engine]
    rw [counts presentsClaim fun call => by cases call <;> rfl]

/-! ### Redacting twice -/

theorem Credentials.redacted_redacted (credentials : Credentials) :
    credentials.redacted.redacted = credentials.redacted := by
  cases credentials <;> rfl

theorem ProxyLayer.redacted_redacted (layer : ProxyLayer) :
    layer.redacted.redacted = layer.redacted := by
  obtain ⟨destination, credentials⟩ := layer
  cases credentials <;> rfl

theorem Call.redacted_redacted (call : Call) : call.redacted.redacted = call.redacted := by
  cases call with
  | addTransportLayer layer =>
    cases layer with
    | webSocket layer => rfl
    | proxy layer =>
      exact congrArg (Call.addTransportLayer ∘ .proxy) layer.redacted_redacted
  | _ => rfl

theorem ProxyOptions.redacted_redacted (proxy : ProxyOptions) :
    proxy.redacted.redacted = proxy.redacted := by
  obtain ⟨host, port, username, password⟩ := proxy
  cases password <;> rfl

theorem ConnectionConfig.redacted_redacted (config : ConnectionConfig) :
    config.redacted.redacted = config.redacted := by
  obtain ⟨hostName, protocol, proxy, tls, credentials, serviceLink⟩ := config
  cases proxy <;> simp [redacted, ProxyOptions.redacted_redacted, Credentials.redacted_redacted]

theorem Trace.redacted_redacted (trace : Trace) : trace.redacted.redacted = trace.redacted := by
  simp [redacted, Call.redacted_redacted]

theorem CbsSession.redacted_redacted (cbs : CbsSession) :
    cbs.redacted.redacted = cbs.redacted := by
  simp [redacted, Credentials.redacted_redacted]

theorem Controller.redacted_redacted (controller : Controller) :
    controller.redacted.redacted = controller.redacted := by
  simp [redacted, ConnectionConfig.redacted_redacted, Function.comp_def,
    CbsSession.redacted_redacted]

theorem Attempt.redacted_redacted (attempt : Attempt) :
    attempt.redacted.redacted = attempt.redacted := by
  simp [redacted, Controller.redacted_redacted, Trace.redacted_redacted]

/-! ### What a configuration shows -/

theorem Credentials.inspect_redacted (credentials : Credentials) :
    credentials.redacted.inspect = credentials.inspect := by
  cases credentials <;> rfl

namespace ConnectionConfig

theorem endpoint_redacted (config : ConnectionConfig) :
    config.redacted.endpoint = config.endpoint := by
  obtain ⟨hostName, protocol, proxy, tls, credentials, serviceLink⟩ := config
  cases protocol <;> cases proxy <;> rfl

theorem ofHost_redacted (host : String) (proxy : ProxyOptions) :
    ProxyLayer.ofHost host proxy.redacted =
      (ProxyLayer.ofHost host proxy).map ProxyLayer.redacted := by
  have shown : ProxyLayer.credentialsFor proxy.redacted =
      (ProxyLayer.credentialsFor proxy).map fun (user, _) => (user, "") := by
    obtain ⟨host, port, username, password⟩ := proxy
    cases username <;> cases password <;> rfl
  simp only [ProxyLayer.ofHost, shown]
  split <;> rfl

/-- The layers of a redacted configuration are the redacted layers. -/
theorem layers_redacted (config : ConnectionConfig) :
    config.redacted.layers = config.layers.map LayerPlan.redacted := by
  obtain ⟨hostName, protocol, proxy, tls, credentials, serviceLink⟩ := config
  have tunnels : (proxy.map ProxyOptions.redacted).mapM (ProxyLayer.ofHost hostName) =
      (proxy.mapM (ProxyLayer.ofHost hostName)).map (Option.map ProxyLayer.redacted) := by
    cases proxy with
    | none => rfl
    | some options =>
      have layered := ofHost_redacted hostName options
      simp only [Option.map_some, Option.mapM_some, layered]
      cases ProxyLayer.ofHost hostName options <;> rfl
  simp only [layers, redacted, tunnels]
  generalize proxy.mapM (ProxyLayer.ofHost hostName) = tunnelled
  split
  · generalize WebSocketLayer.ofHost hostName = framed
    cases framed <;> cases tunnelled <;> rfl
  · cases tunnelled <;> rfl

theorem inspect_redacted (config : ConnectionConfig) :
    config.redacted.inspect = config.inspect := by
  obtain ⟨hostName, protocol, proxy, tls, credentials, serviceLink⟩ := config
  have shown := credentials.inspect_redacted
  have tunnel (options : ProxyOptions) : options.redacted.inspect = options.inspect := by
    obtain ⟨host, port, username, password⟩ := options
    cases password <;> rfl
  cases proxy with
  | none => simp [inspect, redacted, shown]
  | some options => simp [inspect, redacted, shown, Text.optional, tunnel]

end ConnectionConfig

namespace Trace

theorem redacted_record (trace : Trace) (call : Call) :
    (trace.record call).redacted = trace.redacted.record call.redacted := by
  simp [record, redacted]

theorem redacted_recordAll (trace : Trace) (made : List Call) :
    (trace.recordAll made).redacted = trace.redacted.recordAll (made.map Call.redacted) := by
  simp [recordAll, redacted]

variable {engine : Engine}

theorem openSession_redacted (blind : engine.Blind) (trace : Trace) :
    trace.redacted.openSession engine =
      (trace.openSession engine).map id Trace.redacted := by
  simp only [openSession, Prod.map, redacted_record]
  rw [show trace.redacted.calls = trace.calls.map Call.redacted from rfl, blind.sessionId]
  rfl

theorem openLink_redacted (blind : engine.Blind) (trace : Trace) (session : SessionId)
    (spec : LinkSpec) :
    trace.redacted.openLink engine session spec =
      (trace.openLink engine session spec).map id Trace.redacted := by
  simp only [openLink, Prod.map, redacted_record]
  rw [show trace.redacted.calls = trace.calls.map Call.redacted from rfl, blind.linkId]
  rfl

/-- Claims that show the same are sent alike. -/
theorem sendClaim_redacted (blind : engine.Blind) (trace : Trace) (link : LinkId)
    {first second : Claim} (alike : first.redacted = second.redacted) :
    (trace.redacted.sendClaim engine link first).map id Trace.redacted =
      (trace.sendClaim engine link second).map id Trace.redacted := by
  have answer : engine.refusal trace.redacted.calls link first =
      engine.refusal trace.calls link second := by
    rw [← blind.refusal trace.calls, ← alike, ← blind.refusal trace.redacted.calls]
    exact congrArg (engine.refusal · link first.redacted)
      (congrArg Trace.calls trace.redacted_redacted)
  simp only [sendClaim, Prod.map, redacted_record, answer, redacted_redacted, Call.redacted, alike]

end Trace

namespace CbsSession

theorem start_redacted {engine : Engine} (blind : engine.Blind) (session : SessionId)
    (credentials : Credentials) (audience : String) (trace : Trace) :
    CbsSession.start engine session credentials.redacted audience trace.redacted =
      (CbsSession.start engine session credentials audience trace).map CbsSession.redacted
        Trace.redacted := by
  simp only [CbsSession.start, Trace.openLink_redacted blind, Prod.map]
  rfl

theorem markOpen_redacted (cbs : CbsSession) (link : LinkId) :
    cbs.redacted.markOpen link = (cbs.markOpen link).redacted := by
  unfold markOpen redacted
  dsimp only
  split
  · rfl
  · split <;> rfl

theorem finish_redacted (cbs : CbsSession) (outcome : AuthOutcome) :
    cbs.redacted.finish outcome = (cbs.finish outcome).map id CbsSession.redacted := rfl

theorem onResponse_redacted (cbs : CbsSession) (link : LinkId) (status : UInt16)
    (description : Option String) : cbs.redacted.onResponse link status description =
      (cbs.onResponse link status description).map id CbsSession.redacted := by
  unfold onResponse
  by_cases awaited : link = cbs.receiver ∧ cbs.phase = .awaitingResponse
  · rw [if_pos awaited]
    exact if_pos awaited
  · rw [if_neg awaited]
    exact if_neg awaited

theorem onClosed_redacted (cbs : CbsSession) (condition : Option ErrorCondition) :
    cbs.redacted.onClosed condition = (cbs.onClosed condition).map id CbsSession.redacted := by
  unfold onClosed
  by_cases ended : cbs.phase = .done
  · rw [if_pos ended]
    exact if_pos ended
  · rw [if_neg ended]
    exact if_neg ended

end CbsSession

namespace CbsSession

/-- The claim of an exchange is sent, and the exchange goes on or ends with that. -/
def submit (around : Surroundings) (cbs : CbsSession) (claim : Claim) (trace : Trace) :
    Option AuthOutcome × CbsSession × Trace :=
  match trace.sendClaim around.engine cbs.sender claim with
  | (none, trace) => (none, { cbs with phase := .awaitingResponse }, trace)
  | (some reason, trace) =>
    let (told, cbs) := cbs.finish (.failed (.send reason))
    (told, cbs, trace)

/-- What an exchange tells, and what it and the trace show after that. -/
def shown (result : Option AuthOutcome × CbsSession × Trace) :
    Option AuthOutcome × CbsSession × Trace :=
  result.map id (Prod.map redacted Trace.redacted)

theorem submit_redacted {around : Surroundings} (blind : around.engine.Blind) (cbs : CbsSession)
    {first second : Claim} (alike : first.redacted = second.redacted) (trace : Trace) :
    shown (cbs.redacted.submit around first trace.redacted) =
      shown (cbs.submit around second trace) := by
  have sent := Trace.sendClaim_redacted blind trace cbs.sender alike
  have sender : cbs.redacted.sender = cbs.sender := rfl
  unfold submit
  rw [sender]
  generalize trace.redacted.sendClaim around.engine cbs.sender first = one at sent ⊢
  generalize trace.sendClaim around.engine cbs.sender second = two at sent ⊢
  obtain ⟨answer, traceOne⟩ := one
  obtain ⟨answerToo, traceTwo⟩ := two
  obtain ⟨rfl, same⟩ := Prod.mk.inj sent
  have credentials := cbs.credentials.redacted_redacted
  cases answer <;> simp [shown, finish, same, redacted, credentials]

theorem present_of_token {cbs : CbsSession} {trace after : Trace} {token : String}
    {expiresAt : Option UtcTime} (taken : cbs.takeToken trace = (.ok (token, expiresAt), after))
    (around : Surroundings) :
    cbs.present around trace = cbs.submit around (.putToken around.messageId
      cbs.credentials.authorizationType cbs.audience token expiresAt) after := by
  simp only [present, taken]
  rfl

theorem present_of_refusal {cbs : CbsSession} {trace after : Trace} {error : AuthError}
    (taken : cbs.takeToken trace = (.error error, after)) (around : Surroundings) :
    cbs.present around trace =
      ((cbs.finish (.failed error)).1, (cbs.finish (.failed error)).2, after) := by
  simp only [present, taken]

theorem authorizationType_redacted (credentials : Credentials) :
    credentials.redacted.authorizationType = credentials.authorizationType := by
  cases credentials <;> rfl

/-- Without its secrets an exchange presents another claim, which shows the same. -/
theorem present_redacted {around : Surroundings} (blind : around.engine.Blind) (cbs : CbsSession)
    (trace : Trace) :
    shown (cbs.redacted.present around trace.redacted) = shown (cbs.present around trace) := by
  have sameFlavour : cbs.redacted.credentials.authorizationType =
      cbs.credentials.authorizationType := authorizationType_redacted _
  cases held : cbs.credentials with
  | sharedAccessSignature user token =>
    have taken : cbs.takeToken trace = (.ok (token, SasToken.expiry token), trace) := by
      simp only [takeToken, held]
    have takenThen : cbs.redacted.takeToken trace.redacted =
        (.ok ("", SasToken.expiry ""), trace.redacted) := by
      simp only [takeToken, redacted, held, Credentials.redacted]
    rw [present_of_token taken, present_of_token takenThen, sameFlavour]
    exact submit_redacted blind cbs (by rfl) trace
  | tokenProvider provider flavour =>
    -- The provider is asked the same, and its answer is not looked at.
    let after : Trace := { trace with tokenRequests := trace.tokenRequests ++ [[hubScope]] }
    cases given : provider.answer trace.tokenRequests [hubScope] with
    | ok access =>
      have taken : cbs.takeToken trace = (.ok (access.token, some access.expiresAt), after) := by
        simp only [takeToken, held, Trace.requestToken, given, after]
      have takenThen : cbs.redacted.takeToken trace.redacted =
          (.ok (access.token, some access.expiresAt), after.redacted) := by
        simp only [takeToken, redacted, held, Credentials.redacted, Trace.requestToken,
          Trace.redacted, given, after]
      rw [present_of_token taken, present_of_token takenThen, sameFlavour]
      exact submit_redacted blind cbs (by rfl) after
    | error reason =>
      have taken : cbs.takeToken trace = (.error (.credential reason), after) := by
        simp only [takeToken, held, Trace.requestToken, given, after]
      have takenThen : cbs.redacted.takeToken trace.redacted =
          (.error (.credential reason), after.redacted) := by
        simp only [takeToken, redacted, held, Credentials.redacted, Trace.requestToken,
          Trace.redacted, given, after]
      rw [present_of_refusal taken, present_of_refusal takenThen]
      simp [shown, finish_redacted, redacted_redacted, Trace.redacted_redacted]

theorem onLinkOpen_redacted {around : Surroundings} (blind : around.engine.Blind) (link : LinkId)
    (cbs : CbsSession) (trace : Trace) :
    shown (cbs.redacted.onLinkOpen around link trace.redacted) =
      shown (cbs.onLinkOpen around link trace) := by
  have unheard (cbs : CbsSession) : shown (none, cbs.redacted, trace.redacted) =
      shown (none, cbs, trace) := by
    simp [shown, redacted_redacted, Trace.redacted_redacted]
  unfold onLinkOpen
  rw [show cbs.redacted.ownsLink link = cbs.ownsLink link from rfl, markOpen_redacted]
  by_cases owns : cbs.ownsLink link = true
  · rw [if_pos owns, if_pos owns]
    by_cases completes : (cbs.markOpen link).phase = .openingLinks ∧
        (cbs.markOpen link).senderOpen ∧ (cbs.markOpen link).receiverOpen
    · have presented := present_redacted blind (cbs.markOpen link) trace
      rw [if_pos completes]
      rw [← presented]
      exact congrArg shown (if_pos completes)
    · rw [if_neg completes, ← unheard]
      exact congrArg shown (if_neg completes)
  · rw [if_neg owns, if_neg owns]
    exact unheard cbs

end CbsSession

theorem LayerPlan.dressing_redacted (plan : LayerPlan) (context : Option TlsContext) :
    plan.redacted.dressing context = (plan.dressing context).map Call.redacted := by
  obtain ⟨webSocket, mechanism, proxy⟩ := plan
  cases webSocket <;> cases proxy <;> rfl

theorem Controller.bound_redacted (controller : Controller) :
    controller.redacted.bound = controller.bound.redacted := by
  unfold bound
  by_cases initial : controller.phase = .initial
  · rw [if_pos initial]
    exact if_pos initial
  · rw [if_neg initial]
    exact if_neg initial

theorem Controller.advance_redacted (controller : Controller) (phase : Phase) :
    controller.redacted.advance phase = (controller.advance phase).redacted := by
  unfold advance
  by_cases failed : controller.phase = .failed
  · rw [if_pos failed]
    exact if_pos failed
  · rw [if_neg failed]
    exact if_neg failed

end AmqpHandshake
