import AmqpHandshake.Proofs.Dialogue
import AmqpHandshake.Proofs.Redaction

/-! Secrets do not influence an attempt. Every handler does to a redacted attempt what it does to
the attempt itself, redacted; so two attempts that differ in secrets alone go the same way. -/
namespace AmqpHandshake

namespace Attempt

variable {around : Surroundings}

theorem onReactorInit_redacted (attempt : Attempt) :
    attempt.redacted.onReactorInit = attempt.onReactorInit.redacted := by
  cases connected : attempt.controller.endpoint with
  | some endpoint => simp [onReactorInit, redacted, Controller.redacted, connected]
  | none =>
    simp [onReactorInit, redacted, Controller.redacted, connected, update, call,
      ConnectionConfig.endpoint_redacted, Trace.redacted_record, Call.redacted]

/-- What is left of an attempt that has made some calls. -/
theorem redacted_calling (controller : Controller) (trace : Trace) (made : List Call) :
    (mk controller (trace.recordAll made)).redacted =
      ⟨controller.redacted, trace.redacted.recordAll (made.map Call.redacted)⟩ := by
  rw [redacted, Trace.redacted_recordAll]

theorem onConnectionBound_redacted (around : Surroundings) (attempt : Attempt) :
    attempt.redacted.onConnectionBound around =
      (attempt.onConnectionBound around).redacted := by
  have layers : attempt.redacted.controller.config.layers =
      attempt.controller.config.layers.map LayerPlan.redacted :=
    attempt.controller.config.layers_redacted
  cases planned : attempt.controller.config.layers with
  | error cause =>
    rw [planned] at layers
    rw [onConnectionBound_of_unplanned planned, onConnectionBound_of_unplanned layers]
    rfl
  | ok plan =>
    rw [planned] at layers
    cases resolved : attempt.controller.config.tls.resolve around.read with
    | error fault =>
      rw [onConnectionBound_of_unresolved planned around resolved,
        onConnectionBound_of_unresolved layers around resolved, LayerPlan.dressing_redacted,
        redacted_calling]
      rfl
    | ok context =>
      rw [onConnectionBound_of_resolved planned around resolved,
        onConnectionBound_of_resolved layers around resolved, LayerPlan.dressing_redacted,
        redacted_calling, ← Controller.bound_redacted]
      rfl

theorem onConnectionInit_redacted (attempt : Attempt) :
    attempt.redacted.onConnectionInit = attempt.onConnectionInit.redacted := by
  rw [onConnectionInit_eq, onConnectionInit_eq, redacted_calling]
  rfl

theorem newExchange_redacted (blind : around.engine.Blind) (attempt : Attempt) :
    attempt.redacted.newExchange around = (attempt.newExchange around).redacted := by
  have opens : attempt.redacted.trace.openSession around.engine = _ :=
    Trace.openSession_redacted blind attempt.trace
  simp only [newExchange, opens, Prod.map]
  exact congrArg Prod.fst (CbsSession.start_redacted blind _ attempt.controller.config.credentials
    attempt.controller.config.hostName _)

theorem onConnectionRemoteOpen_redacted (blind : around.engine.Blind) (attempt : Attempt) :
    attempt.redacted.onConnectionRemoteOpen around =
      (attempt.onConnectionRemoteOpen around).redacted := by
  cases closed : attempt.controller.state.connectionOpened with
  | true =>
    have opened : attempt.redacted.controller.state.connectionOpened = true := closed
    simp [onConnectionRemoteOpen, closed, opened]
  | false =>
    have closedThen : attempt.redacted.controller.state.connectionOpened = false := closed
    have phase : (attempt.redacted.controller.advance .authenticating).phase =
        (attempt.controller.advance .authenticating).phase :=
      (congrArg Controller.phase
        (Controller.advance_redacted attempt.controller .authenticating)).trans rfl
    rw [onConnectionRemoteOpen_of_closed closed, onConnectionRemoteOpen_of_closed closedThen,
      newExchange_redacted blind, phase, redacted_calling]
    rfl

theorem onSessionRemoteOpen_redacted (session : SessionId) (attempt : Attempt) :
    attempt.redacted.onSessionRemoteOpen session =
      (attempt.onSessionRemoteOpen session).redacted := by
  have same : attempt.controller.redacted.isCbsSession session =
      attempt.controller.isCbsSession session := by
    cases held : attempt.controller.cbs <;>
      simp [Controller.isCbsSession, Controller.redacted, held, CbsSession.redacted]
  simp only [onSessionRemoteOpen, update, redacted, same]
  split <;> rfl

theorem openServiceLink_redacted (blind : around.engine.Blind) (attempt : Attempt) :
    attempt.redacted.openServiceLink around = (attempt.openServiceLink around).redacted := by
  unfold openServiceLink
  rw [show attempt.redacted.controller.config.serviceLink =
    attempt.controller.config.serviceLink from rfl,
    show attempt.redacted.controller.serviceLink = attempt.controller.serviceLink from rfl]
  split
  · simp only [redacted, Trace.openSession_redacted blind, Trace.openLink_redacted blind, Prod.map]
    rfl
  · rfl

theorem accept_redacted (blind : around.engine.Blind) (told : Option AuthOutcome)
    (attempt : Attempt) :
    attempt.redacted.accept around told = (attempt.accept around told).redacted := by
  cases told with
  | none => rfl
  | some outcome =>
    cases outcome with
    | failed error => rfl
    | succeeded =>
      exact openServiceLink_redacted blind (attempt.update Controller.onAuthenticationSucceeded)

theorem onCbsResponse_redacted (blind : around.engine.Blind) (link : LinkId) (status : UInt16)
    (description : Option String) (attempt : Attempt) :
    attempt.redacted.onCbsResponse around link status description =
      (attempt.onCbsResponse around link status description).redacted := by
  unfold onCbsResponse
  rw [show attempt.redacted.controller.cbs = attempt.controller.cbs.map CbsSession.redacted from rfl]
  cases attempt.controller.cbs with
  | none => rfl
  | some cbs =>
    simp only [Option.map_some, CbsSession.onResponse_redacted, Prod.map]
    exact accept_redacted blind _ (attempt.withCbs _)

theorem onTransportError_redacted (condition : ErrorCondition) (attempt : Attempt) :
    attempt.redacted.update (·.onTransportError condition) =
      (attempt.update (·.onTransportError condition)).redacted := by
  simp only [update, Controller.onTransportError]
  rw [show attempt.redacted.controller.protocolError = attempt.controller.protocolError from rfl]
  cases attempt.controller.protocolError <;> rfl

theorem onClose_redacted (condition : Option ErrorCondition) (attempt : Attempt) :
    attempt.redacted.onClose condition = (attempt.onClose condition).redacted := by
  cases condition with
  | none => rfl
  | some condition => exact onTransportError_redacted condition attempt

/-- Which exchange an event is for does not depend on its secrets. -/
theorem filter_redacted (owns : CbsSession → Bool)
    (same : ∀ cbs, owns (CbsSession.redacted cbs) = owns cbs) (attempt : Attempt) :
    attempt.redacted.controller.cbs.filter owns =
      (attempt.controller.cbs.filter owns).map CbsSession.redacted := by
  show (attempt.controller.cbs.map CbsSession.redacted).filter owns = _
  cases attempt.controller.cbs with
  | none => rfl
  | some cbs =>
    simp only [Option.map_some, Option.filter_some, same]
    split <;> rfl

theorem closed_redacted (blind : around.engine.Blind) (owns : CbsSession → Bool)
    (same : ∀ cbs, owns (CbsSession.redacted cbs) = owns cbs) (condition : Option ErrorCondition)
    (attempt : Attempt) :
    (match attempt.redacted.controller.cbs.filter owns with
      | some cbs => attempt.redacted.onCbsClose around cbs condition
      | none => attempt.redacted.onClose condition) =
      (match attempt.controller.cbs.filter owns with
        | some cbs => attempt.onCbsClose around cbs condition
        | none => attempt.onClose condition).redacted := by
  rw [filter_redacted owns same]
  cases attempt.controller.cbs.filter owns with
  | none => exact onClose_redacted condition attempt
  | some cbs =>
    simp only [Option.map_some, onCbsClose, CbsSession.onClosed_redacted, Prod.map]
    exact accept_redacted blind _ (attempt.withCbs _)

/-- The links of the exchange are the only place where a secret is used, and what comes of that is
not looked at. -/
theorem onLinkRemoteOpen_redacted (blind : around.engine.Blind) (link : LinkId)
    (attempt : Attempt) : (attempt.redacted.onLinkRemoteOpen around link).redacted =
      (attempt.onLinkRemoteOpen around link).redacted := by
  have owning : attempt.redacted.controller.cbsOwning? link =
      (attempt.controller.cbsOwning? link).map CbsSession.redacted :=
    filter_redacted _ (fun _ => rfl) attempt
  cases owned : attempt.controller.cbsOwning? link with
  | none =>
    rw [owned] at owning
    have same : attempt.redacted.onLinkRemoteOpen around link =
        (attempt.onLinkRemoteOpen around link).redacted := by
      simp only [onLinkRemoteOpen, owned, owning, Option.map_none]
      rfl
    rw [same, redacted_redacted]
  | some cbs =>
    rw [owned] at owning
    have opens := CbsSession.onLinkOpen_redacted blind link cbs attempt.trace
    simp only [onLinkRemoteOpen, owned, owning, Option.map_some]
    rw [show attempt.redacted.trace = attempt.trace.redacted from rfl]
    generalize cbs.redacted.onLinkOpen around link attempt.trace.redacted = one at opens ⊢
    generalize cbs.onLinkOpen around link attempt.trace = two at opens ⊢
    obtain ⟨told, cbsOne, traceOne⟩ := one
    obtain ⟨toldToo, cbsTwo, traceTwo⟩ := two
    obtain ⟨rfl, shown⟩ := Prod.mk.inj opens
    obtain ⟨sameCbs, sameTrace⟩ := Prod.mk.inj shown
    have same : ({ attempt.redacted with trace := traceOne }.withCbs cbsOne).redacted =
        ({ attempt with trace := traceTwo }.withCbs cbsTwo).redacted := by
      simp [withCbs, update, redacted, Controller.redacted, sameCbs, sameTrace,
        ConnectionConfig.redacted_redacted]
    exact (accept_redacted blind _ _).symm.trans
      ((congrArg (accept around _) same).trans (accept_redacted blind _ _))

/-- A handler does to an attempt without its secrets what it does to the attempt itself. -/
theorem react_redacted (blind : around.engine.Blind) (event : Event) (attempt : Attempt) :
    (attempt.redacted.react around event).redacted = (attempt.react around event).redacted := by
  have exactly {next : Attempt} (same : attempt.redacted.react around event = next.redacted) :
      (attempt.redacted.react around event).redacted = next.redacted :=
    (congrArg redacted same).trans next.redacted_redacted
  cases event with
  | reactorInit => exact exactly (onReactorInit_redacted attempt)
  | connectionBound => exact exactly (onConnectionBound_redacted around attempt)
  | connectionInit => exact exactly (onConnectionInit_redacted attempt)
  | connectionRemoteOpen => exact exactly (onConnectionRemoteOpen_redacted blind attempt)
  | sessionRemoteOpen session => exact exactly (onSessionRemoteOpen_redacted session attempt)
  | linkRemoteOpen link => exact onLinkRemoteOpen_redacted blind link attempt
  | cbsResponse link status description =>
    exact exactly (onCbsResponse_redacted blind link status description attempt)
  | transportError condition => exact exactly (onTransportError_redacted condition attempt)
  | connectionRemoteClose condition => exact exactly (onClose_redacted condition attempt)
  | sessionRemoteClose session condition =>
    exact exactly (closed_redacted blind _ (fun _ => rfl) condition attempt)
  | linkRemoteClose link condition =>
    exact exactly (closed_redacted blind _ (fun _ => rfl) condition attempt)

theorem verify_redacted (attempt : Attempt) :
    attempt.redacted.verify = attempt.verify.map id redacted := by
  simp only [verify, Controller.verify]
  rw [show attempt.redacted.controller.verdict = attempt.controller.verdict from rfl]
  cases attempt.controller.verdict <;> rfl

theorem act_redacted (blind : around.engine.Blind) (action : Action) (attempt : Attempt) :
    (attempt.redacted.act around action).redacted = (attempt.act around action).redacted := by
  cases action with
  | verify =>
    have verified := congrArg Prod.snd (verify_redacted attempt)
    exact (congrArg redacted verified).trans attempt.verify.2.redacted_redacted
  | handle event =>
    have same : attempt.redacted.controller.verdict = attempt.controller.verdict := rfl
    show (attempt.redacted.handle around event).redacted = (attempt.handle around event).redacted
    cases decided : attempt.controller.verdict with
    | none =>
      rw [handle_undecided decided, handle_undecided (same.trans decided)]
      exact react_redacted blind event attempt
    | some verdict =>
      rw [handle_decided (Option.isSome_of_eq_some decided),
        handle_decided (Option.isSome_of_eq_some (same.trans decided)), redacted_redacted]

/-- Files are read for the TLS context alone. -/
theorem handle_reading {attempt : Attempt} {read : FileReader}
    (resolved : attempt.controller.config.tls.resolve read =
      attempt.controller.config.tls.resolve around.read) (event : Event) :
    attempt.handle { around with read } event = attempt.handle around event := by
  unfold handle
  split
  · rfl
  · cases event with
    | connectionBound =>
      show attempt.onConnectionBound _ = attempt.onConnectionBound around
      cases planned : attempt.controller.config.layers with
      | error cause =>
        rw [onConnectionBound_of_unplanned planned, onConnectionBound_of_unplanned planned]
      | ok plan =>
        cases given : attempt.controller.config.tls.resolve around.read with
        | error fault =>
          rw [onConnectionBound_of_unresolved planned around given,
            onConnectionBound_of_unresolved planned { around with read } (resolved.trans given)]
        | ok context =>
          rw [onConnectionBound_of_resolved planned around given,
            onConnectionBound_of_resolved planned { around with read } (resolved.trans given)]
    | _ => rfl

theorem config_act (around : Surroundings) (attempt : Attempt) (action : Action) :
    (attempt.act around action).controller.config = attempt.controller.config := by
  cases action with
  | handle event => exact congrArg (·.1) (terms_handle around attempt event)
  | verify => exact config_verify attempt

/-- Attempts that differ in secrets alone go the same way. -/
theorem redacted_actAll (blind : around.engine.Blind) {read : FileReader} {one two : Attempt}
    (alike : one.redacted = two.redacted)
    (resolved : two.controller.config.tls.resolve read =
      two.controller.config.tls.resolve around.read) (actions : List Action) :
    (one.actAll around actions).redacted =
      (two.actAll { around with read } actions).redacted := by
  induction actions generalizing one two with
  | nil => exact alike
  | cons action rest ih =>
    have reading : two.act { around with read } action = two.act around action := by
      cases action with
      | handle event => exact handle_reading resolved event
      | verify => rfl
    have next : (one.act around action).redacted = (two.act around action).redacted := by
      rw [← act_redacted blind, alike, act_redacted blind]
    have resolvedNext : (two.act around action).controller.config.tls.resolve read =
        (two.act around action).controller.config.tls.resolve around.read := by
      rw [config_act, resolved]
    show (actAll around (one.act around action) rest).redacted =
      (actAll _ (two.act { around with read } action) rest).redacted
    rw [reading]
    exact ih next resolvedNext

/-- Two attempts have come to the same and have asked for the same, but for the token and the
expiry of a claim and for the password that a tunnel is asked for with. -/
structure Alike (one two : Attempt) : Prop where
  state : one.controller.state = two.controller.state
  phase : one.controller.phase = two.controller.phase
  endpoint : one.controller.endpoint = two.controller.endpoint
  protocolError : one.controller.protocolError = two.controller.protocolError
  authenticated : one.controller.authenticated = two.controller.authenticated
  verdict : one.controller.verdict = two.controller.verdict
  decision : one.verify.1 = two.verify.1
  calls : one.trace.calls.map Call.redacted = two.trace.calls.map Call.redacted
  tokenRequests : one.trace.tokenRequests = two.trace.tokenRequests

theorem alike_of_redacted {one two : Attempt} (same : one.redacted = two.redacted) :
    one.Alike two where
  state := congrArg (·.controller.state) same
  phase := congrArg (·.controller.phase) same
  endpoint := congrArg (·.controller.endpoint) same
  protocolError := congrArg (·.controller.protocolError) same
  authenticated := congrArg (·.controller.authenticated) same
  verdict := congrArg (·.controller.verdict) same
  decision := by
    have verified := congrArg (·.verify.1) same
    simp only [verify_redacted] at verified
    exact verified
  calls := congrArg (·.trace.calls) same
  tokenRequests := congrArg (·.trace.tokenRequests) same

end Attempt

/-- Two tunnels show the same, and are asked for in the same lines but for the third, which
authenticates. -/
structure ProxyLayer.Alike (one two : ProxyLayer) : Prop where
  inspect : one.inspect = two.inspect
  request : one.requestLines.take 2 = two.requestLines.take 2
  authenticates : one.requestLines.length = two.requestLines.length

theorem ProxyLayer.alike_of_redacted {one two : ProxyLayer} (same : one.redacted = two.redacted) :
    one.Alike two := by
  obtain ⟨destination, credentials⟩ := one
  obtain ⟨destinationToo, credentialsToo⟩ := two
  obtain ⟨rfl, users⟩ := ProxyLayer.mk.inj same
  cases credentials <;> cases credentialsToo
  · exact ⟨rfl, rfl, rfl⟩
  · cases users
  · cases users
  · exact ⟨rfl, rfl, rfl⟩

/-- Two valid configurations that differ in their signatures and in the passwords for their proxies
alone, on an engine that does not look at secrets, with files that give the same TLS context: after
whatever events and verdicts, both attempts have come to the same and have asked for the same. Both
configurations show the same, and so do their credentials and the layers that are planned. -/
theorem secrets_have_no_influence {first second : ConnectionConfig}
    (differ : first.redacted = second.redacted)
    (begun : Attempt.start first containerId = .ok one)
    (begunToo : Attempt.start second containerId = .ok two) {around : Surroundings}
    (blind : around.engine.Blind) {read : FileReader}
    (resolved : second.tls.resolve read = first.tls.resolve around.read)
    (actions : List Action) :
    (one.actAll around actions).Alike (two.actAll { around with read } actions) ∧
      first.inspect = second.inspect ∧ first.credentials.inspect = second.credentials.inspect ∧
      (∀ cause, first.layers = .error cause ↔ second.layers = .error cause) ∧
      ∀ plan other, first.layers = .ok plan → second.layers = .ok other →
        plan.webSocket = other.webSocket ∧ plan.saslMechanism = other.saslMechanism ∧
        plan.proxy.isSome = other.proxy.isSome ∧
        ∀ layer twin, plan.proxy = some layer → other.proxy = some twin → layer.Alike twin := by
  obtain ⟨_, rfl⟩ := Attempt.start_eq_ok_iff.mp begun
  obtain ⟨_, rfl⟩ := Attempt.start_eq_ok_iff.mp begunToo
  have fresh : (Attempt.fresh first containerId).redacted =
      (Attempt.fresh second containerId).redacted := by
    simp [Attempt.fresh, Attempt.redacted, Controller.redacted, differ]
  have sameTls : first.redacted.tls = second.redacted.tls := congrArg ConnectionConfig.tls differ
  have resolvedThen : second.tls.resolve read = second.tls.resolve around.read := by
    rw [resolved]
    exact congrArg (TlsSource.resolve around.read) sameTls
  have layers : first.layers.map LayerPlan.redacted = second.layers.map LayerPlan.redacted := by
    rw [← ConnectionConfig.layers_redacted, differ, ConnectionConfig.layers_redacted]
  refine ⟨Attempt.alike_of_redacted (Attempt.redacted_actAll blind fresh resolvedThen actions),
    ?_, ?_, ?_, ?_⟩
  · rw [← ConnectionConfig.inspect_redacted, differ, ConnectionConfig.inspect_redacted]
  · have credentials : first.redacted.credentials = second.redacted.credentials :=
      congrArg ConnectionConfig.credentials differ
    have shown := congrArg Credentials.inspect credentials
    exact (first.credentials.inspect_redacted.symm.trans shown).trans
      second.credentials.inspect_redacted
  · intro cause
    cases planned : first.layers <;> cases other : second.layers <;> rw [planned, other] at layers
    · rw [Except.error.inj layers]
    · cases layers
    · cases layers
    · simp
  · intro plan other planned plannedToo
    rw [planned, plannedToo] at layers
    obtain ⟨webSocket, mechanism, proxy⟩ := LayerPlan.mk.inj (Except.ok.inj layers)
    refine ⟨webSocket, mechanism, ?_, ?_⟩
    · simpa using congrArg Option.isSome proxy
    · intro layer twin found foundToo
      rw [found, foundToo] at proxy
      exact ProxyLayer.alike_of_redacted (Option.some.inj proxy)

namespace Sample

/-- The sample hub behind a proxy that asks for a password. -/
def guarded (password signature : String) : ConnectionConfig :=
  { config with
    protocol := .amqpsWs
    proxy := some ⟨"proxy.example.net", 8080, some "user", some password⟩
    credentials := .sharedAccessSignature "owner" signature }

/-- All that takes the sample hub to success. -/
def toSuccess : List Action :=
  [.reactorInit, .connectionBound, .connectionInit, .connectionRemoteOpen, .linkRemoteOpen ⟨2⟩,
    .linkRemoteOpen ⟨3⟩, .cbsResponse ⟨3⟩ 200 none, .sessionRemoteOpen ⟨4⟩,
    .linkRemoteOpen ⟨5⟩].map .handle ++ [.verify]

def admitted (password signature : String) : Attempt :=
  (Attempt.fresh (guarded password signature) ⟨0⟩).actAll around toSuccess

end Sample

/-- With another password, and with a signature that does not tell when it expires, the sample hub
comes to success as well. The calls are not the same. -/
theorem secrets_have_no_influence_on_success :
    let first := Sample.admitted "first" "SharedAccessSignature se=1"
    let second := Sample.admitted "second" "signature"
    first.Alike second ∧ first.controller.verdict = some (.ok ()) ∧
      first.trace.calls ≠ second.trace.calls := by
  have differ : (Sample.guarded "first" "SharedAccessSignature se=1").redacted =
    (Sample.guarded "second" "signature").redacted := rfl
  have begun : Attempt.start (Sample.guarded "first" "SharedAccessSignature se=1") ⟨0⟩ =
    .ok (.fresh _ ⟨0⟩) := rfl
  have begunToo : Attempt.start (Sample.guarded "second" "signature") ⟨0⟩ =
    .ok (.fresh _ ⟨0⟩) := rfl
  have blind : Sample.around.engine.Blind := Script.blind_engine {}
  refine ⟨(secrets_have_no_influence differ begun begunToo blind rfl Sample.toSuccess).1, ?_, ?_⟩
  · rfl
  · decide

end AmqpHandshake
