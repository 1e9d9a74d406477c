import AmqpHandshake.Proofs.Reaction

/-! The ids that the engine hands out to an attempt, and what they are used for. An event begins
the claims exchange, accepts the claim, opens the application link as well, or does none of it. -/
namespace AmqpHandshake

/-- The session that a call began. -/
def Call.session? : Call → Option SessionId
  | .openSession session => some session
  | _ => none

/-- The link that a call attached. -/
def Call.link? : Call → Option LinkId
  | .openLink _ _ link => some link
  | _ => none

namespace Trace

/-- The ids of all sessions begun. -/
def sessions (trace : Trace) : List SessionId := trace.calls.filterMap Call.session?

/-- The ids of all links attached. -/
def links (trace : Trace) : List LinkId := trace.calls.filterMap Call.link?

@[simp] theorem sessions_record (trace : Trace) (call : Call) :
    (trace.record call).sessions = trace.sessions ++ call.session?.toList := by
  cases called : call.session? <;> simp [sessions, record, called]

@[simp] theorem links_record (trace : Trace) (call : Call) :
    (trace.record call).links = trace.links ++ call.link?.toList := by
  cases called : call.link? <;> simp [links, record, called]

theorem sessions_eq (trace : Trace) :
    trace.sessions = trace.dialogue.filterMap Call.session? := by
  rw [dialogue, List.filterMap_filter, sessions]
  congr
  funext call
  cases call <;> rfl

theorem links_eq (trace : Trace) : trace.links = trace.dialogue.filterMap Call.link? := by
  rw [dialogue, List.filterMap_filter, links]
  congr
  funext call
  cases call <;> rfl

/-- All ids handed out. -/
def ids (trace : Trace) : List SessionId × List LinkId := (trace.sessions, trace.links)

theorem ids_sendClaim (engine : Engine) (link : LinkId) (claim : Claim) (trace : Trace) :
    (trace.sendClaim engine link claim).2.ids = trace.ids := by
  simp [ids, sendClaim, Call.session?, Call.link?]

end Trace

/-- Ids of one kind: all that were handed out, those of the claims exchange, and that of the
application. -/
@[ext]
structure Register (ι : Type) where
  handedOut : List ι
  exchange : List ι
  service : Option ι

namespace Register

def empty : Register ι := ⟨[], [], none⟩

/-- Begin the claims exchange. -/
def begin (ids : List ι) (register : Register ι) : Register ι :=
  { register with handedOut := register.handedOut ++ ids, exchange := ids }

/-- Hand out an id to the application. -/
def serve (id : ι) (register : Register ι) : Register ι :=
  { register with handedOut := register.handedOut ++ [id], service := some id }

/-- Each id is one of the claims exchange or that of the application, which is the last one. -/
def Kept (register : Register ι) : Prop :=
  register.handedOut = register.exchange ++ register.service.toList

/-- Later ids come behind earlier ones, and that of the application stays. -/
structure Grows (earlier later : Register ι) : Prop where
  handedOut : earlier.handedOut <+: later.handedOut
  service : ∀ id, earlier.service = some id → later.service = some id

theorem Grows.refl (register : Register ι) : Grows register register :=
  ⟨List.prefix_rfl, fun _ found => found⟩

theorem Grows.trans {first second third : Register ι} (grown : Grows first second)
    (grownMore : Grows second third) : Grows first third :=
  ⟨grown.handedOut.trans grownMore.handedOut,
    fun id found => grownMore.service id (grown.service id found)⟩

theorem kept_serve {register : Register ι} (kept : register.Kept) (free : register.service = none)
    (id : ι) : (register.serve id).Kept := by
  simp only [Kept, free, Option.toList_none, List.append_nil] at kept
  simp [serve, Kept, kept]

theorem grows_serve {register : Register ι} (free : register.service = none) (id : ι) :
    Grows register (register.serve id) where
  handedOut := List.prefix_append ..
  service other found := by
    rw [free] at found
    cases found

theorem kept_begin_empty (ids : List ι) : (empty.begin ids).Kept := by simp [begin, empty, Kept]

theorem grows_begin (ids : List ι) (register : Register ι) : Grows register (register.begin ids) :=
  ⟨List.prefix_append .., fun _ found => found⟩

/-- Where no id is handed out twice, that of the application is the one beside the claims
exchange. -/
theorem service_eq_some_iff {register : Register ι} (kept : register.Kept)
    (distinct : register.handedOut.Nodup) (id : ι) :
    register.service = some id ↔ id ∈ register.handedOut ∧ id ∉ register.exchange := by
  rw [kept] at distinct ⊢
  constructor
  · intro found
    rw [found] at distinct ⊢
    have apart := (List.nodup_append.mp distinct).2.2
    exact ⟨by simp, fun inside => apart id inside id (by simp) rfl⟩
  · rintro ⟨member, outside⟩
    simpa [outside] using member

end Register

/-- What an attempt holds of ids, and what it takes for one to be used. -/
@[ext]
structure Ledger where
  sessions : Register SessionId
  links : Register LinkId
  connectionOpened : Bool
  authenticated : Bool

namespace Ledger

/-- What one event does to a ledger. -/
inductive Step (ledger : Ledger) : Ledger → Prop
  | idle : Step ledger ledger
  /-- The connection is open, and the claims exchange begins. -/
  | begin (closed : ledger.connectionOpened = false) (session : SessionId) (links : List LinkId) :
      Step ledger
        { ledger with
          connectionOpened := true
          sessions := ledger.sessions.begin [session]
          links := ledger.links.begin links }
  /-- The claim is accepted. -/
  | authenticate : Step ledger { ledger with authenticated := true }
  /-- The claim is accepted, and the application link is opened. -/
  | serve (begun : ledger.sessions.exchange ≠ []) (free : ledger.links.service = none)
      (session : SessionId) (link : LinkId) :
      Step ledger
        { ledger with
          authenticated := true
          sessions := ledger.sessions.serve session
          links := ledger.links.serve link }

/-- Ids are only handed out on an open connection, and to the application only for an accepted
claim: a session and a link at once. -/
structure Sound (ledger : Ledger) : Prop where
  sessions : ledger.sessions.Kept
  links : ledger.links.Kept
  closed : ledger.connectionOpened = false →
    ledger.sessions = .empty ∧ ledger.links = .empty
  paired : ledger.sessions.service.isSome = ledger.links.service.isSome
  earned : ledger.links.service.isSome → ledger.authenticated = true

/-- Nothing that a ledger holds is taken back. -/
structure Grows (earlier later : Ledger) : Prop where
  sessions : earlier.sessions.Grows later.sessions
  links : earlier.links.Grows later.links
  authenticated : earlier.authenticated = true → later.authenticated = true

theorem Grows.refl (ledger : Ledger) : Grows ledger ledger := ⟨.refl _, .refl _, id⟩

theorem Grows.trans {first second third : Ledger} (grown : Grows first second)
    (grownMore : Grows second third) : Grows first third where
  sessions := grown.sessions.trans grownMore.sessions
  links := grown.links.trans grownMore.links
  authenticated := grownMore.authenticated ∘ grown.authenticated

theorem Sound.step {ledger next : Ledger} (sound : ledger.Sound) (step : ledger.Step next) :
    next.Sound := by
  cases step with
  | idle => exact sound
  | begin closed session links =>
    obtain ⟨noSession, noLink⟩ := sound.closed closed
    rw [noSession, noLink]
    exact ⟨Register.kept_begin_empty _, Register.kept_begin_empty _, nofun, rfl, nofun⟩
  | authenticate => exact { sound with earned := fun _ => rfl }
  | serve begun free session link =>
    have freeToo : ledger.sessions.service = none := by simpa [free] using sound.paired
    refine ⟨Register.kept_serve sound.sessions freeToo _, Register.kept_serve sound.links free _,
      fun closed => ?_, rfl, fun _ => rfl⟩
    rw [(sound.closed closed).1] at begun
    exact absurd rfl begun

theorem Sound.grows {ledger next : Ledger} (sound : ledger.Sound) (step : ledger.Step next) :
    ledger.Grows next := by
  cases step with
  | idle => exact .refl ledger
  | begin closed session links =>
    exact ⟨Register.grows_begin .., Register.grows_begin .., id⟩
  | authenticate => exact ⟨.refl _, .refl _, fun _ => rfl⟩
  | serve begun free session link =>
    -- The step looks at the link alone; that no session is overwritten either is soundness.
    have freeToo : ledger.sessions.service = none := by simpa [free] using sound.paired
    exact ⟨Register.grows_serve freeToo _, Register.grows_serve free _, fun _ => rfl⟩

end Ledger

namespace CbsSession

/-- The ids that an exchange is on. -/
def ids (cbs : CbsSession) : SessionId × List LinkId := (cbs.session, [cbs.sender, cbs.receiver])

theorem ids_markOpen (cbs : CbsSession) (link : LinkId) : (cbs.markOpen link).ids = cbs.ids := by
  unfold markOpen
  split
  · rfl
  · split <;> rfl

theorem ids_onResponse (cbs : CbsSession) (link : LinkId) (status : UInt16)
    (description : Option String) : (cbs.onResponse link status description).2.ids = cbs.ids := by
  unfold onResponse
  split <;> rfl

theorem ids_onClosed (cbs : CbsSession) (condition : Option ErrorCondition) :
    (cbs.onClosed condition).2.ids = cbs.ids := by
  unfold onClosed
  split <;> rfl

theorem ids_takeToken (cbs : CbsSession) (trace : Trace) :
    (cbs.takeToken trace).2.ids = trace.ids := by
  simp only [takeToken, Trace.requestToken]
  split
  · rfl
  · split <;> rename_i asked <;> exact congrArg (·.2.ids) asked.symm

/-- Presenting a token neither changes the ids of an exchange nor hands out any. -/
theorem ids_present (around : Surroundings) (cbs : CbsSession) (trace : Trace) :
    (cbs.present around trace).2.1.ids = cbs.ids ∧
      (cbs.present around trace).2.2.ids = trace.ids := by
  have asked := ids_takeToken cbs trace
  unfold present
  split <;> rename_i taken <;> rw [taken] at asked
  · exact ⟨rfl, asked⟩
  · rename_i token expiresAt after
    have told := (Trace.ids_sendClaim around.engine cbs.sender (Claim.putToken around.messageId
      cbs.credentials.authorizationType cbs.audience token expiresAt) after).trans asked
    simp only
    split <;> rename_i sent <;> rw [sent] at told <;> exact ⟨rfl, told⟩

theorem ids_onLinkOpen (around : Surroundings) (link : LinkId) (cbs : CbsSession)
    (trace : Trace) :
    (cbs.onLinkOpen around link trace).2.1.ids = cbs.ids ∧
      (cbs.onLinkOpen around link trace).2.2.ids = trace.ids := by
  simp only [onLinkOpen]
  split
  · split
    · obtain ⟨kept, told⟩ := ids_present around (cbs.markOpen link) trace
      exact ⟨kept.trans (ids_markOpen cbs link), told⟩
    · exact ⟨ids_markOpen cbs link, rfl⟩
  · exact ⟨rfl, rfl⟩

end CbsSession

/-- Hearing a notice neither changes the ids of an exchange nor hands out any. -/
theorem Exchange.ids_hear (around : Surroundings) (exchange : Exchange) (notice : CbsNotice) :
    (exchange.hear around notice).2.cbs.ids = exchange.cbs.ids ∧
      (exchange.hear around notice).2.trace.ids = exchange.trace.ids := by
  cases notice with
  | linkOpen link => exact CbsSession.ids_onLinkOpen around link exchange.cbs exchange.trace
  | response link status description => exact ⟨CbsSession.ids_onResponse .., rfl⟩
  | closed condition => exact ⟨CbsSession.ids_onClosed .., rfl⟩

/-- What a channel holds of ids. -/
def Channel.ledger (channel : Channel) : Ledger where
  sessions :=
    { handedOut := channel.dialogue.filterMap Call.session?
      exchange := channel.cbs.elim [] fun cbs => [cbs.ids.1]
      service := channel.serviceSession }
  links :=
    { handedOut := channel.dialogue.filterMap Call.link?
      exchange := channel.cbs.elim [] fun cbs => cbs.ids.2
      service := channel.serviceLink }
  connectionOpened := channel.connectionOpened
  authenticated := channel.authenticated

namespace Attempt

def ledger (attempt : Attempt) : Ledger where
  sessions :=
    { handedOut := attempt.trace.sessions
      exchange := attempt.controller.cbs.elim [] fun cbs => [cbs.ids.1]
      service := attempt.controller.serviceSession }
  links :=
    { handedOut := attempt.trace.links
      exchange := attempt.controller.cbs.elim [] fun cbs => cbs.ids.2
      service := attempt.controller.serviceLink }
  connectionOpened := attempt.controller.state.connectionOpened
  authenticated := attempt.controller.authenticated

theorem ledger_eq (attempt : Attempt) : attempt.ledger = attempt.channel.ledger := by
  simp only [ledger, Trace.sessions_eq, Trace.links_eq]
  rfl

theorem step_onConnectionRemoteOpen {attempt : Attempt}
    (closed : attempt.controller.state.connectionOpened = false) (around : Surroundings) :
    attempt.ledger.Step (attempt.onConnectionRemoteOpen around).ledger := by
  let cbs := attempt.newExchange around
  have begun : attempt.ledger.Step _ := .begin closed cbs.session [cbs.sender, cbs.receiver]
  refine cast (congrArg attempt.ledger.Step ?_) begun
  rw [ledger_eq, ledger_eq, channel_onConnectionRemoteOpen closed]
  simp only [Channel.ledger, Register.begin, List.filterMap_append]
  rfl

theorem step_accept {attempt : Attempt} (begun : attempt.ledger.sessions.exchange ≠ [])
    (around : Surroundings) (outcome? : Option AuthOutcome) :
    attempt.ledger.Step (attempt.accept around outcome?).ledger := by
  cases outcome? with
  | none => exact .idle
  | some outcome =>
    cases outcome with
    | failed error => exact .idle
    | succeeded =>
      simp only [accept, if_true, openServiceLink]
      split
      · rename_i link configured free
        have served := fun session link => Ledger.Step.serve begun free session link
        simp only [Trace.openSession, Trace.openLink]
        generalize around.engine.sessionId _ = session
        generalize around.engine.linkId _ _ _ = id
        refine cast (congrArg attempt.ledger.Step ?_) (served session id)
        simp [ledger, Register.serve, update, AuthOutcome.deliver, Controller.listener,
          Controller.onAuthenticationSucceeded, Call.session?, Call.link?]
      · exact .authenticate

/-- What the claims exchange tells, once it has heard a notice, is the only other thing that an
event does to the ledger. -/
theorem step_hear {attempt : Attempt} (found : attempt.controller.cbs = some cbs)
    (around : Surroundings) (notice : CbsNotice) :
    attempt.ledger.Step (attempt.hear around cbs notice).ledger := by
  obtain ⟨kept, told⟩ := Exchange.ids_hear around ⟨cbs, attempt.trace⟩ notice
  obtain ⟨sessionsTold, linksTold⟩ := Prod.mk.inj told
  simp only [hear]
  generalize Exchange.hear around ⟨cbs, attempt.trace⟩ notice = result
    at kept sessionsTold linksTold ⊢
  have same : (attempt.heard result.2).ledger = attempt.ledger := by
    simp [heard, ledger, withCbs, update, found, kept, sessionsTold, linksTold]
  rw [← same]
  exact step_accept (by simp [heard, ledger, withCbs, update]) around result.1

/-- Every event is a step of the ledger. -/
theorem step_react (around : Surroundings) (attempt : Attempt) (event : Event) :
    attempt.ledger.Step (attempt.react around event).ledger := by
  have reaction := reaction_react around attempt event
  generalize attempt.react around event = next at reaction
  cases reaction with
  | connect starts nowhere =>
    rw [ledger_eq, ledger_eq, channel_onReactorInit nowhere]
    exact .idle
  | begin opens closed => exact step_onConnectionRemoteOpen closed around
  | hear found => exact step_hear found around _
  | apart unheard same =>
    rw [ledger_eq, ledger_eq, same]
    exact .idle

theorem step_handle (around : Surroundings) (attempt : Attempt) (event : Event) :
    attempt.ledger.Step (attempt.handle around event).ledger := by
  unfold handle
  split
  · exact .idle
  · exact step_react around attempt event

theorem Reached.sound {around : Surroundings} {attempt : Attempt}
    (reached : Reached around attempt) : attempt.ledger.Sound := by
  induction reached with
  | start begun =>
    rw [(start_eq_ok_iff.mp begun).2]
    exact ⟨rfl, rfl, fun _ => ⟨rfl, rfl⟩, rfl, nofun⟩
  | handle earlier event ih => exact ih.step (step_handle around _ event)

/-- A run takes back nothing that the ledger holds. -/
theorem Reached.grows {around : Surroundings} {attempt : Attempt} (reached : Reached around attempt)
    (events : List Event) : attempt.ledger.Grows (attempt.handleAll around events).ledger := by
  induction events generalizing attempt with
  | nil => exact .refl _
  | cons event rest ih =>
    exact (reached.sound.grows (step_handle around attempt event)).trans (ih (reached.handle event))

end Attempt

end AmqpHandshake
