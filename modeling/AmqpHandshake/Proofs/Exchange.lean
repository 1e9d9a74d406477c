import AmqpHandshake.Cbs.Session

/-! A claims exchange by itself, whatever its engine and its token provider answer: what one
notice does to it, and that telling an outcome settles it for good. -/
namespace AmqpHandshake

/-- What a claims exchange hears of the peer. -/
inductive CbsNotice
  | linkOpen (link : LinkId)
  | response (link : LinkId) (status : UInt16) (description : Option String)
  | closed (condition : Option ErrorCondition)
deriving DecidableEq, Repr

/-- Whether a call is a claim that the engine took. -/
def Call.isTakenClaim : Call → Bool
  | .sendClaim _ _ none => true
  | _ => false

namespace Credentials

/-- The claim that credentials give after some requests for tokens, and the requests after it. -/
inductive Yields (messageId : Uuid) (audience : String) (credentials : Credentials)
    (asked : List TokenRequest) : Claim → List TokenRequest → Prop
  | signature (held : credentials = .sharedAccessSignature user token) :
      Yields messageId audience credentials asked
        (.putToken messageId .sharedAccessSignature audience token (SasToken.expiry token)) asked
  | access (held : credentials = .tokenProvider provider flavour)
      (given : provider.answer asked [hubScope] = .ok access) :
      Yields messageId audience credentials asked
        (.putToken messageId flavour audience access.token (some access.expiresAt))
        (asked ++ [[hubScope]])

/-- Why credentials give no claim, and the requests after that. -/
inductive Withholds (credentials : Credentials) (asked : List TokenRequest) :
    String → List TokenRequest → Prop
  | refused (held : credentials = .tokenProvider provider flavour)
      (refused : provider.answer asked [hubScope] = .error reason) :
      Withholds credentials asked reason (asked ++ [[hubScope]])

theorem yields_or_withholds (messageId : Uuid) (audience : String) (credentials : Credentials)
    (asked : List TokenRequest) :
    (∃ claim after, credentials.Yields messageId audience asked claim after) ∨
      ∃ reason after, credentials.Withholds asked reason after := by
  cases credentials with
  | sharedAccessSignature user token => exact .inl ⟨_, _, .signature rfl⟩
  | tokenProvider provider flavour =>
    cases given : provider.answer asked [hubScope] with
    | ok access => exact .inl ⟨_, _, .access rfl given⟩
    | error reason => exact .inr ⟨_, _, .refused rfl given⟩

end Credentials

namespace CbsSession

/-- What an exchange is about from its start to its end. -/
def terms (cbs : CbsSession) : SessionId × LinkId × LinkId × Credentials × String :=
  (cbs.session, cbs.sender, cbs.receiver, cbs.credentials, cbs.audience)

theorem terms_eq_iff {cbs next : CbsSession} :
    next.terms = cbs.terms ↔ next.session = cbs.session ∧ next.sender = cbs.sender ∧
      next.receiver = cbs.receiver ∧ next.credentials = cbs.credentials ∧
      next.audience = cbs.audience := by
  simp [terms]

/-- The outcome has been told exactly if the exchange is over. -/
def Agrees (cbs : CbsSession) : Prop := cbs.slot.settled = true ↔ cbs.phase = .done

theorem Agrees.untold {cbs : CbsSession} (agrees : cbs.Agrees) (going : cbs.phase ≠ .done) :
    cbs.slot.settled = false :=
  Bool.eq_false_iff.mpr (mt agrees.mp going)

/-- An exchange that is over. -/
def settle (cbs : CbsSession) : CbsSession := { cbs with phase := .done, slot := ⟨true⟩ }

theorem agrees_settle (cbs : CbsSession) : cbs.settle.Agrees := by simp [Agrees, settle]

theorem finish_eq {cbs : CbsSession} (untold : cbs.slot.settled = false) (outcome : AuthOutcome) :
    cbs.finish outcome = (some outcome, cbs.settle) := by
  simp [finish, OutcomeSlot.settle, untold, settle]

theorem markOpen_eq (cbs : CbsSession) (link : LinkId) :
    cbs.markOpen link =
      { cbs with
        senderOpen := cbs.senderOpen || link = cbs.sender
        receiverOpen := cbs.receiverOpen || (link = cbs.receiver && link ≠ cbs.sender) } := by
  unfold markOpen
  split
  · rename_i own
    simp [own]
  · rename_i other
    split
    · rename_i own
      subst own
      simp [other]
    · rename_i foreign
      simp [other, foreign]

/-- The exchange waits for a link, and that is the last one. -/
structure Completes (cbs : CbsSession) (link : LinkId) : Prop where
  owns : cbs.ownsLink link = true
  waits : cbs.phase = .openingLinks
  sender : (cbs.markOpen link).senderOpen = true
  receiver : (cbs.markOpen link).receiverOpen = true

theorem outcomeOf_accepted (good : status = 200 ∨ status = 202) (description : Option String) :
    outcomeOf status description = .succeeded := by
  simp [outcomeOf, isAccepted, good]

theorem outcomeOf_rejected (bad : ¬ (status = 200 ∨ status = 202)) (description : Option String) :
    outcomeOf status description =
      .failed (.rejected status (description.getD "no description")) := by
  simp [outcomeOf, isAccepted, bad]

theorem takeToken_of_yields {cbs : CbsSession} {trace : Trace}
    (yields : cbs.credentials.Yields messageId cbs.audience trace.tokenRequests claim asked) :
    ∃ token expiresAt, cbs.takeToken trace = (.ok (token, expiresAt), ⟨trace.calls, asked⟩) ∧
      claim = .putToken messageId cbs.credentials.authorizationType cbs.audience token
        expiresAt := by
  cases yields with
  | signature held =>
    rename_i user token
    exact ⟨token, SasToken.expiry token, by simp [takeToken, held],
      by simp [held, Credentials.authorizationType]⟩
  | access held given =>
    rename_i provider flavour access
    exact ⟨access.token, some access.expiresAt,
      by simp [takeToken, held, Trace.requestToken, given],
      by simp [held, Credentials.authorizationType]⟩

theorem takeToken_of_withholds {cbs : CbsSession} {trace : Trace}
    (withholds : cbs.credentials.Withholds trace.tokenRequests reason asked) :
    cbs.takeToken trace = (.error (.credential reason), ⟨trace.calls, asked⟩) := by
  cases withholds with
  | refused held refused => simp [takeToken, held, Trace.requestToken, refused]

theorem present_of_withholds {cbs : CbsSession} {trace : Trace}
    (untold : cbs.slot.settled = false) (around : Surroundings)
    (withholds : cbs.credentials.Withholds trace.tokenRequests reason asked) :
    cbs.present around trace =
      (some (.failed (.credential reason)), cbs.settle, ⟨trace.calls, asked⟩) := by
  simp [present, takeToken_of_withholds withholds, finish_eq untold]

theorem present_of_yields {cbs : CbsSession} {trace : Trace} (untold : cbs.slot.settled = false)
    {around : Surroundings}
    (yields : cbs.credentials.Yields around.messageId cbs.audience trace.tokenRequests claim
      asked) :
    cbs.present around trace =
      match around.engine.refusal trace.calls cbs.sender claim with
      | none => (none, { cbs with phase := .awaitingResponse },
          ⟨trace.calls ++ [.sendClaim cbs.sender claim none], asked⟩)
      | some reason => (some (.failed (.send reason)), cbs.settle,
          ⟨trace.calls ++ [.sendClaim cbs.sender claim (some reason)], asked⟩) := by
  obtain ⟨token, expiresAt, taken, rfl⟩ := takeToken_of_yields yields
  simp only [present, taken, Trace.sendClaim, Trace.record, finish_eq untold]
  cases around.engine.refusal trace.calls cbs.sender _ <;> rfl

end CbsSession

/-- A claims exchange and the trace that it has left. -/
structure Exchange where
  cbs : CbsSession
  trace : Trace

namespace Exchange

/-- Begin an exchange on a session, with nothing asked of the engine or of the provider before. -/
def start (engine : Engine) (session : SessionId) (credentials : Credentials)
    (audience : String) : Exchange :=
  let (cbs, trace) := CbsSession.start engine session credentials audience {}
  ⟨cbs, trace⟩

/-- Hear one notice, and report an outcome if that decides the exchange. -/
def hear (around : Surroundings) (exchange : Exchange) :
    CbsNotice → Option AuthOutcome × Exchange
  | .linkOpen link =>
    let (told, cbs, trace) := exchange.cbs.onLinkOpen around link exchange.trace
    (told, ⟨cbs, trace⟩)
  | .response link status description =>
    let (told, cbs) := exchange.cbs.onResponse link status description
    (told, { exchange with cbs })
  | .closed condition =>
    let (told, cbs) := exchange.cbs.onClosed condition
    (told, { exchange with cbs })

/-- What a notice does to an exchange: the report, and the exchange after it. -/
inductive Turn (around : Surroundings) (exchange : Exchange) :
    CbsNotice → Option AuthOutcome → Exchange → Prop
  | mark (waiting : ¬ exchange.cbs.Completes link) :
      Turn around exchange (.linkOpen link) none
        { exchange with cbs := exchange.cbs.markOpen link }
  | withhold (completes : exchange.cbs.Completes link)
      (withholds : exchange.cbs.credentials.Withholds exchange.trace.tokenRequests reason asked) :
      Turn around exchange (.linkOpen link) (some (.failed (.credential reason)))
        ⟨(exchange.cbs.markOpen link).settle, ⟨exchange.trace.calls, asked⟩⟩
  | send (completes : exchange.cbs.Completes link)
      (yields : exchange.cbs.credentials.Yields around.messageId exchange.cbs.audience
        exchange.trace.tokenRequests claim asked)
      (taken : around.engine.refusal exchange.trace.calls exchange.cbs.sender claim = none) :
      Turn around exchange (.linkOpen link) none
        ⟨{ exchange.cbs.markOpen link with phase := .awaitingResponse },
          ⟨exchange.trace.calls ++ [.sendClaim exchange.cbs.sender claim none], asked⟩⟩
  | bounce (completes : exchange.cbs.Completes link)
      (yields : exchange.cbs.credentials.Yields around.messageId exchange.cbs.audience
        exchange.trace.tokenRequests claim asked)
      (refused : around.engine.refusal exchange.trace.calls exchange.cbs.sender claim =
        some reason) :
      Turn around exchange (.linkOpen link) (some (.failed (.send reason)))
        ⟨(exchange.cbs.markOpen link).settle,
          ⟨exchange.trace.calls ++ [.sendClaim exchange.cbs.sender claim (some reason)], asked⟩⟩
  | disregard (stray : ¬ (link = exchange.cbs.receiver ∧
        exchange.cbs.phase = .awaitingResponse)) :
      Turn around exchange (.response link status description) none exchange
  | answer (awaiting : exchange.cbs.phase = .awaitingResponse) :
      Turn around exchange (.response exchange.cbs.receiver status description)
        (some (CbsSession.outcomeOf status description))
        { exchange with cbs := exchange.cbs.settle }
  | stay (ended : exchange.cbs.phase = .done) :
      Turn around exchange (.closed condition) none exchange
  | close (going : exchange.cbs.phase ≠ .done) :
      Turn around exchange (.closed condition)
        (some (.failed (.linkClosed (condition.getD CbsSession.closedEarly))))
        { exchange with cbs := exchange.cbs.settle }

theorem hear_linkOpen_of_completes {exchange : Exchange} (around : Surroundings)
    (completes : exchange.cbs.Completes link) :
    exchange.hear around (.linkOpen link) =
      (((exchange.cbs.markOpen link).present around exchange.trace).1,
        ⟨((exchange.cbs.markOpen link).present around exchange.trace).2.1,
          ((exchange.cbs.markOpen link).present around exchange.trace).2.2⟩) := by
  have waits : (exchange.cbs.markOpen link).phase = .openingLinks := by
    rw [CbsSession.markOpen_eq]
    exact completes.waits
  simp [hear, CbsSession.onLinkOpen, completes.owns, waits, completes.sender, completes.receiver]

theorem hear_linkOpen_of_not_completes {exchange : Exchange} (around : Surroundings)
    (waiting : ¬ exchange.cbs.Completes link) :
    exchange.hear around (.linkOpen link) =
      (none, { exchange with cbs := exchange.cbs.markOpen link }) := by
  simp only [hear, CbsSession.onLinkOpen]
  split
  · rename_i owns
    rw [if_neg]
    rintro ⟨waits, sender, receiver⟩
    rw [CbsSession.markOpen_eq] at waits
    exact waiting ⟨owns, waits, sender, receiver⟩
  · rename_i foreign
    have apart : link ≠ exchange.cbs.sender ∧ link ≠ exchange.cbs.receiver := by
      simpa [CbsSession.ownsLink] using foreign
    simp [CbsSession.markOpen, apart]

/-- Hearing a notice takes the turn that the notice makes. -/
theorem Turn.hear_eq {exchange : Exchange} (turn : exchange.Turn around notice told next)
    (agrees : exchange.cbs.Agrees) :
    exchange.hear around notice = (told, next) := by
  have marked (link : LinkId) (completes : exchange.cbs.Completes link) :
      (exchange.cbs.markOpen link).slot.settled = false := by
    rw [CbsSession.markOpen_eq]
    exact agrees.untold (by simp [completes.waits])
  cases turn with
  | mark waiting => exact hear_linkOpen_of_not_completes around waiting
  | withhold completes withholds =>
    rw [hear_linkOpen_of_completes around completes,
      CbsSession.present_of_withholds (marked _ completes) around
        (by simpa [CbsSession.markOpen_eq] using withholds)]
  | send completes yields taken =>
    rw [hear_linkOpen_of_completes around completes,
      CbsSession.present_of_yields (marked _ completes)
        (by simpa [CbsSession.markOpen_eq] using yields)]
    simp [CbsSession.markOpen_eq, taken]
  | bounce completes yields refused =>
    rw [hear_linkOpen_of_completes around completes,
      CbsSession.present_of_yields (marked _ completes)
        (by simpa [CbsSession.markOpen_eq] using yields)]
    simp [CbsSession.markOpen_eq, refused]
  | disregard stray => simp [hear, CbsSession.onResponse, stray]
  | answer awaiting =>
    have untold := agrees.untold (by simp [awaiting])
    simp [hear, CbsSession.onResponse, awaiting, CbsSession.finish_eq untold]
  | stay ended => simp [hear, CbsSession.onClosed, ended]
  | close going =>
    simp [hear, CbsSession.onClosed, going, CbsSession.finish_eq (agrees.untold going)]

theorem exists_turn (around : Surroundings) (exchange : Exchange) (notice : CbsNotice) :
    ∃ told next, exchange.Turn around notice told next := by
  cases notice with
  | linkOpen link =>
    by_cases completes : exchange.cbs.Completes link
    · obtain ⟨claim, asked, yields⟩ | ⟨reason, asked, withholds⟩ :=
        Credentials.yields_or_withholds around.messageId exchange.cbs.audience
          exchange.cbs.credentials exchange.trace.tokenRequests
      · cases answer : around.engine.refusal exchange.trace.calls exchange.cbs.sender claim with
        | none => exact ⟨_, _, .send completes yields answer⟩
        | some reason => exact ⟨_, _, .bounce completes yields answer⟩
      · exact ⟨_, _, .withhold completes withholds⟩
    · exact ⟨_, _, .mark completes⟩
  | response link status description =>
    by_cases awaited : link = exchange.cbs.receiver ∧ exchange.cbs.phase = .awaitingResponse
    · obtain ⟨rfl, awaiting⟩ := awaited
      exact ⟨_, _, .answer awaiting⟩
    · exact ⟨_, _, .disregard awaited⟩
  | closed condition =>
    by_cases ended : exchange.cbs.phase = .done
    · exact ⟨_, _, .stay ended⟩
    · exact ⟨_, _, .close ended⟩

theorem turn_hear {exchange : Exchange} (agrees : exchange.cbs.Agrees) (around : Surroundings)
    (notice : CbsNotice) :
    exchange.Turn around notice (exchange.hear around notice).1
      (exchange.hear around notice).2 := by
  obtain ⟨told, next, turn⟩ := exists_turn around exchange notice
  rw [turn.hear_eq agrees]
  exact turn

theorem agrees_hear {exchange : Exchange} (agrees : exchange.cbs.Agrees) (around : Surroundings)
    (notice : CbsNotice) : (exchange.hear around notice).2.cbs.Agrees := by
  obtain ⟨told, next, turn⟩ := exists_turn around exchange notice
  rw [turn.hear_eq agrees]
  cases turn with
  | mark waiting => simpa [CbsSession.Agrees, CbsSession.markOpen_eq] using agrees
  | withhold completes withholds => exact CbsSession.agrees_settle _
  | send completes yields taken =>
    have untold := agrees.untold (by simp [completes.waits])
    simp [CbsSession.Agrees, CbsSession.markOpen_eq, untold]
  | bounce completes yields refused => exact CbsSession.agrees_settle _
  | disregard stray => exact agrees
  | answer awaiting => exact CbsSession.agrees_settle _
  | stay ended => exact agrees
  | close going => exact CbsSession.agrees_settle _

theorem Turn.terms {exchange : Exchange} (turn : exchange.Turn around notice told next) :
    next.cbs.terms = exchange.cbs.terms := by
  cases turn <;> simp [CbsSession.terms, CbsSession.settle, CbsSession.markOpen_eq]

/-- Telling an outcome settles an exchange, and nothing else does. -/
theorem isSettled_hear {exchange : Exchange} (agrees : exchange.cbs.Agrees)
    (around : Surroundings) (notice : CbsNotice) :
    (exchange.hear around notice).2.cbs.isSettled =
      (exchange.cbs.isSettled || (exchange.hear around notice).1.isSome) := by
  obtain ⟨told, next, turn⟩ := exists_turn around exchange notice
  rw [turn.hear_eq agrees]
  cases turn <;> simp [CbsSession.isSettled, CbsSession.settle, CbsSession.markOpen_eq]

/-- An exchange that is over reports nothing and calls nothing. -/
theorem Turn.of_done {exchange : Exchange} (ended : exchange.cbs.phase = .done)
    (turn : exchange.Turn around notice told next) : told = none ∧ next.trace = exchange.trace := by
  cases turn with
  | mark | disregard | stay => exact ⟨rfl, rfl⟩
  | withhold completes | send completes | bounce completes => cases ended.symm.trans completes.waits
  | answer awaiting => cases ended.symm.trans awaiting
  | close going => exact absurd ended going

/-- Success is reported for a response on the receiving link that accepts the claim. -/
theorem Turn.of_succeeded {exchange : Exchange}
    (turn : exchange.Turn around notice (some .succeeded) next) :
    exchange.cbs.phase = .awaitingResponse ∧ next.trace = exchange.trace ∧
      ∃ status description, notice = .response exchange.cbs.receiver status description ∧
        (status = 200 ∨ status = 202) := by
  generalize reported : some AuthOutcome.succeeded = told at turn
  cases turn with
  | mark | withhold | send | bounce | disregard | stay | close => cases reported
  | answer awaiting =>
    rename_i status description
    refine ⟨awaiting, rfl, status, description, rfl, ?_⟩
    by_cases good : status = 200 ∨ status = 202
    · exact good
    · rw [CbsSession.outcomeOf_rejected good] at reported
      cases reported

/-- A settled exchange tells nothing more. -/
theorem report_of_settled {exchange : Exchange} (agrees : exchange.cbs.Agrees)
    (settled : exchange.cbs.isSettled = true) (around : Surroundings) (notice : CbsNotice) :
    (exchange.hear around notice).1 = none :=
  ((turn_hear agrees around notice).of_done (agrees.mp settled)).1

/-- Hear notices in order. -/
def hearAll (around : Surroundings) (exchange : Exchange) (notices : List CbsNotice) : Exchange :=
  notices.foldl (fun exchange notice => (exchange.hear around notice).2) exchange

/-- What is reported at each notice. -/
def reports (around : Surroundings) (exchange : Exchange) : List CbsNotice →
    List (Option AuthOutcome)
  | [] => []
  | notice :: more =>
    (exchange.hear around notice).1 :: (exchange.hear around notice).2.reports around more

theorem hearAll_cons (around : Surroundings) (exchange : Exchange) (notice : CbsNotice)
    (more : List CbsNotice) :
    exchange.hearAll around (notice :: more) =
      (exchange.hear around notice).2.hearAll around more := rfl

theorem hearAll_append (around : Surroundings) (exchange : Exchange)
    (first second : List CbsNotice) :
    exchange.hearAll around (first ++ second) =
      (exchange.hearAll around first).hearAll around second :=
  List.foldl_append

theorem agrees_hearAll {exchange : Exchange} (agrees : exchange.cbs.Agrees)
    (around : Surroundings) (notices : List CbsNotice) :
    (exchange.hearAll around notices).cbs.Agrees := by
  induction notices generalizing exchange with
  | nil => exact agrees
  | cons notice rest ih => exact ih (agrees_hear agrees around notice)

theorem terms_hearAll {exchange : Exchange} (agrees : exchange.cbs.Agrees)
    (around : Surroundings) (notices : List CbsNotice) :
    (exchange.hearAll around notices).cbs.terms = exchange.cbs.terms := by
  induction notices generalizing exchange with
  | nil => rfl
  | cons notice rest ih =>
    exact (ih (agrees_hear agrees around notice)).trans (turn_hear agrees around notice).terms

end Exchange

end AmqpHandshake
