import AmqpHandshake.Proofs.FirstDecision
import AmqpHandshake.Proofs.History

/-! A claims exchange presents its token exactly when both of its links are up: nothing is asked of
the engine or of the token provider before, all of it in the one call that confirms the second
link, and nothing after that. -/
namespace AmqpHandshake

/-- The type that a token of some flavour is put under. -/
inductive AuthorizationType.Types : AuthorizationType → String → Prop
  | signature : Types .sharedAccessSignature "servicebus.windows.net:sastoken"
  | bearer : Types .jsonWebToken "jwt"

theorem AuthorizationType.types_tokenType (flavour : AuthorizationType) :
    flavour.Types flavour.tokenType := by
  cases flavour with
  | sharedAccessSignature => exact .signature
  | jsonWebToken => exact .bearer

/-- The token that credentials give after some requests, with its flavour and its expiry, and the
requests after it. -/
inductive Credentials.Gives (credentials : Credentials) (asked : List TokenRequest) :
    AuthorizationType → String → Option UtcTime → List TokenRequest → Prop
  | signature (held : credentials = .sharedAccessSignature user token) :
      Gives credentials asked .sharedAccessSignature token (SasToken.expiry token) asked
  | access (held : credentials = .tokenProvider provider flavour)
      (given : provider.answer asked ["https://iothubs.azure.net/.default"] = .ok access) :
      Gives credentials asked flavour access.token (some access.expiresAt)
        (asked ++ [["https://iothubs.azure.net/.default"]])

theorem Credentials.Withholds.not_gives {credentials : Credentials}
    (withholds : credentials.Withholds asked reason after) :
    ¬ credentials.Gives asked flavour token expiresAt later := by
  cases withholds with
  | refused held refused =>
    rintro (held' | ⟨held', given⟩)
    · cases held.symm.trans held'
    · cases held.symm.trans held'
      cases refused.symm.trans given

/-- A claim puts the token of some credentials, for an audience. -/
structure Claim.Puts (claim : Claim) (credentials : Credentials) (audience : String)
    (asked after : List TokenRequest) : Prop where
  operation : claim.operation = "put-token"
  replyTo : claim.replyTo = "cbs"
  audience : claim.audience = audience
  token : ∃ flavour, credentials.Gives asked flavour claim.token claim.expiresAt after ∧
    flavour.Types claim.tokenType

theorem Credentials.Yields.puts {credentials : Credentials}
    (yields : credentials.Yields messageId audience asked claim after) :
    claim.Puts credentials audience asked after := by
  cases yields with
  | signature held => exact ⟨rfl, rfl, rfl, _, .signature held, .signature⟩
  | access held given =>
    exact ⟨rfl, rfl, rfl, _, .access held given, AuthorizationType.types_tokenType _⟩

theorem CbsSession.agrees_start (engine : Engine) (session : SessionId) (credentials : Credentials)
    (audience : String) (earlier : Trace) :
    (start engine session credentials audience earlier).1.Agrees := by
  simp [start, Agrees]

namespace Exchange

/-- Begin an exchange on a session, behind all that was asked before it. -/
def startBehind (engine : Engine) (session : SessionId) (credentials : Credentials)
    (audience : String) (earlier : Trace) : Exchange :=
  let (cbs, trace) := CbsSession.start engine session credentials audience earlier
  ⟨cbs, trace⟩

variable {around : Surroundings} {begun exchange next : Exchange} {heard : List CbsNotice}

/-- What has been asked for once a token of some credentials is presented for an audience, on a
link and behind all that was asked before, or once no token is given. -/
inductive Presented (around : Surroundings) (credentials : Credentials) (audience : String)
    (sender : LinkId) (before : Trace) : Trace → Prop
  | sent (puts : claim.Puts credentials audience before.tokenRequests asked)
      (answered : around.engine.refusal before.calls sender claim = refusal) :
      Presented around credentials audience sender before
        ⟨before.calls ++ [.sendClaim sender claim refusal], asked⟩
  | withheld (withholds : credentials.Withholds before.tokenRequests reason asked) :
      Presented around credentials audience sender before ⟨before.calls, asked⟩

/-- An exchange that no longer waits for its links asks for nothing more. -/
theorem Turn.of_left (left : exchange.cbs.phase ≠ .openingLinks)
    (turn : exchange.Turn around notice told next) :
    next.cbs.phase ≠ .openingLinks ∧ next.trace = exchange.trace := by
  cases turn with
  | mark waiting => exact ⟨by simpa [CbsSession.markOpen_eq] using left, rfl⟩
  | withhold completes | send completes | bounce completes => exact absurd completes.waits left
  | disregard | stay => exact ⟨left, rfl⟩
  | answer | close => exact ⟨nofun, rfl⟩

theorem trace_hearAll_of_left (agrees : exchange.cbs.Agrees)
    (left : exchange.cbs.phase ≠ .openingLinks) (around : Surroundings)
    (notices : List CbsNotice) : (exchange.hearAll around notices).trace = exchange.trace := by
  induction notices generalizing exchange with
  | nil => rfl
  | cons notice rest ih =>
    obtain ⟨leftThen, same⟩ := (turn_hear agrees around notice).of_left left
    exact (ih (agrees_hear agrees around notice) leftThen).trans same

/-- How far an exchange has come that has heard no close: it waits for a link and has asked for
nothing, or it has presented its token. -/
inductive Unclosed (around : Surroundings) (begun : Exchange) (heard : List CbsNotice) :
    Exchange → Prop
  | opening (waiting : ¬ begun.cbs.BothOpen heard) :
      Unclosed around begun heard ⟨begun.cbs.noting heard, begun.trace⟩
  | presented {exchange : Exchange} (complete : begun.cbs.BothOpen heard)
      (left : exchange.cbs.phase ≠ .openingLinks)
      (presented : Presented around begun.cbs.credentials begun.cbs.audience begun.cbs.sender
        begun.trace exchange.trace) : Unclosed around begun heard exchange

theorem Unclosed.hear (phase : begun.cbs.phase = .openingLinks)
    (unclosed : Unclosed around begun heard exchange)
    (turn : exchange.Turn around notice told next) (going : ∀ condition, notice ≠ .closed condition) :
    Unclosed around begun (heard ++ [notice]) next := by
  cases unclosed with
  | presented complete left presented =>
    obtain ⟨leftThen, same⟩ := turn.of_left left
    exact .presented (complete.more notice) leftThen (same ▸ presented)
  | opening waiting =>
    have completing {link : LinkId} : (begun.cbs.noting heard).Completes link ↔
        begun.cbs.BothOpen (heard ++ [.linkOpen link]) :=
      CbsSession.completes_noting_iff phase waiting
    cases turn with
    | mark incomplete =>
      rw [← CbsSession.noting_linkOpen]
      exact .opening (mt completing.mpr incomplete)
    | withhold completes withholds =>
      exact .presented (completing.mp completes) nofun (.withheld withholds)
    | send completes yields taken =>
      exact .presented (completing.mp completes) nofun (.sent yields.puts taken)
    | bounce completes yields refused =>
      exact .presented (completing.mp completes) nofun (.sent yields.puts refused)
    | disregard stray =>
      rename_i link status description
      have other : ∀ own, CbsNotice.response link status description ≠ .linkOpen own := nofun
      rw [← CbsSession.noting_other begun.cbs heard other]
      refine .opening fun both => waiting ⟨?_, ?_, both.apart⟩
      · simpa using both.sender
      · simpa using both.receiver
    | answer awaiting => cases phase.symm.trans awaiting
    | stay | close => exact absurd rfl (going _)

theorem Unclosed.hearAll (phase : begun.cbs.phase = .openingLinks)
    (agrees : exchange.cbs.Agrees) (unclosed : Unclosed around begun heard exchange)
    {more : List CbsNotice} (going : ∀ condition, .closed condition ∉ more) :
    Unclosed around begun (heard ++ more) (exchange.hearAll around more) := by
  induction more generalizing heard exchange with
  | nil => simpa [Exchange.hearAll] using unclosed
  | cons notice rest ih =>
    have notClosed (condition : Option ErrorCondition) : notice ≠ .closed condition :=
      fun same => going condition (by simp [same])
    have unclosedThen := unclosed.hear phase (turn_hear agrees around notice) notClosed
    rw [hearAll_cons, List.append_cons]
    exact ih (agrees_hear agrees around notice) unclosedThen fun condition later =>
      going condition (List.mem_cons_of_mem notice later)

theorem unclosed_startBehind (around : Surroundings) (session : SessionId)
    (credentials : Credentials) (audience : String) (earlier : Trace) :
    Unclosed around (startBehind around.engine session credentials audience earlier) []
      (startBehind around.engine session credentials audience earlier) := by
  let begun := startBehind around.engine session credentials audience earlier
  have nothing : begun.cbs.noting [] = begun.cbs := by
    simp [begun, startBehind, CbsSession.start, CbsSession.noting]
  have opening : Unclosed around begun [] ⟨begun.cbs.noting [], begun.trace⟩ :=
    .opening fun both => List.not_mem_nil both.sender
  rwa [nothing] at opening

theorem Unclosed.trace_of_waiting (unclosed : Unclosed around begun heard exchange)
    (waiting : ¬ begun.cbs.BothOpen heard) : exchange.trace = begun.trace := by
  cases unclosed with
  | opening => rfl
  | presented complete => exact absurd complete waiting

theorem Unclosed.presented_of_complete (unclosed : Unclosed around begun heard exchange)
    (complete : begun.cbs.BothOpen heard) :
    exchange.cbs.phase ≠ .openingLinks ∧ Presented around begun.cbs.credentials
      begun.cbs.audience begun.cbs.sender begun.trace exchange.trace := by
  cases unclosed with
  | opening waiting => exact absurd complete waiting
  | presented _ left presented => exact ⟨left, presented⟩

/-- A presentation makes one call, the claim, if there is a token, and no call otherwise. -/
theorem Presented.exists_made {credentials : Credentials} {sender : LinkId} {before after : Trace}
    (presented : Presented around credentials audience sender before after) :
    ∃ made, after.calls = before.calls ++ made ∧
      (made = [] ∨ ∃ claim refusal, made = [.sendClaim sender claim refusal]) ∧
      (made ≠ [] ↔ ∃ flavour token expiresAt asked,
        credentials.Gives before.tokenRequests flavour token expiresAt asked) := by
  cases presented with
  | sent puts answered =>
    obtain ⟨flavour, gives, -⟩ := puts.token
    refine ⟨_, rfl, .inr ⟨_, _, rfl⟩, ?_⟩
    exact ⟨fun _ => ⟨flavour, _, _, _, gives⟩, fun _ => List.cons_ne_nil _ _⟩
  | withheld withholds =>
    refine ⟨[], (List.append_nil _).symm, .inl rfl, ?_⟩
    exact ⟨fun nonempty => absurd rfl nonempty,
      fun ⟨_, _, _, _, gives⟩ => absurd gives withholds.not_gives⟩

/-- However an exchange is begun, it opens a link to send on and one to receive on. In whatever
order it hears confirmations and answers, with no close among them: as long as one link is
unconfirmed, it asks neither the engine nor the token provider for anything. The very notice that
confirms the second link lets it present the token of the credentials that it was given, for the
audience that it was given, and nothing is asked after that. So it makes at most one call, on the
sending link, and makes it exactly if both links are confirmed and there is a token. -/
theorem token_presented_once_both_open (around : Surroundings) (session : SessionId)
    (credentials : Credentials) (audience : String) (earlier : Trace) (notices : List CbsNotice)
    (unclosed : ∀ condition, .closed condition ∉ notices) :
    let begun := startBehind around.engine session credentials audience earlier
    begun.trace = ⟨earlier.calls ++
        [.openLink session ⟨"cbs-sender", "$cbs", .sender⟩ begun.cbs.sender,
          .openLink session ⟨"cbs-receiver", "$cbs", .receiver⟩ begun.cbs.receiver],
      earlier.tokenRequests⟩ ∧
    (∀ heard later, notices = heard ++ later → ¬ begun.cbs.BothOpen heard →
      (begun.hearAll around heard).trace = begun.trace) ∧
    (∀ heard notice later, notices = heard ++ notice :: later → ¬ begun.cbs.BothOpen heard →
      begun.cbs.BothOpen (heard ++ [notice]) →
      Presented around credentials audience begun.cbs.sender begun.trace
          (begun.hearAll around (heard ++ [notice])).trace ∧
        (begun.hearAll around notices).trace =
          (begun.hearAll around (heard ++ [notice])).trace) ∧
    ∃ made, (begun.hearAll around notices).trace.calls = begun.trace.calls ++ made ∧
      (made = [] ∨ ∃ claim refusal, made = [.sendClaim begun.cbs.sender claim refusal]) ∧
      (made ≠ [] ↔ begun.cbs.BothOpen notices ∧
        ∃ flavour token expiresAt after,
          credentials.Gives earlier.tokenRequests flavour token expiresAt after) := by
  intro begun
  have agrees : begun.cbs.Agrees := CbsSession.agrees_start ..
  have stage {heard later : List CbsNotice} (split : notices = heard ++ later) :
      Unclosed around begun heard (begun.hearAll around heard) := by
    refine (unclosed_startBehind ..).hearAll rfl agrees fun condition member => ?_
    exact unclosed condition (split ▸ List.mem_append_left later member)
  refine ⟨?_, ?_, ?_, ?_⟩
  · simp [begun, startBehind, CbsSession.start, Trace.openLink, Trace.record, cbsSenderSpec,
      cbsReceiverSpec, cbsNode]
  · intro heard later split waiting
    exact (stage split).trace_of_waiting waiting
  · intro heard notice later split waiting complete
    have through : notices = (heard ++ [notice]) ++ later := by rw [split, List.append_cons]
    obtain ⟨left, presented⟩ := (stage through).presented_of_complete complete
    refine ⟨presented, ?_⟩
    rw [through, hearAll_append]
    exact trace_hearAll_of_left (agrees_hearAll agrees around _) left around later
  · have ended := stage (List.append_nil notices).symm
    by_cases complete : begun.cbs.BothOpen notices
    · obtain ⟨made, calls, single, sent⟩ := (ended.presented_of_complete complete).2.exists_made
      exact ⟨made, calls, single, sent.trans (and_iff_right complete).symm⟩
    · refine ⟨[], ?_, .inl rfl, ?_⟩
      · rw [ended.trace_of_waiting complete, List.append_nil]
      · exact ⟨fun nonempty => absurd rfl nonempty, fun both => absurd both.1 complete⟩

end Exchange

namespace Sample

def access : AccessToken := ⟨"bearer", 1700000000, by decide, by decide⟩

/-- An exchange with a token provider, on links 1 and 2. -/
def bearing : Exchange :=
  .startBehind around.engine ⟨7⟩ (.tokenProvider (.static access) .jsonWebToken)
    "hub.example.net" {}

def bearerClaim : Claim :=
  ⟨⟨0⟩, "put-token", "jwt", "hub.example.net", "bearer", some access.expiresAt, "cbs"⟩

end Sample

/-- The receiver is confirmed first and twice, with an early answer before and a foreign link
between. The token is asked for and sent when the sender is confirmed, and never again. -/
theorem Exchange.token_presented_to_late_sender :
    let heard : List CbsNotice :=
      [.response ⟨2⟩ 200 none, .linkOpen ⟨2⟩, .linkOpen ⟨9⟩, .linkOpen ⟨2⟩]
    let notices := heard ++ [.linkOpen ⟨1⟩, .linkOpen ⟨2⟩, .response ⟨2⟩ 401 none, .linkOpen ⟨1⟩]
    (∀ condition, .closed condition ∉ notices) ∧
      (Sample.bearing.hearAll Sample.around heard).trace = Sample.bearing.trace ∧
      (Sample.bearing.hearAll Sample.around notices).trace =
        ⟨Sample.bearing.trace.calls ++ [.sendClaim ⟨1⟩ Sample.bearerClaim none], [[hubScope]]⟩ := by
  intro heard notices
  have unclosed : ∀ condition, .closed condition ∉ notices := by simp [notices, heard]
  obtain ⟨_, silent, presents, _⟩ := token_presented_once_both_open Sample.around ⟨7⟩
    (.tokenProvider (.static Sample.access) .jsonWebToken) "hub.example.net" {} notices unclosed
  have waiting : ¬ Sample.bearing.cbs.BothOpen heard :=
    fun both => absurd both.sender (by decide)
  have complete : Sample.bearing.cbs.BothOpen (heard ++ [.linkOpen ⟨1⟩]) :=
    ⟨by decide, by decide, by decide⟩
  have sent : (Sample.bearing.hearAll Sample.around (heard ++ [.linkOpen ⟨1⟩])).trace =
      ⟨Sample.bearing.trace.calls ++ [.sendClaim ⟨1⟩ Sample.bearerClaim none], [[hubScope]]⟩ := by
    decide +kernel
  exact ⟨unclosed, silent heard _ rfl waiting,
    (presents heard _ _ rfl waiting complete).2.trans sent⟩

end AmqpHandshake
