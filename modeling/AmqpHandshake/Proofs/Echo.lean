import AmqpHandshake.Proofs.Dialogue
import AmqpHandshake.Proofs.Ledger

/-! Engines that give the answers once given to some calls. Calls only add up, and with the same
answers an exchange takes the same turns, whatever else is called in between. -/
namespace AmqpHandshake

/-- How the engine took a claim, where a call presented one. -/
def Call.answer? : Call → Option (Option String)
  | .sendClaim _ _ refusal => some refusal
  | _ => none

/-- The answer that calls have got in the place that comes after earlier ones. -/
def Call.answerAfter (answer? : Call → Option α) (calls earlier : List Call) : Option α :=
  (calls.filterMap answer?)[(earlier.filterMap answer?).length]?

theorem Call.answerAfter_of_begun {answer? : Call → Option α} {calls later earlier : List Call}
    (begun : calls <+: later) (found : answerAfter answer? calls earlier = some answer) :
    answerAfter answer? later earlier = some answer := by
  obtain ⟨rest, rfl⟩ := begun
  have inside := (List.getElem?_eq_some_iff.mp found).1
  simp only [answerAfter, List.filterMap_append, List.getElem?_append_left inside]
  exact found

namespace Engine

/-- An engine answers as some calls were answered: each link gets the id of the link attached in
its place, and each claim is taken or refused as the one presented in its place. -/
structure Echoes (alone : Engine) (calls : List Call) : Prop where
  link (earlier : List Call) (session : SessionId) (spec : LinkSpec) (link : LinkId) :
    Call.answerAfter Call.link? calls earlier = some link →
      alone.linkId earlier session spec = link
  claim (earlier : List Call) (link : LinkId) (claim : Claim) (refusal : Option String) :
    Call.answerAfter Call.answer? calls earlier = some refusal →
      alone.refusal earlier link claim = refusal

theorem Echoes.before {alone : Engine} {calls later : List Call} (echoes : alone.Echoes later)
    (begun : calls <+: later) : alone.Echoes calls where
  link _ _ _ _ found := echoes.link _ _ _ _ (Call.answerAfter_of_begun begun found)
  claim _ _ _ _ found := echoes.claim _ _ _ _ (Call.answerAfter_of_begun begun found)

/-- The engine that repeats the answers to some calls. -/
def echo (calls : List Call) : Engine where
  sessionId earlier := (Call.answerAfter Call.session? calls earlier).getD ⟨0⟩
  linkId earlier _ _ := (Call.answerAfter Call.link? calls earlier).getD ⟨0⟩
  refusal earlier _ _ := (Call.answerAfter Call.answer? calls earlier).getD none

theorem echoes_echo (calls : List Call) : (echo calls).Echoes calls where
  link _ _ _ _ found := by simp [echo, found]
  claim _ _ _ _ found := by simp [echo, found]

end Engine

theorem Trace.calls_sendClaim (engine : Engine) (link : LinkId) (claim : Claim) (trace : Trace) :
    trace.calls <+: (trace.sendClaim engine link claim).2.calls :=
  List.prefix_append ..

namespace CbsSession

theorem calls_takeToken (cbs : CbsSession) (trace : Trace) :
    (cbs.takeToken trace).2.calls = trace.calls := by
  unfold takeToken
  split
  · rfl
  · rename_i provider flavour held
    cases given : provider.answer trace.tokenRequests [hubScope] <;>
      simp only [Trace.requestToken, given]

theorem calls_present (around : Surroundings) (cbs : CbsSession) (trace : Trace) :
    trace.calls <+: (cbs.present around trace).2.2.calls := by
  have taken := calls_takeToken cbs trace
  unfold present
  split
  · rename_i later given
    rw [given] at taken
    exact taken ▸ List.prefix_rfl
  · rename_i token expiresAt later given
    rw [given] at taken
    have sent := Trace.calls_sendClaim around.engine cbs.sender
      (.putToken around.messageId cbs.credentials.authorizationType cbs.audience token expiresAt)
      later
    simp only
    split <;> rename_i answer <;> rw [answer] at sent <;> exact taken ▸ sent

end CbsSession

theorem Exchange.calls_hear (around : Surroundings) (exchange : Exchange) (notice : CbsNotice) :
    exchange.trace.calls <+: (exchange.hear around notice).2.trace.calls := by
  cases notice with
  | response | closed => exact List.prefix_rfl
  | linkOpen link =>
    simp only [hear, CbsSession.onLinkOpen]
    split
    · split
      · exact CbsSession.calls_present ..
      · exact List.prefix_rfl
    · exact List.prefix_rfl

namespace Attempt

theorem dialogue_accept (around : Surroundings) (told : Option AuthOutcome) (attempt : Attempt) :
    attempt.trace.dialogue <+: (attempt.accept around told).trace.dialogue := by
  obtain ⟨_, _, _, served, next⟩ := channel_accept_eq around told attempt
  rw [show (attempt.accept around told).trace.dialogue = attempt.trace.dialogue ++ served from
    congrArg Channel.dialogue next]
  exact List.prefix_append ..

theorem dialogue_hear (around : Surroundings) (cbs : CbsSession) (notice : CbsNotice)
    (attempt : Attempt) :
    attempt.trace.dialogue <+: (attempt.hear around cbs notice).trace.dialogue := by
  have heard := (Exchange.calls_hear around ⟨cbs, attempt.trace⟩ notice).filter Call.isDialogue
  simp only [hear]
  generalize Exchange.hear around ⟨cbs, attempt.trace⟩ notice = result at heard ⊢
  exact heard.trans (dialogue_accept around result.1 (attempt.heard result.2))

theorem dialogue_react (around : Surroundings) (attempt : Attempt) (event : Event) :
    attempt.trace.dialogue <+: (attempt.react around event).trace.dialogue := by
  have reaction := reaction_react around attempt event
  generalize attempt.react around event = next at reaction
  cases reaction with
  | connect starts nowhere =>
    have silent : attempt.onReactorInit.trace.dialogue = attempt.trace.dialogue :=
      congrArg Channel.dialogue (channel_onReactorInit nowhere)
    exact silent ▸ List.prefix_rfl
  | begin opens closed =>
    have begun : (attempt.onConnectionRemoteOpen around).trace.dialogue =
        attempt.trace.dialogue ++ (attempt.newExchange around).opening :=
      congrArg Channel.dialogue (channel_onConnectionRemoteOpen closed around)
    exact begun ▸ List.prefix_append ..
  | hear found told =>
    exact dialogue_hear ..
  | apart unheard same =>
    have silent : next.trace.dialogue = attempt.trace.dialogue := congrArg Channel.dialogue same
    exact silent ▸ List.prefix_rfl

/-- Calls only add up. -/
theorem dialogue_handleAll (around : Surroundings) (attempt : Attempt) (events : List Event) :
    attempt.trace.dialogue <+: (attempt.handleAll around events).trace.dialogue := by
  induction events generalizing attempt with
  | nil => exact List.prefix_rfl
  | cons event rest ih =>
    have next : attempt.trace.dialogue <+: (attempt.handle around event).trace.dialogue := by
      unfold handle
      split
      · exact List.prefix_rfl
      · exact dialogue_react around attempt event
    exact next.trans (ih _)

end Attempt

namespace Exchange

/-- What an exchange calls is its claim, and only on leaving its first phase. -/
theorem Turn.exists_made {exchange : Exchange} (turn : exchange.Turn around notice told next) :
    ∃ made, next.trace.calls = exchange.trace.calls ++ made ∧
      (made = [] ∨ exchange.cbs.phase = .openingLinks ∧
        ∃ claim refusal, made = [.sendClaim exchange.cbs.sender claim refusal]) := by
  cases turn with
  | mark | withhold | disregard | answer | stay | close =>
    exact ⟨[], (List.append_nil _).symm, .inl rfl⟩
  | send completes | bounce completes => exact ⟨_, rfl, .inr ⟨completes.waits, _, _, rfl⟩⟩

/-- As long as an exchange waits for its links, it neither tells nor calls anything. -/
theorem Turn.of_waiting {exchange : Exchange} (turn : exchange.Turn around notice told next)
    (waits : next.cbs.phase = .openingLinks) :
    exchange.cbs.phase = .openingLinks ∧ told = none ∧ next.trace = exchange.trace := by
  cases turn with
  | mark =>
    rw [CbsSession.markOpen_eq] at waits
    exact ⟨waits, rfl, rfl⟩
  | disregard | stay => exact ⟨waits, rfl, rfl⟩
  | withhold | send | bounce | answer | close => cases waits

/-- A turn that is taken beside other calls is taken alone, if the engine answers the claim in the
same way. -/
theorem Turn.alone {exchange : Exchange} (turn : exchange.Turn around notice told next)
    (lone : Exchange) (same : lone.cbs = exchange.cbs)
    (asked : lone.trace.tokenRequests = exchange.trace.tokenRequests)
    (calls : next.trace.calls = exchange.trace.calls ++ made)
    (answers : ∀ claim refusal, made = [.sendClaim exchange.cbs.sender claim refusal] →
      engine.refusal lone.trace.calls exchange.cbs.sender claim = refusal) :
    lone.Turn { around with engine } notice told
      ⟨next.cbs, ⟨lone.trace.calls ++ made, next.trace.tokenRequests⟩⟩ := by
  obtain ⟨cbs, earlier, requests⟩ := lone
  obtain rfl : cbs = exchange.cbs := same
  obtain rfl : requests = exchange.trace.tokenRequests := asked
  have silent (quiet : next.trace.calls = exchange.trace.calls) : made = [] := by
    simpa [quiet] using calls
  cases turn with
  | mark waiting =>
    rw [silent rfl, List.append_nil]
    exact .mark waiting
  | withhold completes withholds =>
    rw [silent rfl, List.append_nil]
    exact .withhold completes withholds
  | send completes yields taken =>
    obtain rfl := List.append_cancel_left calls
    exact .send completes yields (answers _ _ rfl)
  | bounce completes yields refused =>
    obtain rfl := List.append_cancel_left calls
    exact .bounce completes yields (answers _ _ rfl)
  | disregard stray =>
    rw [silent rfl, List.append_nil]
    exact .disregard stray
  | answer awaiting =>
    rw [silent rfl, List.append_nil]
    exact .answer awaiting
  | stay ended =>
    rw [silent rfl, List.append_nil]
    exact .stay ended
  | close going =>
    rw [silent rfl, List.append_nil]
    exact .close going

end Exchange

end AmqpHandshake
