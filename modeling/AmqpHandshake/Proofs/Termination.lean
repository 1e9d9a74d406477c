import AmqpHandshake.Proofs.Cooperation
import AmqpHandshake.Proofs.Ledger
import AmqpHandshake.Proofs.WriteOnce
import Mathlib.Data.List.Perm.Subperm

/-! A run ends although its peer feeds it. An event weighs what it can still bring onto the queue,
and what an attempt asks for once only is a reserve that it draws on. Handling an event takes its
weight away, and what the peer answers is paid for out of the reserve. -/
namespace AmqpHandshake

/-- The most that confirms a call. -/
inductive Call.Brings : Call → List Event → Prop
  | connectToHost (host : String) (port : UInt16) :
      Brings (.connectToHost host port) [.connectionBound, .connectionInit]
  | openConnection (containerId : Uuid) :
      Brings (.openConnection containerId) [.connectionRemoteOpen]
  | openSession (session opened : SessionId) :
      Brings (.openSession session) [.sessionRemoteOpen opened]
  | openLink (session : SessionId) (spec : LinkSpec) (link opened : LinkId) :
      Brings (.openLink session spec link) [.linkRemoteOpen opened]
  | sendClaim (link answering : LinkId) (claim : Claim) (refusal description : Option String)
      (status : UInt16) :
      Brings (.sendClaim link claim refusal) [.cbsResponse answering status description]
  | nothing (call : Call) : Brings call []

/-- A peer puts nothing on the queue for a call but what confirms it, and that at most once. -/
def Peer.ConfirmsAtMostOnce (peer : Peer) : Prop :=
  ∀ earlier call, ∃ most, call.Brings most ∧ (peer.reply earlier call).Subperm most

/-- Where all that was supplied has been handled, nobody is left who could put more on the queue. -/
def Peer.Closes (peer : Peer) (held : Bool) (timeoutMs : Nat) (attempt : Attempt)
    (supply : Supply) : Prop :=
  ∀ taken left, Handled peer timeoutMs attempt supply taken left → left.queue = [] →
    left.timed = [] → peer.isGone held (attempt.handleAll peer.around (taken.map Prod.snd)) = true

namespace Script

theorem exists_brings (script : Script) (earlier : List Call) (call : Call) :
    ∃ most, call.Brings most ∧ (script.confirmation earlier call).Subperm most := by
  have either (condition : Bool) (events : List Event) :
      (if condition then events else []).Subperm events := by
    cases condition
    · exact List.nil_subperm
    · exact List.Subperm.refl events
  cases call with
  | connectToHost host port => exact ⟨_, .connectToHost host port, either ..⟩
  | openConnection containerId => exact ⟨_, .openConnection containerId, either ..⟩
  | openSession session => exact ⟨_, .openSession session session, either ..⟩
  | openLink session spec link => exact ⟨_, .openLink session spec link link, either ..⟩
  | sendClaim link claim refusal =>
    cases refusal with
    | some reason => exact ⟨_, .nothing _, List.Subperm.refl []⟩
    | none =>
      simp only [confirmation]
      split
      · exact ⟨_, .sendClaim .., List.Subperm.refl _⟩
      · exact ⟨_, .nothing _, List.Subperm.refl []⟩
  | addTransportLayer | setSaslMechanisms | setTls | setHostname =>
    exact ⟨_, .nothing _, List.Subperm.refl []⟩

/-- Whatever a script leaves out, it confirms no call twice. -/
theorem confirmsAtMostOnce (script : Script) (read : FileReader) (messageId : Uuid) :
    (script.peer read messageId).ConfirmsAtMostOnce := by
  intro earlier call
  obtain ⟨most, brings, confirmed⟩ := script.exists_brings earlier call
  refine ⟨most, brings, List.Subperm.trans ?_ confirmed⟩
  simp only [peer, reply]
  split
  · exact (List.take_sublist ..).subperm
  · exact List.Subperm.refl _

end Script

/-- How many events some events come to. The start of a connection counts twice: each one has the
peer open the connection, which then brings nothing more. -/
def burden (events : List Event) : Nat := events.length + events.count .connectionInit

theorem burden_append (first second : List Event) :
    burden (first ++ second) = burden first + burden second := by
  simp only [burden, List.length_append, List.count_append]
  omega

theorem burden_cons (event : Event) (events : List Event) :
    burden (event :: events) = 1 + [event].count .connectionInit + burden events := by
  simp only [burden, List.length_cons, List.count_cons, List.count_nil]
  omega

theorem burden_le_of_subperm {events most : List Event} (within : events.Subperm most) :
    burden events ≤ burden most := by
  have length := within.length_le
  have count := within.count_le .connectionInit
  simp only [burden]
  omega

/-- How much the answers to a call come to at most. -/
def Call.cost : Call → Nat
  | .connectToHost _ _ => 3
  | .openConnection _ | .openSession _ | .openLink _ _ _ | .sendClaim _ _ _ => 1
  | .addTransportLayer _ | .setSaslMechanisms _ | .setTls _ | .setHostname _ => 0

def cost : List Call → Nat
  | [] => 0
  | call :: more => call.cost + cost more

theorem Call.Brings.burden_le {call : Call} (brings : call.Brings most) :
    burden most ≤ call.cost := by
  cases brings with
  | nothing => exact Nat.zero_le _
  | connectToHost | openConnection | openSession | openLink | sendClaim => exact Nat.le_refl _

theorem Peer.ConfirmsAtMostOnce.burden_replies {peer : Peer} (confirms : peer.ConfirmsAtMostOnce)
    (earlier made : List Call) : burden (peer.replies earlier made) ≤ cost made := by
  induction made generalizing earlier with
  | nil => exact Nat.le_refl 0
  | cons call more ih =>
    obtain ⟨most, brings, within⟩ := confirms earlier call
    have first := Nat.le_trans (burden_le_of_subperm within) brings.burden_le
    have later := ih (earlier ++ [call])
    rw [Peer.replies, burden_append]
    exact Nat.add_le_add first later

theorem cost_dressing (plan : LayerPlan) (context : Option TlsContext) :
    cost (plan.dressing context) = 0 := by
  obtain ⟨webSocket, mechanism, proxy⟩ := plan
  cases webSocket <;> cases proxy <;> rfl

namespace Controller

def mayConnect (controller : Controller) : Bool := controller.endpoint.isNone

def mayBegin (controller : Controller) : Bool := !controller.state.connectionOpened

/-- Whether the claim has not been presented: no exchange has come to that yet. -/
def mayClaim (controller : Controller) : Bool := controller.cbs.all (·.phase = .openingLinks)

def mayServe (controller : Controller) : Bool := controller.serviceLink.isNone

/-- How much the answers to all that is asked for once only can still come to. -/
def reserve (controller : Controller) : Nat :=
  3 * controller.mayConnect.toNat + 3 * controller.mayBegin.toNat + controller.mayClaim.toNat +
    2 * controller.mayServe.toNat

/-- What may not be asked for any more stays so. -/
structure Spends (earlier later : Controller) : Prop where
  connect : later.mayConnect.toNat ≤ earlier.mayConnect.toNat
  begin : later.mayBegin.toNat ≤ earlier.mayBegin.toNat
  claim : later.mayClaim.toNat ≤ earlier.mayClaim.toNat
  serve : later.mayServe.toNat ≤ earlier.mayServe.toNat

theorem Extends.spends {earlier later : Controller} (kept : earlier.Extends later)
    (service : ∀ link, earlier.serviceLink = some link → later.serviceLink = some link) :
    earlier.Spends later := by
  constructor
  · cases held : earlier.endpoint with
    | none => simp [mayConnect, held, Bool.toNat_le]
    | some endpoint => simp [mayConnect, kept.endpoint endpoint held]
  · cases opened : earlier.state.connectionOpened with
    | false => simp [mayBegin, opened, Bool.toNat_le]
    | true => simp [mayBegin, kept.connectionOpened opened]
  · cases held : earlier.cbs with
    | none => simp [mayClaim, held, Bool.toNat_le]
    | some cbs =>
      obtain ⟨next, heldThen, goesOn⟩ := kept.cbs cbs held
      by_cases waiting : next.phase = .openingLinks
      · simp [mayClaim, held, heldThen, waiting, goesOn.waiting waiting]
      · simp [mayClaim, heldThen, waiting]
  · cases held : earlier.serviceLink with
    | none => simp [mayServe, held, Bool.toNat_le]
    | some link => simp [mayServe, service link held]

end Controller

/-- The link that completes an exchange ends its wait, whatever comes of the claim. -/
theorem Exchange.Turn.presents {exchange : Exchange}
    (turn : exchange.Turn around (.linkOpen link) told next)
    (completes : exchange.cbs.Completes link) : next.cbs.phase ≠ .openingLinks := by
  intro waiting
  cases turn with
  | mark incomplete => exact incomplete completes
  | withhold | bounce => cases waiting
  | send => cases waiting

namespace Attempt

variable {attempt : Attempt}

theorem Reached.anchored {around : Surroundings} (reached : Reached around attempt) :
    attempt.Anchored := by
  induction reached with
  | start begun =>
    rw [(start_eq_ok_iff.mp begun).2]
    exact anchored_fresh ..
  | handle earlier event anchored => exact (extends_serve anchored around (.handle event)).1

theorem Reached.spends {around : Surroundings} (reached : Reached around attempt) (event : Event) :
    attempt.controller.Spends (attempt.handle around event).controller := by
  have kept : attempt.controller.Extends (attempt.handle around event).controller :=
    (extends_serve reached.anchored around (.handle event)).2
  have grown := reached.sound.grows (step_handle around attempt event)
  exact kept.spends grown.links.service

/-- A claim is presented once. -/
theorem mayClaim_hear (anchored : attempt.Anchored) (found : attempt.controller.cbs = some cbs)
    (completes : cbs.Completes link) (around : Surroundings) :
    attempt.controller.mayClaim = true ∧
      (attempt.hear around cbs (.linkOpen link)).controller.mayClaim = false := by
  have agrees : (Exchange.mk cbs attempt.trace).cbs.Agrees := anchored.agrees cbs found
  have presented := (Exchange.turn_hear agrees around (.linkOpen link)).presents completes
  constructor
  · simp [Controller.mayClaim, found, completes.waits]
  · simp [Controller.mayClaim, cbs_hear, presented]

/-- An application link is opened once. -/
theorem mayServe_of_accepted {around : Surroundings}
    (accepted : Moment.outcome? around ⟨attempt, event⟩ = some .succeeded)
    (configured : attempt.controller.config.serviceLink = some link)
    (free : attempt.controller.serviceLink = none) :
    (attempt.react around event).controller.mayServe = false := by
  obtain ⟨cbs, found⟩ : ∃ cbs, attempt.controller.cbs = some cbs :=
    Moment.exists_cbs_of_outcome? accepted
  rw [Moment.outcome?_eq found] at accepted
  obtain ⟨notice, heard, told⟩ := Option.bind_eq_some_iff.mp accepted
  rw [react_eq_hear found heard]
  simp only [hear, told]
  generalize Exchange.hear around ⟨cbs, attempt.trace⟩ notice = result
  let granted := (attempt.heard result.2).update Controller.onAuthenticationSucceeded
  have configuredThen : granted.controller.config.serviceLink = some link := configured
  have freeThen : granted.controller.serviceLink = none := free
  have opens : (attempt.heard result.2).accept around (some .succeeded) =
      granted.openServiceLink around := rfl
  rw [opens, openServiceLink_of_free configuredThen freeThen]
  rfl

/-- What the peer may answer to the calls of one event comes out of the reserve, but for the
opening of the connection that each start of a connection asks for. -/
theorem Reached.reserve_handle {around : Surroundings} (reached : Reached around attempt)
    (event : Event) :
    ∃ made, (attempt.handle around event).trace.calls = attempt.trace.calls ++ made ∧
      (attempt.handle around event).controller.reserve + cost made ≤
        attempt.controller.reserve + [event].count .connectionInit := by
  have anchored := reached.anchored
  obtain ⟨connect, begin, claim, serve⟩ := reached.spends event
  cases decided : attempt.controller.verdict with
  | some verdict =>
    rw [handle_decided (Option.isSome_of_eq_some decided)]
    exact ⟨[], (List.append_nil _).symm, Nat.le_add_right ..⟩
  | none =>
    obtain ⟨made, asks, calls⟩ := exists_asks anchored.agrees around event
    rw [handle_undecided decided] at connect begin claim serve ⊢
    refine ⟨made, calls, ?_⟩
    simp only [Controller.reserve]
    -- One summand of the reserve pays for each call that is made once only.
    cases asks with
    | connect nowhere =>
      have before : attempt.controller.mayConnect = true := by
        rw [Controller.mayConnect, nowhere]
        rfl
      have after : (attempt.react around .reactorInit).controller.mayConnect = false :=
        congrArg (·.endpoint.isNone) (channel_onReactorInit nowhere)
      have spent : cost [attempt.controller.config.endpoint.connect] = 3 := rfl
      rw [before, after, spent, Bool.toNat_true, Bool.toNat_false]
      omega
    | dress | bare =>
      rw [cost_dressing]
      omega
    | introduce =>
      have spent : cost [.setHostname attempt.controller.config.hostName,
        .openConnection attempt.controller.containerId] = 1 := rfl
      have started : [Event.connectionInit].count .connectionInit = 1 := rfl
      rw [spent, started]
      omega
    | begin closed =>
      have before : attempt.controller.mayBegin = true := by
        rw [Controller.mayBegin, closed]
        rfl
      have after : (attempt.react around .connectionRemoteOpen).controller.mayBegin = false :=
        congrArg (fun channel : Channel => !channel.connectionOpened)
          (channel_onConnectionRemoteOpen closed around)
      have spent : cost (attempt.newExchange around).opening = 3 := rfl
      rw [before, after, spent, Bool.toNat_true, Bool.toNat_false]
      omega
    | claim found heard completes =>
      obtain ⟨before, after⟩ := mayClaim_hear anchored found completes around
      rw [← react_eq_hear found heard] at after
      simp only [cost, Call.cost]
      rw [before, after, Bool.toNat_true, Bool.toNat_false]
      omega
    | @serve _ link accepted configured free =>
      have before : attempt.controller.mayServe = true := by
        rw [Controller.mayServe, free]
        rfl
      have after := mayServe_of_accepted accepted configured free
      have spent : cost (attempt.serving around link) = 2 := rfl
      rw [before, after, spent, Bool.toNat_true, Bool.toNat_false]
      omega
    | nothing =>
      have spent : cost [] = 0 := rfl
      rw [spent]
      omega

end Attempt

namespace Supply

/-- All events that are still to come, unless the peer answers with more. -/
def events (supply : Supply) : List Event := supply.queue ++ supply.timed.map Prod.snd

theorem events_release (supply : Supply) : supply.release.events = supply.events := by
  unfold release
  split
  · rename_i empty coming
    rw [events, events, empty, List.nil_append, ← List.map_append, List.takeWhile_append_dropWhile]
  · rfl

theorem events_of_next? {supply : Supply} (next : supply.next? = some (event, rest)) :
    supply.events = event :: rest.events := by
  rw [← events_release]
  unfold next? at next
  split at next
  · rename_i first others waiting
    cases next
    rw [events, waiting]
    rfl
  · cases next

theorem burden_events_append (supply : Supply) (answers : List Event) :
    burden (supply.append answers).events = burden supply.events + burden answers := by
  simp only [events, append, burden_append]
  omega

end Supply

/-- Handling events takes away from what is to come and from the reserve at least one for each. -/
theorem Handled.length_add_le {peer : Peer} (confirms : peer.ConfirmsAtMostOnce)
    (reached : Attempt.Reached peer.around attempt)
    (handled : Handled peer timeoutMs attempt supply taken left) :
    taken.length + burden left.events +
        (attempt.handleAll peer.around (taken.map Prod.snd)).controller.reserve ≤
      burden supply.events + attempt.controller.reserve := by
  induction taken generalizing attempt supply with
  | nil =>
    cases handled.delivered
    rw [List.length_nil, Nat.zero_add]
    exact Nat.le_refl _
  | cons arrival taken ih =>
    obtain ⟨_, _, rest, next, _, later⟩ := Handled.cons_iff.mp handled
    obtain ⟨made, calls, spent⟩ := reached.reserve_handle arrival.2
    have answered : burden (peer.answers attempt arrival.2) ≤ cost made := by
      rw [Peer.answers, calls, List.drop_left]
      exact confirms.burden_replies attempt.trace.calls made
    have goesOn := ih (reached.handle arrival.2) later
    rw [Supply.burden_events_append] at goesOn
    rw [Supply.events_of_next? next, burden_cons, List.map_cons, Attempt.handleAll_cons,
      List.length_cons]
    omega

/-- A valid configuration and a peer that confirms each call at most once: of a number of events
that are queued or come in time, a run handles at most nine more, and one more for each start of a
connection among them. With a deadline, or with a queue that closes, it ends by that. -/
theorem establish_terminates {peer : Peer} (confirms : peer.ConfirmsAtMostOnce)
    (begun : Attempt.start config containerId = .ok attempt) (feed : Feed) (timeoutMs : Nat) :
    let supplied := feed.queued ++ feed.timed.map Prod.snd
    let most := supplied.length + supplied.count .connectionInit + 9
    (∀ taken left, Handled peer timeoutMs attempt (.ofFeed feed) taken left →
      taken.length ≤ most) ∧
    ((timeoutMs < clockLimit * 1000 ∨
        peer.Closes feed.held timeoutMs attempt (.ofFeed feed)) →
      ∃ taken left endMs,
        CutOff peer feed.held timeoutMs attempt (.ofFeed feed) taken left endMs ∧
        taken.length ≤ most ∧
        establish peer config containerId feed timeoutMs =
          some ((attempt.handleAll peer.around (taken.map Prod.snd)).conclusion endMs)) := by
  intro supplied most
  have bounded (taken : List (Nat × Event)) (left : Supply)
      (handled : Handled peer timeoutMs attempt (.ofFeed feed) taken left) :
      taken.length ≤ most := by
    have weighed := handled.length_add_le confirms (.start begun)
    have fresh : attempt.controller.reserve = 9 := by
      rw [(Attempt.start_eq_ok_iff.mp begun).2]
      rfl
    have total : burden (Supply.ofFeed feed).events + 9 = most := rfl
    omega
  refine ⟨bounded, fun ends => ?_⟩
  have start : ¬ Overdue timeoutMs (Supply.ofFeed feed).now := not_overdue_zero timeoutMs
  rcases cutOff_or_endless peer feed.held attempt start with
    ⟨taken, left, endMs, cut⟩ | ⟨taken, left, handled, stuck⟩ | endless
  · have few := bounded taken left cut.toHandled
    refine ⟨taken, left, endMs, cut, few, establishWithin?_of_enough begun cut ?_⟩
    have starts : supplied.count .connectionInit ≤ supplied.length := List.count_le_length
    have split : supplied.length = feed.queued.length + feed.timed.length := by simp [supplied]
    simp only [Feed.turns]
    omega
  · rcases ends with deadline | closes
    · exact absurd deadline stuck.unbounded
    · have gone := closes taken left handled stuck.empty stuck.spent
      rw [stuck.opened] at gone
      cases gone
  · obtain ⟨taken, left, handled, length⟩ := endless (most + 1)
    have few := bounded taken left handled
    omega

/-- The start of the reactor alone, with a peer that confirms everything: ten events are handled,
which is one and nine more. -/
theorem establish_terminates_at_ten :
    let peer := ({} : Script).peer Sample.around.read ⟨0⟩
    (∃ taken left, taken.length = 10 ∧
      Handled peer 0 Sample.start (.ofFeed ⟨[.reactorInit], [], true⟩) taken left) ∧
    ∃ taken left endMs,
      CutOff peer true 0 Sample.start (.ofFeed ⟨[.reactorInit], [], true⟩) taken left endMs ∧
      taken.length ≤ 10 ∧
      establish peer Sample.config ⟨0⟩ ⟨[.reactorInit], [], true⟩ 0 =
        some ((Sample.start.handleAll peer.around (taken.map Prod.snd)).conclusion endMs) := by
  intro peer
  have cooperates : Script.Cooperates {} 200 :=
    ⟨rfl, rfl, rfl, rfl, rfl, rfl, rfl, rfl, rfl, .inl rfl, by decide⟩
  have confirms : peer.ConfirmsAtMostOnce :=
    Script.confirmsAtMostOnce {} Sample.around.read ⟨0⟩
  have yields : Sample.config.credentials.Yields ⟨0⟩ Sample.config.hostName [] _ _ :=
    .signature rfl
  have connects : peer.Drains Sample.start [.reactorInit] 3 _ _ :=
    cooperates.drains_connecting rfl rfl
  have drains := connects.trans
    ((cooperates.drains_exchanging yields).trans (cooperates.drains_serving rfl))
  constructor
  · obtain ⟨taken, ten, handled, _⟩ := drains.handled 0
    exact ⟨taken, _, ten, handled⟩
  · exact (establish_terminates confirms Sample.begun ⟨[.reactorInit], [], true⟩ 0).2
      (.inl (by decide))

end AmqpHandshake
