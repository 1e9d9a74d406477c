import AmqpHandshake.Proofs.Supply

/-! Running an attempt to its end, turn by turn, is handling the events of its supply up to the
cut-off. -/
namespace AmqpHandshake

theorem deadline?_of_bounded (bounded : timeoutMs < clockLimit * 1000) :
    deadline? timeoutMs = some timeoutMs := if_pos bounded

theorem inTime_deadline?_iff {timeoutMs time : Nat} :
    inTime (deadline? timeoutMs) time = true ↔ ¬ Overdue timeoutMs time := by
  unfold inTime deadline? Overdue
  split
  · rename_i bounded
    simp [bounded]
  · rename_i unbounded
    simp [unbounded]

namespace Run

/-- What is still to come in a run. -/
def supply (run : Run) : Supply := ⟨run.now, run.queue, run.timed⟩

theorem supply_take (peer : Peer) {run : Run} (event : Event) (rest : List Event) :
    (run.take peer event rest).supply =
      ({ run.supply with queue := rest } : Supply).append (peer.answers run.attempt event) := rfl

theorem supply_await {run : Run} (empty : run.queue = [])
    (next : run.timed = (arrival, event) :: later) :
    (run.await arrival).supply = run.supply.release := by
  simp [supply, await, Supply.release, empty, next]

theorem turn_drained {peer : Peer} {held : Bool} {deadline : Option Nat} {run : Run}
    (unsettled : run.attempt.controller.isSettled = false) (empty : run.queue = [])
    (spent : run.timed = []) :
    run.turn peer held deadline = if peer.isGone held run.attempt then .finished run
      else deadline.elim .stuck fun deadline => .finished (run.waitOut deadline) := by
  simp [turn, Peer.isGone, unsettled, empty, spent]

theorem turn_take {peer : Peer} {held : Bool} {deadline : Option Nat} {run : Run}
    (unsettled : run.attempt.controller.isSettled = false) (waiting : run.queue = event :: rest) :
    run.turn peer held deadline = .next (run.take peer event rest) := by
  simp [turn, unsettled, waiting]

theorem turn_await {peer : Peer} {held : Bool} {timeoutMs : Nat} {run : Run}
    (unsettled : run.attempt.controller.isSettled = false) (empty : run.queue = [])
    (next : run.timed = (arrival, event) :: later) (punctual : ¬ Overdue timeoutMs arrival) :
    run.turn peer held (deadline? timeoutMs) = .next (run.await arrival) := by
  simp [turn, unsettled, empty, next, inTime_deadline?_iff.mpr punctual]

/-- Waiting for a deadline that is not spent ends at the deadline. -/
theorem waitOut_now {run : Run} {timeoutMs : Nat} (bounded : timeoutMs < clockLimit * 1000)
    (punctual : ¬ Overdue timeoutMs run.now) : (run.waitOut timeoutMs).now = timeoutMs := by
  have early : run.now ≤ timeoutMs := Nat.le_of_not_lt fun late => punctual ⟨bounded, late⟩
  simp [waitOut, Nat.max_eq_right early]

/-- Where a run is to end, its next turn ends it, at that time and without another event. -/
theorem turn_of_ended {peer : Peer} {held : Bool} {timeoutMs : Nat} {run : Run}
    (punctual : ¬ Overdue timeoutMs run.now)
    (ended : Ended peer held timeoutMs run.attempt run.supply endMs) :
    ∃ final, run.turn peer held (deadline? timeoutMs) = .finished final ∧
      final.now = endMs ∧ final.attempt = run.attempt := by
  cases ended with
  | settled settled => exact ⟨run, by simp [turn, settled], rfl, rfl⟩
  | closed unsettled empty spent gone =>
    exact ⟨run, by rw [turn_drained unsettled empty spent, if_pos gone], rfl, rfl⟩
  | late unsettled empty next overdue =>
    have empty : run.queue = [] := empty
    have next : run.timed = _ :: _ := next
    have behind := mt inTime_deadline?_iff.mp (not_not_intro overdue)
    refine ⟨run.waitOut endMs, ?_, waitOut_now overdue.1 punctual, rfl⟩
    rw [deadline?_of_bounded overdue.1] at behind ⊢
    simp [turn, unsettled, empty, next, behind]
  | expired unsettled empty spent opened bounded =>
    refine ⟨run.waitOut endMs, ?_, waitOut_now bounded punctual, rfl⟩
    simp [turn_drained unsettled empty spent, opened, deadline?_of_bounded bounded]

theorem turn_of_stuck {peer : Peer} {held : Bool} {timeoutMs : Nat} {run : Run}
    (stuck : Stuck peer held timeoutMs run.attempt run.supply) :
    run.turn peer held (deadline? timeoutMs) = .stuck := by
  simp [turn_drained stuck.unsettled stuck.empty stuck.spent, stuck.opened, deadline?,
    stuck.unbounded]

/-- An event that is waited for and comes in time has arrived in time. -/
theorem inTime_of_next? {run : Run} (empty : run.queue = [])
    (coming : run.timed = (arrival, first) :: later)
    (next : run.supply.next? = some (event, rest)) (inTime : ¬ Overdue timeoutMs rest.now) :
    ¬ Overdue timeoutMs arrival := by
  have emptyHere : run.supply.queue = [] := empty
  obtain ⟨after, found, now⟩ := Supply.next?_of_timed emptyHere coming
  cases found.symm.trans next
  simp only [Overdue, now] at inTime ⊢
  omega

/-- What a turn does. -/
inductive Goes (peer : Peer) (held : Bool) (timeoutMs : Nat) (run : Run) : Turn → Prop
  | ends (ended : Ended peer held timeoutMs run.attempt run.supply final.now)
      (same : final.attempt = run.attempt) : Goes peer held timeoutMs run (.finished final)
  | takes (unsettled : run.attempt.controller.isSettled = false)
      (waiting : run.queue = event :: rest) :
      Goes peer held timeoutMs run (.next (run.take peer event rest))
  | awaits (unsettled : run.attempt.controller.isSettled = false) (empty : run.queue = [])
      (next : run.timed = (arrival, event) :: later) (punctual : ¬ Overdue timeoutMs arrival) :
      Goes peer held timeoutMs run (.next (run.await arrival))
  | waits (stuck : Stuck peer held timeoutMs run.attempt run.supply) :
      Goes peer held timeoutMs run .stuck

theorem turn_goes (peer : Peer) (held : Bool) {timeoutMs : Nat} {run : Run}
    (punctual : ¬ Overdue timeoutMs run.now) :
    Goes peer held timeoutMs run (run.turn peer held (deadline? timeoutMs)) := by
  have here : ¬ Overdue timeoutMs run.supply.now := punctual
  rcases Ended.or_next peer held run.attempt here with
    ⟨endMs, ended⟩ | stuck | ⟨unsettled, event, rest, next, inTime⟩
  · obtain ⟨final, turned, rfl, same⟩ := turn_of_ended punctual ended
    exact turned ▸ .ends ended same
  · exact turn_of_stuck stuck ▸ .waits stuck
  · cases waiting : run.queue with
    | cons event rest => exact turn_take unsettled waiting ▸ .takes unsettled waiting
    | nil =>
      cases coming : run.timed with
      | nil =>
        have empty : run.supply.queue = [] := waiting
        rw [Supply.next?_of_empty empty coming] at next
        cases next
      | cons arrival later =>
        have arrived := inTime_of_next? waiting coming next inTime
        exact turn_await unsettled waiting coming arrived ▸ .awaits unsettled waiting coming arrived

/-- A run that ends has handled events up to a cut-off. -/
theorem cutOff_of_finish? {peer : Peer} {held : Bool} {timeoutMs turns : Nat} {run final : Run}
    (punctual : ¬ Overdue timeoutMs run.now)
    (done : run.finish? peer held (deadline? timeoutMs) turns = some final) :
    ∃ taken left,
      CutOff peer held timeoutMs run.attempt run.supply taken left final.now ∧
        final.attempt = run.attempt.handleAll peer.around (taken.map Prod.snd) := by
  induction turns generalizing run with
  | zero => cases done
  | succ turns ih =>
    have goes := turn_goes peer held punctual
    simp only [finish?] at done
    generalize run.turn peer held (deadline? timeoutMs) = turn at done goes
    cases goes with
    | ends ended same =>
      cases done
      exact ⟨[], run.supply, CutOff.nil_iff.mpr ⟨rfl, ended⟩, same⟩
    | @takes event rest unsettled waiting =>
      obtain ⟨taken, left, cut, same⟩ := @ih (run.take peer event rest) punctual done
      have next : run.supply.next? = _ := Supply.next?_of_queue waiting
      exact ⟨(run.now, event) :: taken, left,
        CutOff.cons_iff.mpr ⟨unsettled, punctual, _, next, rfl, cut⟩, same⟩
    | @awaits arrival event later unsettled empty next inTime =>
      obtain ⟨taken, left, cut, same⟩ :=
        @ih (run.await arrival) (not_overdue_max punctual inTime) done
      -- A wait handles nothing: it only puts on the queue what the supply would give next.
      rw [supply_await empty next] at cut
      exact ⟨taken, left, (CutOff.release_iff unsettled empty next inTime).mp cut, same⟩
    | waits => cases done

theorem finish?_take {peer : Peer} {held : Bool} {deadline : Option Nat} {run : Run}
    (unsettled : run.attempt.controller.isSettled = false) (waiting : run.queue = event :: rest)
    (turns : Nat) :
    run.finish? peer held deadline (turns + 1) =
      (run.take peer event rest).finish? peer held deadline turns := by
  rw [finish?, turn_take unsettled waiting]

/-- A run takes the event that comes next, after a wait if the queue is empty. An arrival is waited
for only once. -/
theorem finish?_next {peer : Peer} {held : Bool} {timeoutMs : Nat} {run : Run}
    (unsettled : run.attempt.controller.isSettled = false)
    (next : run.supply.next? = some (event, rest)) (inTime : ¬ Overdue timeoutMs rest.now) :
    ∃ waits, ∃ later : Run, later.attempt = run.attempt.handle peer.around event ∧
      later.supply = rest.append (peer.answers run.attempt event) ∧
      waits + later.timed.length ≤ run.timed.length + 1 ∧
      ∀ turns, run.finish? peer held (deadline? timeoutMs) (turns + waits) =
        later.finish? peer held (deadline? timeoutMs) turns := by
  cases waiting : run.queue with
  | cons first others =>
    have nextHere : run.supply.next? = some (first, { run.supply with queue := others }) :=
      Supply.next?_of_queue waiting
    cases nextHere.symm.trans next
    have counts : 1 + run.timed.length ≤ run.timed.length + 1 := by omega
    exact ⟨1, run.take peer event others, rfl, rfl, counts, finish?_take unsettled waiting⟩
  | nil =>
    cases coming : run.timed with
    | nil =>
      have empty : run.supply.queue = [] := waiting
      rw [Supply.next?_of_empty empty coming] at next
      cases next
    | cons arrival others =>
      obtain ⟨time, first⟩ := arrival
      have arrived := inTime_of_next? waiting coming next inTime
      have empty : run.supply.queue = [] := waiting
      obtain ⟨now, remaining, queued⟩ := Supply.release_of_timed empty coming
      have nextThen := (Supply.next?_of_release empty coming).symm.trans
        (Supply.next?_of_queue queued)
      cases nextThen.symm.trans next
      have released := supply_await waiting coming
      have ready : (run.await time).queue = event :: remaining :=
        (congrArg Supply.queue released).trans queued
      have unsettledStill : (run.await time).attempt.controller.isSettled = false := unsettled
      refine ⟨2, (run.await time).take peer event remaining, rfl, ?_, ?_, fun turns => ?_⟩
      · rw [supply_take, released]
        rfl
      · have shorter := (List.dropWhile_suffix (l := others) (·.1 = time)).length_le
        simp only [take, await, coming, List.length_cons]
        rw [List.dropWhile_cons_of_pos (by simp)]
        omega
      · rw [finish?, turn_await unsettled waiting coming arrived]
        exact finish?_take unsettledStill ready turns

theorem finish?_more {peer : Peer} {held : Bool} {deadline : Option Nat} {turns : Nat}
    {run final : Run} (done : run.finish? peer held deadline turns = some final) (more : Nat) :
    run.finish? peer held deadline (turns + more) = some final := by
  induction turns generalizing run with
  | zero => cases done
  | succ turns ih =>
    rw [Nat.succ_add]
    simp only [finish?] at done ⊢
    generalize run.turn peer held deadline = turn at done ⊢
    cases turn with
    | finished run => exact done
    | next run => exact ih done
    | stuck => cases done

/-- A run with a cut-off ends there, within a turn for each event and one for each arrival. -/
theorem finish?_of_cutOff {peer : Peer} {held : Bool} {timeoutMs : Nat} {run : Run}
    {taken : List (Nat × Event)} (punctual : ¬ Overdue timeoutMs run.now)
    (cut : CutOff peer held timeoutMs run.attempt run.supply taken left endMs) :
    ∃ final, run.finish? peer held (deadline? timeoutMs) (taken.length + run.timed.length + 1) =
        some final ∧ final.now = endMs ∧
      final.attempt = run.attempt.handleAll peer.around (taken.map Prod.snd) := by
  -- Each event takes one turn, or two where it has to be waited for first.
  induction taken generalizing run with
  | nil =>
    obtain ⟨final, turned, ends, same⟩ := turn_of_ended punctual (CutOff.nil_iff.mp cut).2
    exact ⟨final, by rw [finish?, turned], ends, same⟩
  | cons arrival taken ih =>
    obtain ⟨unsettled, inTime, rest, next, time, cut⟩ := CutOff.cons_iff.mp cut
    rw [time] at inTime
    obtain ⟨waits, after, handled, supplied, counts, goesOn⟩ := finish?_next unsettled next inTime
    rw [← handled, ← supplied] at cut
    have punctualThen : ¬ Overdue timeoutMs after.now := by
      rw [show after.now = rest.now from congrArg Supply.now supplied]
      exact inTime
    obtain ⟨final, done, ends, same⟩ := ih punctualThen cut
    refine ⟨final, ?_, ends, ?_⟩
    · have enough := finish?_more ((goesOn _).trans done)
        (run.timed.length + 1 - (waits + after.timed.length))
      rw [← enough, List.length_cons]
      congr 1
      omega
    · rw [same, handled]
      rfl

theorem conclude_eq (run : Run) : run.conclude = run.attempt.conclusion run.now := by
  simp only [conclude, Attempt.conclusion, Attempt.verify, Controller.verify]
  split <;> rfl

end Run

theorem establishWithin?_of_start {peer : Peer} {feed : Feed}
    (begun : Attempt.start config containerId = .ok attempt) (turns timeoutMs : Nat) :
    establishWithin? turns peer config containerId feed timeoutMs =
      ((Run.start attempt feed).finish? peer feed.held (deadline? timeoutMs) turns).map
        Run.conclude := by
  simp only [establishWithin?, begun]

theorem cutOff_of_establishWithin? {peer : Peer} {feed : Feed}
    (begun : Attempt.start config containerId = .ok attempt)
    (done : establishWithin? turns peer config containerId feed timeoutMs = some establishment) :
    ∃ taken left endMs, CutOff peer feed.held timeoutMs attempt (.ofFeed feed) taken left endMs ∧
      establishment = (attempt.handleAll peer.around (taken.map Prod.snd)).conclusion endMs := by
  rw [establishWithin?_of_start begun, Option.map_eq_some_iff] at done
  obtain ⟨final, done, rfl⟩ := done
  obtain ⟨taken, left, cut, same⟩ := Run.cutOff_of_finish? (not_overdue_zero timeoutMs) done
  refine ⟨taken, left, final.now, cut, ?_⟩
  rw [Run.conclude_eq, same]
  rfl

/-- One turn more than events that are handled and arrivals that may be waited for is enough. -/
theorem establishWithin?_of_enough {peer : Peer} {feed : Feed} {taken : List (Nat × Event)}
    (begun : Attempt.start config containerId = .ok attempt)
    (cut : CutOff peer feed.held timeoutMs attempt (.ofFeed feed) taken left endMs)
    (enough : taken.length + feed.timed.length + 1 ≤ turns) :
    establishWithin? turns peer config containerId feed timeoutMs =
      some ((attempt.handleAll peer.around (taken.map Prod.snd)).conclusion endMs) := by
  have here : CutOff peer feed.held timeoutMs (Run.start attempt feed).attempt
      (Run.start attempt feed).supply taken left endMs := cut
  obtain ⟨final, done, rfl, same⟩ := Run.finish?_of_cutOff (not_overdue_zero timeoutMs) here
  obtain ⟨more, rfl⟩ := Nat.exists_eq_add_of_le enough
  have doneHere : (Run.start attempt feed).finish? peer feed.held (deadline? timeoutMs)
      (taken.length + feed.timed.length + 1) = some final := done
  rw [establishWithin?_of_start begun, Run.finish?_more doneHere more, Option.map_some,
    Run.conclude_eq, same]
  rfl

theorem establishWithin?_of_cutOff {peer : Peer} {feed : Feed} {taken : List (Nat × Event)}
    (begun : Attempt.start config containerId = .ok attempt)
    (cut : CutOff peer feed.held timeoutMs attempt (.ofFeed feed) taken left endMs) :
    ∃ enough, ∀ turns ≥ enough,
      establishWithin? turns peer config containerId feed timeoutMs =
        some ((attempt.handleAll peer.around (taken.map Prod.snd)).conclusion endMs) :=
  ⟨_, fun _ enough => establishWithin?_of_enough begun cut enough⟩

/-- An invalid configuration is refused before anything is asked or handled. With a valid one a run
comes to what folding its events up to the cut-off comes to, given enough turns. Unless these
events settle the attempt, all that was queued at the start is among them, and beyond the clock the
wait only ends as nobody is left to put more on the queue. Only a run that nothing ends comes to
nothing. -/
theorem establish_folds_to_cutOff (peer : Peer) (config : ConnectionConfig) (containerId : Uuid)
    (feed : Feed) (timeoutMs : Nat) :
    (∀ error, Attempt.start config containerId = .error error → ∀ turns,
      establishWithin? turns peer config containerId feed timeoutMs = some ⟨.error error, 0, {}⟩) ∧
    ∀ attempt, Attempt.start config containerId = .ok attempt →
      (∀ turns establishment,
        establishWithin? turns peer config containerId feed timeoutMs = some establishment →
        ∃ taken left endMs,
          CutOff peer feed.held timeoutMs attempt (.ofFeed feed) taken left endMs ∧
          establishment =
            (attempt.handleAll peer.around (taken.map Prod.snd)).conclusion endMs) ∧
      (∀ taken left endMs,
        CutOff peer feed.held timeoutMs attempt (.ofFeed feed) taken left endMs →
        (∃ enough, ∀ turns ≥ enough,
          establishWithin? turns peer config containerId feed timeoutMs =
            some ((attempt.handleAll peer.around (taken.map Prod.snd)).conclusion endMs)) ∧
        ((attempt.handleAll peer.around (taken.map Prod.snd)).controller.isSettled = false →
          feed.queued <+: taken.map Prod.snd ∧
            (clockLimit * 1000 ≤ timeoutMs →
              peer.isGone feed.held (attempt.handleAll peer.around (taken.map Prod.snd))))) ∧
      ((∀ turns, establishWithin? turns peer config containerId feed timeoutMs = none) ↔
        Endless peer feed.held timeoutMs attempt (.ofFeed feed)) := by
  refine ⟨fun error failed turns => by rw [establishWithin?, failed], fun attempt begun => ?_⟩
  refine ⟨fun turns establishment done => cutOff_of_establishWithin? begun done,
    fun taken left endMs cut => ⟨establishWithin?_of_cutOff begun cut, fun unsettled => ?_⟩,
    fun never => ?_, fun endless turns => ?_⟩
  · exact ⟨cut.delivered.queue_isPrefix (cut.ended.queue_empty unsettled),
      cut.ended.gone_of_unbounded unsettled⟩
  · have start : ¬ Overdue timeoutMs (Supply.ofFeed feed).now := not_overdue_zero timeoutMs
    rcases cutOff_or_endless peer feed.held attempt start with ⟨taken, left, endMs, cut⟩ | endless
    · obtain ⟨enough, done⟩ := establishWithin?_of_cutOff begun cut
      cases (never enough).symm.trans (done enough Nat.le.refl)
    · exact endless
  · cases done : establishWithin? turns peer config containerId feed timeoutMs with
    | none => rfl
    | some establishment =>
      obtain ⟨_, _, _, cut, _⟩ := cutOff_of_establishWithin? begun done
      exact absurd endless cut.not_endless

/-- A failed claims exchange ends a run at once: the error queued behind it is not handled, while a
timeout of zero leaves all before it to be handled. -/
theorem establish_folds_to_first_failure :
    ∃ enough, ∀ turns ≥ enough,
      establishWithin? turns ⟨Sample.around, fun _ _ => [], fun _ => true⟩ Sample.config ⟨0⟩
        ⟨[.connectionRemoteOpen, .sessionRemoteClose ⟨1⟩ none,
          .transportError ⟨"amqp:internal-error", none⟩], [], false⟩ 0 =
        some ((Sample.start.handleAll Sample.around
          [.connectionRemoteOpen, .sessionRemoteClose ⟨1⟩ none]).conclusion 0) := by
  have cut : CutOff ⟨Sample.around, fun _ _ => [], fun _ => true⟩ false 0 Sample.start
      ⟨0, [.connectionRemoteOpen, .sessionRemoteClose ⟨1⟩ none,
        .transportError ⟨"amqp:internal-error", none⟩], []⟩
      [(0, .connectionRemoteOpen), (0, .sessionRemoteClose ⟨1⟩ none)]
      ⟨0, [.transportError ⟨"amqp:internal-error", none⟩], []⟩ 0 := by
    have inTime := not_overdue_zero 0
    refine CutOff.cons_iff.mpr ⟨rfl, inTime, _, rfl, rfl, ?_⟩
    refine CutOff.cons_iff.mpr ⟨rfl, inTime, _, rfl, rfl, ?_⟩
    exact CutOff.nil_iff.mpr ⟨rfl, .settled rfl⟩
  have folds := (establish_folds_to_cutOff ⟨Sample.around, fun _ _ => [], fun _ => true⟩
    Sample.config ⟨0⟩ ⟨[.connectionRemoteOpen, .sessionRemoteClose ⟨1⟩ none,
      .transportError ⟨"amqp:internal-error", none⟩], [], false⟩ 0).2 Sample.start Sample.begun
  exact (folds.2.1 _ _ _ cut).1

end AmqpHandshake
