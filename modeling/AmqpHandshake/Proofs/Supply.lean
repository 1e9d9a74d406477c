import AmqpHandshake.Establish.Run
import AmqpHandshake.Proofs.History

/-! Handling the events of a supply in order, up to a cut-off. The order and the times of the events
are those of the supply and of the peer's answers alone; the cut-off is the first event that settles
the attempt, or the point where nothing more comes in time. -/
namespace AmqpHandshake

/-- The events that are still to come, unless the peer answers with more. -/
structure Supply where
  now : Nat
  queue : List Event
  timed : List (Nat × Event)

namespace Supply

/-- What a feed supplies at the start. -/
def ofFeed (feed : Feed) : Supply := ⟨0, feed.queued, feed.timed⟩

/-- With nothing on the queue, time goes on to the next arrival. All events of that time come on
the queue at once. -/
def release (supply : Supply) : Supply :=
  match supply.queue, supply.timed with
  | [], (arrival, _) :: _ =>
    { now := max supply.now arrival
      queue := (supply.timed.takeWhile (·.1 = arrival)).map Prod.snd
      timed := supply.timed.dropWhile (·.1 = arrival) }
  | _, _ => supply

/-- The event that comes next, and what is still to come behind it. -/
def next? (supply : Supply) : Option (Event × Supply) :=
  match supply.release.queue with
  | event :: rest => some (event, { supply.release with queue := rest })
  | [] => none

/-- Put answers on the queue. -/
def append (supply : Supply) (answers : List Event) : Supply :=
  { supply with queue := supply.queue ++ answers }

end Supply

/-- What the peer puts on the queue when an attempt handles an event. -/
def Peer.answers (peer : Peer) (attempt : Attempt) (event : Event) : List Event :=
  peer.replies attempt.trace.calls
    ((attempt.handle peer.around event).trace.calls.drop attempt.trace.calls.length)

/-- Some events are handled in the order in which they come, each at its time. -/
inductive Delivery (peer : Peer) : Attempt → Supply → List (Nat × Event) → Supply → Prop
  | nil : Delivery peer attempt supply [] supply
  | cons (next : supply.next? = some (event, rest))
      (later : Delivery peer (attempt.handle peer.around event)
        (rest.append (peer.answers attempt event)) taken left) :
      Delivery peer attempt supply ((rest.now, event) :: taken) left

/-- A time is over when it lies behind the deadline. A timeout beyond the clock sets none. -/
def Overdue (timeoutMs time : Nat) : Prop := timeoutMs < clockLimit * 1000 ∧ timeoutMs < time

/-- Whether nobody is left who could put more on the queue. -/
def Peer.isGone (peer : Peer) (held : Bool) (attempt : Attempt) : Bool :=
  !held && peer.isDone attempt.trace.calls

/-- Why nothing more is handled, and at what time that is known. -/
inductive Ended (peer : Peer) (held : Bool) (timeoutMs : Nat) (attempt : Attempt)
    (left : Supply) : Nat → Prop
  /-- The attempt is settled. -/
  | settled (settled : attempt.controller.isSettled = true) :
      Ended peer held timeoutMs attempt left left.now
  /-- The queue is empty and has closed. -/
  | closed (unsettled : attempt.controller.isSettled = false) (empty : left.queue = [])
      (spent : left.timed = []) (gone : peer.isGone held attempt = true) :
      Ended peer held timeoutMs attempt left left.now
  /-- The queue is empty, and the next arrival lies behind the deadline. -/
  | late (unsettled : attempt.controller.isSettled = false) (empty : left.queue = [])
      (next : left.timed = (arrival, event) :: later) (overdue : Overdue timeoutMs arrival) :
      Ended peer held timeoutMs attempt left timeoutMs
  /-- The queue is empty and stays open, and nothing comes up to the deadline. -/
  | expired (unsettled : attempt.controller.isSettled = false) (empty : left.queue = [])
      (spent : left.timed = []) (opened : peer.isGone held attempt = false)
      (bounded : timeoutMs < clockLimit * 1000) : Ended peer held timeoutMs attempt left timeoutMs

/-- Nothing is there, nothing will come, and no deadline ends the wait for it. -/
structure Stuck (peer : Peer) (held : Bool) (timeoutMs : Nat) (attempt : Attempt)
    (left : Supply) : Prop where
  unsettled : attempt.controller.isSettled = false
  empty : left.queue = []
  spent : left.timed = []
  opened : peer.isGone held attempt = false
  unbounded : ¬ timeoutMs < clockLimit * 1000

/-- Events are handled in order, each in time and each by an attempt that is not settled. -/
structure Handled (peer : Peer) (timeoutMs : Nat) (attempt : Attempt) (supply : Supply)
    (taken : List (Nat × Event)) (left : Supply) : Prop where
  delivered : Delivery peer attempt supply taken left
  unsettled : ∀ moment ∈ attempt.history peer.around (taken.map Prod.snd),
    moment.attempt.controller.isSettled = false
  punctual : ∀ arrival ∈ taken, ¬ Overdue timeoutMs arrival.1

/-- Nothing ends a run: it gets stuck, or it handles more events than any number. -/
def Endless (peer : Peer) (held : Bool) (timeoutMs : Nat) (attempt : Attempt)
    (supply : Supply) : Prop :=
  (∃ taken left, Handled peer timeoutMs attempt supply taken left ∧
    Stuck peer held timeoutMs (attempt.handleAll peer.around (taken.map Prod.snd)) left) ∨
  ∀ count, ∃ taken left, Handled peer timeoutMs attempt supply taken left ∧ taken.length = count

/-- The events that a run handles, and the time when it ends: nothing more is to be handled. -/
structure CutOff (peer : Peer) (held : Bool) (timeoutMs : Nat) (attempt : Attempt)
    (supply : Supply) (taken : List (Nat × Event)) (left : Supply) (endMs : Nat) : Prop extends
    Handled peer timeoutMs attempt supply taken left where
  ended : Ended peer held timeoutMs (attempt.handleAll peer.around (taken.map Prod.snd)) left endMs

/-- What an attempt that has ended at a time comes to. -/
def Attempt.conclusion (attempt : Attempt) (endMs : Nat) : Establishment where
  result := attempt.verify.1.map fun _ =>
    { endpoint := attempt.controller.endpoint
      containerId := attempt.controller.containerId
      authenticated := attempt.controller.authenticated
      elapsedMs := endMs }
  waitedMs := endMs
  trace := attempt.trace

theorem not_overdue_max (first : ¬ Overdue timeoutMs now) (second : ¬ Overdue timeoutMs arrival) :
    ¬ Overdue timeoutMs (max now arrival) := by
  simp only [Overdue] at *
  omega

theorem not_overdue_zero (timeoutMs : Nat) : ¬ Overdue timeoutMs 0 :=
  fun overdue => Nat.not_lt_zero _ overdue.2

namespace Supply

theorem next?_of_queue {supply : Supply} (waiting : supply.queue = event :: rest) :
    supply.next? = some (event, { supply with queue := rest }) := by
  have same : supply.release = supply := by simp [release, waiting]
  simp [next?, same, waiting]

/-- Time has gone on to an arrival, of which the first event is on the queue. -/
theorem release_of_timed {supply : Supply} (empty : supply.queue = [])
    (next : supply.timed = (arrival, event) :: later) :
    supply.release.now = max supply.now arrival ∧
      ∃ rest, supply.release.queue = event :: rest := by
  simp [release, empty, next]

theorem next?_of_timed {supply : Supply} (empty : supply.queue = [])
    (next : supply.timed = (arrival, event) :: later) :
    ∃ rest, supply.next? = some (event, rest) ∧ rest.now = max supply.now arrival := by
  obtain ⟨now, rest, waiting⟩ := release_of_timed empty next
  exact ⟨{ supply.release with queue := rest }, by simp [next?, waiting], now⟩

theorem next?_of_empty {supply : Supply} (empty : supply.queue = []) (spent : supply.timed = []) :
    supply.next? = none := by
  simp [next?, release, empty, spent]

theorem next?_of_release {supply : Supply} (empty : supply.queue = [])
    (next : supply.timed = (arrival, event) :: later) :
    supply.release.next? = supply.next? := by
  obtain ⟨_, rest, waiting⟩ := release_of_timed empty next
  rw [next?_of_queue waiting]
  simp [next?, waiting]

end Supply

/-- Nothing ends with an event on the queue but a settled attempt. -/
theorem Ended.not_of_queue {left : Supply} (unsettled : attempt.controller.isSettled = false)
    (waiting : left.queue = event :: rest) : ¬ Ended peer held timeoutMs attempt left endMs := by
  intro ended
  cases ended with
  | settled settled =>
    rw [settled] at unsettled
    cases unsettled
  | closed _ empty | late _ empty | expired _ empty =>
    rw [empty] at waiting
    cases waiting

/-- Nothing ends before an arrival that is in time but a settled attempt. -/
theorem Ended.not_of_timed {left : Supply} (unsettled : attempt.controller.isSettled = false)
    (next : left.timed = (arrival, event) :: later) (punctual : ¬ Overdue timeoutMs arrival) :
    ¬ Ended peer held timeoutMs attempt left endMs := by
  intro ended
  cases ended with
  | settled settled =>
    rw [settled] at unsettled
    cases unsettled
  | closed _ _ spent | expired _ _ spent =>
    rw [spent] at next
    cases next
  | late _ _ first overdue =>
    rw [first] at next
    cases next
    exact punctual overdue

theorem Handled.nil {peer : Peer} {attempt : Attempt} {supply : Supply} :
    Handled peer timeoutMs attempt supply [] supply :=
  ⟨.nil, List.forall_mem_nil _, List.forall_mem_nil _⟩

/-- Handling events goes on behind the first of them with what the attempt and the supply then
are. -/
theorem Handled.cons_iff : Handled peer timeoutMs attempt supply (arrival :: taken) left ↔
    attempt.controller.isSettled = false ∧ ¬ Overdue timeoutMs arrival.1 ∧
      ∃ rest, supply.next? = some (arrival.2, rest) ∧ arrival.1 = rest.now ∧
        Handled peer timeoutMs (attempt.handle peer.around arrival.2)
          (rest.append (peer.answers attempt arrival.2)) taken left := by
  constructor
  · intro handled
    obtain ⟨unsettled, unsettledLater⟩ := List.forall_mem_cons.mp handled.unsettled
    obtain ⟨punctual, punctualLater⟩ := List.forall_mem_cons.mp handled.punctual
    refine ⟨unsettled, punctual, ?_⟩
    cases handled.delivered with
    | cons next later => exact ⟨_, next, rfl, later, unsettledLater, punctualLater⟩
  · rintro ⟨unsettled, punctual, rest, next, same, handled⟩
    obtain ⟨time, event⟩ := arrival
    cases same
    exact ⟨.cons next handled.delivered, List.forall_mem_cons.mpr ⟨unsettled, handled.unsettled⟩,
      List.forall_mem_cons.mpr ⟨punctual, handled.punctual⟩⟩

namespace CutOff

theorem nil_iff : CutOff peer held timeoutMs attempt supply [] left endMs ↔
    left = supply ∧ Ended peer held timeoutMs attempt supply endMs := by
  constructor
  · intro cut
    cases cut.delivered
    exact ⟨rfl, cut.ended⟩
  · rintro ⟨rfl, ended⟩
    exact ⟨.nil, ended⟩

theorem cons_iff : CutOff peer held timeoutMs attempt supply (arrival :: taken) left endMs ↔
    attempt.controller.isSettled = false ∧ ¬ Overdue timeoutMs arrival.1 ∧
      ∃ rest, supply.next? = some (arrival.2, rest) ∧ arrival.1 = rest.now ∧
        CutOff peer held timeoutMs (attempt.handle peer.around arrival.2)
          (rest.append (peer.answers attempt arrival.2)) taken left endMs := by
  constructor
  · intro cut
    obtain ⟨unsettled, punctual, rest, next, same, handled⟩ := Handled.cons_iff.mp cut.toHandled
    exact ⟨unsettled, punctual, rest, next, same, handled, cut.ended⟩
  · rintro ⟨unsettled, punctual, rest, next, same, cut⟩
    exact ⟨Handled.cons_iff.mpr ⟨unsettled, punctual, rest, next, same, cut.toHandled⟩, cut.ended⟩

/-- Waiting for an arrival handles nothing. -/
theorem release_iff (unsettled : attempt.controller.isSettled = false) {supply : Supply}
    (empty : supply.queue = []) (next : supply.timed = (arrival, event) :: later)
    (punctual : ¬ Overdue timeoutMs arrival) :
    CutOff peer held timeoutMs attempt supply.release taken left endMs ↔
      CutOff peer held timeoutMs attempt supply taken left endMs := by
  cases taken with
  | cons first taken => rw [cons_iff, cons_iff, Supply.next?_of_release empty next]
  | nil =>
    obtain ⟨_, rest, waiting⟩ := Supply.release_of_timed empty next
    constructor
    · intro cut
      exact absurd (nil_iff.mp cut).2 (Ended.not_of_queue unsettled waiting)
    · intro cut
      exact absurd (nil_iff.mp cut).2 (Ended.not_of_timed unsettled next punctual)

end CutOff

/-- What is on the queue comes before all that comes later. -/
theorem Delivery.queue_isPrefix {peer : Peer} {attempt : Attempt} {supply left : Supply}
    (delivered : Delivery peer attempt supply taken left) (empty : left.queue = []) :
    supply.queue <+: taken.map Prod.snd := by
  induction delivered with
  | nil => rw [empty]; exact List.nil_prefix
  | @cons event rest taken left attempt supply next later ih =>
    cases waiting : supply.queue with
    | nil => exact List.nil_prefix
    | cons first others =>
      cases (Supply.next?_of_queue waiting).symm.trans next
      exact List.cons_prefix_cons.mpr ⟨rfl, (List.prefix_append ..).trans (ih empty)⟩

/-- Only a settled attempt leaves events on the queue. -/
theorem Ended.queue_empty {left : Supply} (ended : Ended peer held timeoutMs attempt left endMs)
    (unsettled : attempt.controller.isSettled = false) : left.queue = [] := by
  cases waiting : left.queue with
  | nil => rfl
  | cons event rest => exact absurd ended (Ended.not_of_queue unsettled waiting)

/-- With a timeout beyond the clock, only a closed queue ends the wait of an unsettled attempt. -/
theorem Ended.gone_of_unbounded {left : Supply}
    (ended : Ended peer held timeoutMs attempt left endMs)
    (unsettled : attempt.controller.isSettled = false) (unbounded : clockLimit * 1000 ≤ timeoutMs) :
    peer.isGone held attempt = true := by
  cases ended with
  | settled settled =>
    rw [settled] at unsettled
    cases unsettled
  | closed _ _ _ gone => exact gone
  | late _ _ _ overdue => exact absurd overdue.1 (Nat.not_lt_of_le unbounded)
  | expired _ _ _ _ bounded => exact absurd bounded (Nat.not_lt_of_le unbounded)

/-- At any point nothing more is to be handled, or nothing will ever come, or the next event comes
in time. -/
theorem Ended.or_next (peer : Peer) (held : Bool) {timeoutMs : Nat} (attempt : Attempt)
    {supply : Supply} (punctual : ¬ Overdue timeoutMs supply.now) :
    (∃ endMs, Ended peer held timeoutMs attempt supply endMs) ∨
      Stuck peer held timeoutMs attempt supply ∨
      attempt.controller.isSettled = false ∧ ∃ event rest,
        supply.next? = some (event, rest) ∧ ¬ Overdue timeoutMs rest.now := by
  cases settled : attempt.controller.isSettled with
  | true => exact .inl ⟨_, .settled settled⟩
  | false =>
    cases waiting : supply.queue with
    | cons event rest =>
      exact .inr (.inr ⟨rfl, event, _, Supply.next?_of_queue waiting, punctual⟩)
    | nil =>
      cases coming : supply.timed with
      | cons arrival later =>
        by_cases overdue : Overdue timeoutMs arrival.1
        · exact .inl ⟨_, .late settled waiting coming overdue⟩
        · obtain ⟨rest, next, now⟩ := Supply.next?_of_timed waiting coming
          refine .inr (.inr ⟨rfl, arrival.2, rest, next, ?_⟩)
          rw [now]
          exact not_overdue_max punctual overdue
      | nil =>
        cases gone : peer.isGone held attempt with
        | true => exact .inl ⟨_, .closed settled waiting coming gone⟩
        | false =>
          by_cases bounded : timeoutMs < clockLimit * 1000
          · exact .inl ⟨_, .expired settled waiting coming gone bounded⟩
          · exact .inr (.inl ⟨settled, waiting, coming, gone, bounded⟩)

/-- Up to any number of events there is a cut-off, or a run gets stuck, or it handles that many. -/
theorem cutOff_or_stuck_or_handled (peer : Peer) (held : Bool) {timeoutMs : Nat}
    (attempt : Attempt) {supply : Supply} (punctual : ¬ Overdue timeoutMs supply.now)
    (count : Nat) :
    (∃ taken left endMs, CutOff peer held timeoutMs attempt supply taken left endMs) ∨
      (∃ taken left, Handled peer timeoutMs attempt supply taken left ∧
        Stuck peer held timeoutMs (attempt.handleAll peer.around (taken.map Prod.snd)) left) ∨
      ∃ taken left, Handled peer timeoutMs attempt supply taken left ∧ taken.length = count := by
  induction count generalizing attempt supply with
  | zero => exact .inr (.inr ⟨[], supply, .nil, rfl⟩)
  | succ count ih =>
    rcases Ended.or_next peer held attempt punctual with
      ⟨endMs, ended⟩ | stuck | ⟨unsettled, event, rest, next, inTime⟩
    · exact .inl ⟨[], supply, endMs, CutOff.nil_iff.mpr ⟨rfl, ended⟩⟩
    · exact .inr (.inl ⟨[], supply, .nil, stuck⟩)
    · have inTimeThen : ¬ Overdue timeoutMs (rest.append (peer.answers attempt event)).now := inTime
      rcases ih (attempt.handle peer.around event) inTimeThen with
        ⟨taken, left, endMs, cut⟩ | ⟨taken, left, handled, stuck⟩ | ⟨taken, left, handled, length⟩
      · exact .inl ⟨(rest.now, event) :: taken, left, endMs,
          CutOff.cons_iff.mpr ⟨unsettled, inTime, rest, next, rfl, cut⟩⟩
      · exact .inr (.inl ⟨(rest.now, event) :: taken, left,
          Handled.cons_iff.mpr ⟨unsettled, inTime, rest, next, rfl, handled⟩, stuck⟩)
      · exact .inr (.inr ⟨(rest.now, event) :: taken, left,
          Handled.cons_iff.mpr ⟨unsettled, inTime, rest, next, rfl, handled⟩,
          congrArg Nat.succ length⟩)

theorem cutOff_or_endless (peer : Peer) (held : Bool) {timeoutMs : Nat} (attempt : Attempt)
    {supply : Supply} (punctual : ¬ Overdue timeoutMs supply.now) :
    (∃ taken left endMs, CutOff peer held timeoutMs attempt supply taken left endMs) ∨
      Endless peer held timeoutMs attempt supply := by
  refine Classical.or_iff_not_imp_left.mpr fun noCutOff => ?_
  refine Classical.or_iff_not_imp_left.mpr fun neverStuck count => ?_
  rcases cutOff_or_stuck_or_handled peer held attempt punctual count with cut | stuck | handled
  · exact absurd cut noCutOff
  · exact absurd stuck neverStuck
  · exact handled

/-- Where a run is to end, no event is to come next in time. -/
theorem Ended.not_next {supply : Supply} (ended : Ended peer held timeoutMs attempt supply endMs)
    (unsettled : attempt.controller.isSettled = false)
    (next : supply.next? = some (event, rest)) : Overdue timeoutMs rest.now := by
  have empty := ended.queue_empty unsettled
  cases ended with
  | settled settled =>
    rw [settled] at unsettled
    cases unsettled
  | late _ _ coming overdue =>
    obtain ⟨after, found, now⟩ := Supply.next?_of_timed empty coming
    cases found.symm.trans next
    rw [now]
    exact ⟨overdue.1, Nat.lt_of_lt_of_le overdue.2 (Nat.le_max_right ..)⟩
  | closed _ _ spent | expired _ _ spent =>
    rw [Supply.next?_of_empty empty spent] at next
    cases next

theorem Stuck.not_ended (stuck : Stuck peer held timeoutMs attempt left) :
    ¬ Ended peer held timeoutMs attempt left endMs := by
  intro ended
  cases ended with
  | settled settled =>
    rw [stuck.unsettled] at settled
    cases settled
  | closed _ _ _ gone =>
    rw [stuck.opened] at gone
    cases gone
  | late _ _ coming =>
    rw [stuck.spent] at coming
    cases coming
  | expired _ _ _ _ bounded => exact stuck.unbounded bounded

/-- Whatever is handled comes before the cut-off, which stays where it is. -/
theorem CutOff.behind (cut : CutOff peer held timeoutMs attempt supply taken left endMs)
    (handled : Handled peer timeoutMs attempt supply earlier between) :
    ∃ later, taken = earlier ++ later ∧ CutOff peer held timeoutMs
      (attempt.handleAll peer.around (earlier.map Prod.snd)) between later left endMs := by
  induction earlier generalizing attempt supply taken with
  | nil =>
    cases handled.delivered
    exact ⟨taken, rfl, cut⟩
  | cons arrival earlier ih =>
    obtain ⟨unsettled, inTime, rest, next, time, handled⟩ := Handled.cons_iff.mp handled
    cases taken with
    | nil =>
      rw [time] at inTime
      exact absurd ((nil_iff.mp cut).2.not_next unsettled next) inTime
    | cons first taken =>
      obtain ⟨_, _, restToo, nextToo, timeToo, cut⟩ := cons_iff.mp cut
      obtain ⟨event, same⟩ := Prod.mk.inj (Option.some.inj (nextToo.symm.trans next))
      subst same
      rw [event] at cut
      obtain ⟨later, split, cut⟩ := ih cut handled
      exact ⟨later, List.cons_eq_cons.mpr ⟨Prod.ext (timeToo.trans time.symm) event, split⟩, cut⟩

theorem CutOff.not_endless (cut : CutOff peer held timeoutMs attempt supply taken left endMs) :
    ¬ Endless peer held timeoutMs attempt supply := by
  rintro (⟨earlier, between, handled, stuck⟩ | endless)
  · obtain ⟨later, _, cut⟩ := cut.behind handled
    cases later with
    | nil => exact stuck.not_ended (nil_iff.mp cut).2
    | cons arrival later =>
      obtain ⟨_, _, rest, next, _⟩ := cons_iff.mp cut
      rw [Supply.next?_of_empty stuck.empty stuck.spent] at next
      cases next
  · obtain ⟨earlier, between, handled, length⟩ := endless (taken.length + 1)
    obtain ⟨later, split, _⟩ := cut.behind handled
    rw [split, List.length_append] at length
    omega

end AmqpHandshake
