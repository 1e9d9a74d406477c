import AmqpHandshake.Controller.Attempt

/-! Running an attempt to its end: events are taken one at a time, until the attempt is settled,
the queue has closed or the time is over. Time is in milliseconds from the start and stands still
while there is something to do. -/
namespace AmqpHandshake

/-- The far end of a run: how the engine answers, and what it puts on the queue for each call. -/
structure Peer where
  around : Surroundings
  /-- The events put on the queue in answer to a call that follows some calls. -/
  reply : (earlier : List Call) → Call → List Event
  /-- Whether no more events will be put on the queue after some calls. -/
  isDone : List Call → Bool

/-- The events put on the queue for calls that follow some calls. -/
def Peer.replies (peer : Peer) (earlier : List Call) : List Call → List Event
  | [] => []
  | call :: more => peer.reply earlier call ++ peer.replies (earlier ++ [call]) more

/-- The events of a run that do not answer anything. -/
structure Feed where
  /-- On the queue before the start. -/
  queued : List Event
  /-- Put on the queue at a time after the start, in order. -/
  timed : List (Nat × Event)
  /-- Whether someone keeps the queue open to the end. -/
  held : Bool

/-- The largest count of seconds that a clock can look ahead. -/
def clockLimit : Nat := Nat.pow 2 63

/-- The deadline of a timeout, unless it is too far ahead to be one. -/
def deadline? (timeoutMs : Nat) : Option Nat :=
  if timeoutMs < clockLimit * 1000 then some timeoutMs else none

/-- A run under way. -/
structure Run where
  now : Nat
  queue : List Event
  timed : List (Nat × Event)
  attempt : Attempt
  taken : List Event

/-- What one turn of a run comes to. -/
inductive Turn
  | finished (run : Run)
  | next (run : Run)
  /-- Nothing will ever come, and no deadline ends the wait. -/
  | stuck

def inTime (deadline : Option Nat) (arrival : Nat) : Bool := deadline.all (arrival ≤ ·)

namespace Run

/-- Take one event. What the engine puts on the queue for it comes last. -/
def take (peer : Peer) (run : Run) (event : Event) (rest : List Event) : Run :=
  let attempt := run.attempt.handle peer.around event
  let earlier := run.attempt.trace.calls
  let answers := peer.replies earlier (attempt.trace.calls.drop earlier.length)
  { run with queue := rest ++ answers, attempt, taken := run.taken ++ [event] }

/-- Wait until an arrival and put all events of that time on the queue. -/
def await (run : Run) (arrival : Nat) : Run :=
  { run with
    now := max run.now arrival
    queue := (run.timed.takeWhile (·.1 = arrival)).map Prod.snd
    timed := run.timed.dropWhile (·.1 = arrival) }

def waitOut (run : Run) (deadline : Nat) : Run := { run with now := max run.now deadline }

/-- One turn. An event on the queue is taken whatever the time is. -/
def turn (peer : Peer) (held : Bool) (deadline : Option Nat) (run : Run) : Turn :=
  if run.attempt.controller.isSettled then .finished run
  else match run.queue, run.timed with
    | event :: rest, _ => .next (run.take peer event rest)
    | [], (arrival, _) :: _ =>
      if inTime deadline arrival then .next (run.await arrival)
      else .finished (deadline.elim run run.waitOut)
    | [], [] =>
      if !held && peer.isDone run.attempt.trace.calls then .finished run
      else deadline.elim .stuck fun deadline => .finished (run.waitOut deadline)

/-- Turns up to the end, if it comes within a number of turns. -/
def finish? (peer : Peer) (held : Bool) (deadline : Option Nat) : Nat → Run → Option Run
  | 0, _ => none
  | turns + 1, run =>
    match run.turn peer held deadline with
    | .finished run => some run
    | .next run => run.finish? peer held deadline turns
    | .stuck => none

end Run

/-- What a successful attempt comes to. -/
structure HandshakeReport where
  endpoint : Option Endpoint
  containerId : Uuid
  authenticated : Bool
  elapsedMs : Nat

/-- How an attempt ended, after how long, and with what trace. -/
structure Establishment where
  result : Except HandshakeError HandshakeReport
  waitedMs : Nat
  trace : Trace

def Run.conclude (run : Run) : Establishment :=
  let (verdict, attempt) := run.attempt.verify
  let report : HandshakeReport :=
    { endpoint := attempt.controller.endpoint, containerId := attempt.controller.containerId
      authenticated := attempt.controller.authenticated, elapsedMs := run.now }
  { result := verdict.map fun _ => report, waitedMs := run.now, trace := attempt.trace }

def Run.start (attempt : Attempt) (feed : Feed) : Run :=
  { now := 0, queue := feed.queued, timed := feed.timed, attempt, taken := [] }

/-- Run an attempt to its end, if that comes within a number of turns. An invalid configuration
ends it before the first call. -/
def establishWithin? (turns : Nat) (peer : Peer) (config : ConnectionConfig) (containerId : Uuid)
    (feed : Feed) (timeoutMs : Nat) : Option Establishment :=
  match Attempt.start config containerId with
  | .error error => some { result := .error error, waitedMs := 0, trace := {} }
  | .ok attempt =>
    ((Run.start attempt feed).finish? peer feed.held (deadline? timeoutMs) turns).map Run.conclude

/-- More turns than a run needs whose peer confirms each request at most once. -/
def Feed.turns (feed : Feed) : Nat := 3 * (feed.queued.length + feed.timed.length) + 12

/-- Run an attempt to its end, against a peer that confirms each request at most once. There is
no answer when nothing ever ends the wait. -/
def establish (peer : Peer) (config : ConnectionConfig) (containerId : Uuid) (feed : Feed)
    (timeoutMs : Nat) : Option Establishment :=
  establishWithin? feed.turns peer config containerId feed timeoutMs

end AmqpHandshake
