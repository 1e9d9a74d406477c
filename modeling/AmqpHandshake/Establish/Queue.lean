import AmqpHandshake.Engine.Event

/-! The event queue between an engine and an attempt: any number of sinks, one reader. -/
namespace AmqpHandshake

/-- A queue of events, with its sinks in the order they were made and whether each is held. -/
structure EventQueue where
  waiting : List Event
  sinks : List Bool
  /-- Whether the reading end is held. -/
  reading : Bool
deriving DecidableEq, Repr

inductive Polled
  | event (event : Event)
  /-- Nothing is there yet. -/
  | pending
  /-- Nothing is there, and no sink is left. -/
  | closed
  /-- The reading end is gone. -/
  | gone
deriving DecidableEq, Repr

namespace EventQueue

/-- A queue with one sink. -/
def fresh : EventQueue := ⟨[], [true], true⟩

def holds (queue : EventQueue) (sink : Nat) : Bool := queue.sinks[sink]?.getD false

/-- Put an event on the queue; the answer tells whether someone can read it. A sink that was let
go gives no answer. -/
def emit (queue : EventQueue) (sink : Nat) (event : Event) : Option Bool × EventQueue :=
  if !queue.holds sink then (none, queue)
  else if queue.reading then (some true, { queue with waiting := queue.waiting ++ [event] })
  else (some false, queue)

/-- Make another sink and tell its index. It is held if the first one is. -/
def cloneSink (queue : EventQueue) (sink : Nat) : Nat × EventQueue :=
  (queue.sinks.length, { queue with sinks := queue.sinks ++ [queue.holds sink] })

def dropSink (queue : EventQueue) (sink : Nat) : EventQueue :=
  { queue with sinks := queue.sinks.set sink false }

def dropReader (queue : EventQueue) : EventQueue := { queue with waiting := [], reading := false }

def poll (queue : EventQueue) : Polled × EventQueue :=
  if !queue.reading then (.gone, queue)
  else match queue.waiting with
    | event :: rest => (.event event, { queue with waiting := rest })
    | [] => (if queue.sinks.any id then .pending else .closed, queue)

end EventQueue

end AmqpHandshake
