import AmqpHandshake.Controller.Attempt
import AmqpHandshake.Engine.Answering

/-! The history of an attempt: every event beside the attempt that it met, and what the event
told of that attempt. The claims exchange is always that of the same moment. -/
namespace AmqpHandshake

/-- Whether a link is one of the claims exchange. -/
def Controller.isCbsLink (controller : Controller) (link : LinkId) : Bool :=
  controller.cbs.any fun cbs => link = cbs.sender || link = cbs.receiver

theorem Controller.isCbsLink_eq (controller : Controller) (link : LinkId) :
    controller.isCbsLink link = (controller.cbsOwning? link).isSome :=
  Option.isSome_filter.symm

theorem Controller.isCbsSession_eq (controller : Controller) (session : SessionId) :
    controller.isCbsSession session = (controller.cbs.filter (·.session = session)).isSome :=
  Option.isSome_filter.symm

/-- Going on to a phase changes the phase alone. -/
theorem Controller.advance_eq (controller : Controller) (phase : Phase) :
    controller.advance phase =
      { controller with phase := (controller.advance phase).phase } := by
  unfold advance
  split <;> rfl

/-- What keeps a transport from being set up: a layer that cannot be planned, or else a TLS
context that cannot be built. -/
def ConnectionConfig.setupFault? (read : FileReader) (config : ConnectionConfig) :
    Option FailureCause :=
  match config.layers, config.tls.resolve read with
  | .error cause, _ => some cause
  | .ok _, .error fault => some (.tls fault.message)
  | .ok _, .ok _ => none

/-- Why authentication failed, if that is the outcome. -/
def AuthOutcome.failure? : AuthOutcome → Option FailureCause
  | .succeeded => none
  | .failed error => some (.authentication error)

/-- An event and the attempt that it meets. -/
structure Moment where
  attempt : Attempt
  event : Event

namespace Moment

/-- The protocol error that is told: by the engine, or by a close outside the claims exchange. -/
def condition? (moment : Moment) : Option ErrorCondition :=
  match moment.event with
  | .transportError condition => some condition
  | .connectionRemoteClose condition => condition
  | .sessionRemoteClose session condition =>
    if moment.attempt.controller.isCbsSession session then none else condition
  | .linkRemoteClose link condition =>
    if moment.attempt.controller.isCbsLink link then none else condition
  | _ => none

/-- What keeps the transport from being set up, when it is bound. -/
def setupFault? (around : Surroundings) (moment : Moment) : Option FailureCause :=
  match moment.event with
  | .connectionBound => moment.attempt.controller.config.setupFault? around.read
  | _ => none

/-- The outcome that the claims exchange tells. -/
def outcome? (around : Surroundings) (moment : Moment) : Option AuthOutcome :=
  match moment.event with
  | .linkRemoteOpen link => do
    let cbs ← moment.attempt.controller.cbsOwning? link
    (cbs.onLinkOpen around link moment.attempt.trace).1
  | .cbsResponse link status description => do
    let cbs ← moment.attempt.controller.cbs
    (cbs.onResponse link status description).1
  | .sessionRemoteClose session condition => do
    let cbs ← moment.attempt.controller.cbs.filter (·.session = session)
    (cbs.onClosed condition).1
  | .linkRemoteClose link condition => do
    let cbs ← moment.attempt.controller.cbsOwning? link
    (cbs.onClosed condition).1
  | _ => none

/-- Why the attempt fails to be set up or to be authenticated. -/
def cause? (around : Surroundings) (moment : Moment) : Option FailureCause :=
  (moment.setupFault? around).or ((moment.outcome? around).bind AuthOutcome.failure?)

/-- The session outside the claims exchange that the peer opened. -/
def openedSession? (moment : Moment) : Option SessionId :=
  match moment.event with
  | .sessionRemoteOpen session =>
    if moment.attempt.controller.isCbsSession session then none else some session
  | _ => none

/-- The link outside the claims exchange that the peer opened. -/
def openedLink? (moment : Moment) : Option LinkId :=
  match moment.event with
  | .linkRemoteOpen link =>
    if moment.attempt.controller.isCbsLink link then none else some link
  | _ => none

end Moment

namespace Attempt

/-- The moments of taking events in order. -/
def history (around : Surroundings) (attempt : Attempt) : List Event → List Moment
  | [] => []
  | event :: events => ⟨attempt, event⟩ :: (attempt.handle around event).history around events

theorem handleAll_cons (around : Surroundings) (attempt : Attempt) (event : Event)
    (events : List Event) :
    attempt.handleAll around (event :: events) =
      (attempt.handle around event).handleAll around events := rfl

theorem handleAll_append (around : Surroundings) (attempt : Attempt) (first second : List Event) :
    attempt.handleAll around (first ++ second) =
      (attempt.handleAll around first).handleAll around second :=
  List.foldl_append

theorem history_append (around : Surroundings) (attempt : Attempt) (first second : List Event) :
    attempt.history around (first ++ second) =
      attempt.history around first ++ (attempt.handleAll around first).history around second := by
  induction first generalizing attempt with
  | nil => rfl
  | cons event rest ih => simp [history, ih, handleAll_cons]

/-- Every moment of a history is met by the attempt that the events before it lead to. -/
theorem mem_history_iff {around : Surroundings} {attempt : Attempt} {events : List Event}
    {moment : Moment} :
    moment ∈ attempt.history around events ↔ ∃ earlier later,
      events = earlier ++ moment.event :: later ∧
        moment.attempt = attempt.handleAll around earlier := by
  constructor
  · intro member
    induction events generalizing attempt with
    | nil => simp [history] at member
    | cons event rest ih =>
      rcases List.mem_cons.mp member with same | member
      · subst same
        exact ⟨[], rest, rfl, rfl⟩
      · obtain ⟨earlier, later, split, met⟩ := ih member
        exact ⟨event :: earlier, later, by simp [split], met⟩
  · rintro ⟨earlier, later, split, met⟩
    rw [split, history_append]
    exact List.mem_append_right _ (by simp [history, ← met])

/-- An attempt that events alone have brought about, with no decision asked for. -/
inductive Reached (around : Surroundings) : Attempt → Prop
  | start (begun : Attempt.start config containerId = .ok attempt) : Reached around attempt
  | handle (earlier : Reached around attempt) (event : Event) :
      Reached around (attempt.handle around event)

theorem Reached.handleAll {around : Surroundings} {attempt : Attempt}
    (reached : Reached around attempt) (events : List Event) :
    Reached around (attempt.handleAll around events) := by
  induction events generalizing attempt with
  | nil => exact reached
  | cons event rest ih => exact ih (reached.handle event)

/-- An attempt that nothing has happened to. -/
def fresh (config : ConnectionConfig) (containerId : Uuid) : Attempt :=
  ⟨⟨config, containerId, {}, .initial, none, none, none, false, none, none, none⟩, {}⟩

theorem start_eq_ok_iff {config : ConnectionConfig} {containerId : Uuid} {attempt : Attempt} :
    Attempt.start config containerId = .ok attempt ↔
      config.validate = .ok () ∧ attempt = fresh config containerId := by
  simp only [Attempt.start, Controller.start, bind, Except.bind, pure, Except.pure]
  cases config.validate with
  | error error => simp
  | ok _ => simp [fresh, eq_comm]

end Attempt

/-! One hub with an application link, on an engine that counts ids up from one: the claims
exchange has session 1 and links 2 and 3, the application session 4 and link 5. -/
namespace Sample

def config : ConnectionConfig :=
  ⟨"hub.example.net", .amqps, none, .default, .sharedAccessSignature "owner" "signature",
    some .feedback⟩

def around : Surroundings := ⟨({} : Script).engine, fun _ => .error .notFound, ⟨0⟩⟩

def start : Attempt := .fresh config ⟨0⟩

theorem config_valid : config.validate = .ok () := rfl

theorem begun : Attempt.start config ⟨0⟩ = .ok start := rfl

theorem reached : Attempt.Reached around start := .start begun

end Sample

end AmqpHandshake
