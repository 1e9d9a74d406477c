import AmqpHandshake.Proofs.Ledger
import AmqpHandshake.Proofs.Verdict

/-! What a success says of the application link. Any session and any link outside the claims
exchange count as confirmed, asked for or not; only those that were asked for are the
application's, and for those the claim was accepted. -/
namespace AmqpHandshake

/-- The claim was accepted, and the peer opened the application session and link once they had
been begun. -/
structure ServiceConfirmed (attempt : Attempt) (history : List Moment) : Prop where
  authenticated : attempt.controller.authenticated = true
  session : ∃ id, attempt.controller.serviceSession = some id ∧ ∃ moment ∈ history,
    moment.event = .sessionRemoteOpen id ∧ moment.attempt.controller.serviceSession = some id
  link : ∃ id, attempt.controller.serviceLink = some id ∧ ∃ moment ∈ history,
    moment.event = .linkRemoteOpen id ∧ moment.attempt.controller.serviceLink = some id

/-- Whether the peer opens nothing but what it was asked to. -/
def Moment.isAsked (moment : Moment) : Bool :=
  match moment.event with
  | .sessionRemoteOpen session => session ∈ moment.attempt.trace.sessions
  | .linkRemoteOpen link => link ∈ moment.attempt.trace.links
  | _ => true

namespace Attempt

theorem isCbsSession_iff {attempt : Attempt} {session : SessionId} :
    attempt.controller.isCbsSession session = true ↔
      session ∈ attempt.ledger.sessions.exchange := by
  cases exchange : attempt.controller.cbs with
  | none => simp [Controller.isCbsSession, ledger, exchange]
  | some cbs => simp [Controller.isCbsSession, ledger, exchange, CbsSession.ids, eq_comm]

theorem isCbsLink_iff {attempt : Attempt} {link : LinkId} :
    attempt.controller.isCbsLink link = true ↔ link ∈ attempt.ledger.links.exchange := by
  cases exchange : attempt.controller.cbs with
  | none => simp [Controller.isCbsLink, ledger, exchange]
  | some cbs => simp [Controller.isCbsLink, ledger, exchange, CbsSession.ids]

end Attempt

namespace Moment

theorem openedSession?_eq_some_iff {moment : Moment} {id : SessionId} :
    moment.openedSession? = some id ↔ moment.event = .sessionRemoteOpen id ∧
      id ∉ moment.attempt.ledger.sessions.exchange := by
  unfold openedSession?
  split
  · rename_i session opened
    rw [← Attempt.isCbsSession_iff, opened]
    by_cases same : session = id
    · simp [same]
    · simp [same]
  · rename_i other
    simpa using fun same => absurd same (other id)

theorem openedLink?_eq_some_iff {moment : Moment} {id : LinkId} :
    moment.openedLink? = some id ↔ moment.event = .linkRemoteOpen id ∧
      id ∉ moment.attempt.ledger.links.exchange := by
  unfold openedLink?
  split
  · rename_i link opened
    rw [← Attempt.isCbsLink_iff, opened]
    by_cases same : link = id
    · simp [same]
    · simp [same]
  · rename_i other
    simpa using fun same => absurd same (other id)

theorem asked_openedSession?_iff {moment : Moment} :
    (moment.openedSession?.isSome ∧ moment.isAsked) ↔
      ∃ id, moment.openedSession? = some id ∧ id ∈ moment.attempt.trace.sessions := by
  rw [Option.isSome_iff_exists, ← exists_and_right]
  refine exists_congr fun id => and_congr_right fun found => ?_
  simp [isAsked, (openedSession?_eq_some_iff.mp found).1]

theorem asked_openedLink?_iff {moment : Moment} :
    (moment.openedLink?.isSome ∧ moment.isAsked) ↔
      ∃ id, moment.openedLink? = some id ∧ id ∈ moment.attempt.trace.links := by
  rw [Option.isSome_iff_exists, ← exists_and_right]
  refine exists_congr fun id => and_congr_right fun found => ?_
  simp [isAsked, (openedLink?_eq_some_iff.mp found).1]

/-- Between a moment of a history and its end, nothing is taken back. -/
theorem grows_of_mem {around : Surroundings} {attempt : Attempt}
    (reached : attempt.Reached around) {events : List Event} {moment : Moment}
    (member : moment ∈ attempt.history around events) :
    moment.attempt.ledger.Sound ∧
      moment.attempt.ledger.Grows (attempt.handleAll around events).ledger := by
  obtain ⟨earlier, later, split, met⟩ := Attempt.mem_history_iff.mp member
  have reachedThere : moment.attempt.Reached around := met ▸ reached.handleAll earlier
  refine ⟨reachedThere.sound, ?_⟩
  rw [split, Attempt.handleAll_append, ← met]
  exact reachedThere.grows _

end Moment

/-- Of either kind of ids: that of the application is confirmed exactly if some id is that is
asked for and outside the claims exchange. -/
theorem Register.confirmed_iff (view : Attempt → Register ι) {opens : ι → Event}
    {opened? : Moment → Option ι} {history : List Moment} {final : Attempt}
    (told : ∀ moment id, opened? moment = some id ↔
      moment.event = opens id ∧ id ∉ (view moment.attempt).exchange)
    (kept : ∀ moment ∈ history, (view moment.attempt).Kept)
    (grown : ∀ moment ∈ history, (view moment.attempt).Grows (view final))
    (distinct : (view final).handedOut.Nodup) :
    (∃ id, (view final).service = some id ∧ ∃ moment ∈ history,
      moment.event = opens id ∧ (view moment.attempt).service = some id) ↔
    ∃ moment ∈ history, ∃ id,
      opened? moment = some id ∧ id ∈ (view moment.attempt).handedOut := by
  have served (moment : Moment) (member : moment ∈ history) (id : ι) :
      (view moment.attempt).service = some id ↔
        id ∈ (view moment.attempt).handedOut ∧ id ∉ (view moment.attempt).exchange :=
    service_eq_some_iff (kept moment member)
      (distinct.sublist (grown moment member).handedOut.sublist) id
  constructor
  · rintro ⟨id, _, moment, member, opened, found⟩
    obtain ⟨asked, outside⟩ := (served moment member id).mp found
    exact ⟨moment, member, id, (told moment id).mpr ⟨opened, outside⟩, asked⟩
  · rintro ⟨moment, member, id, found, asked⟩
    obtain ⟨opened, outside⟩ := (told moment id).mp found
    have serves := (served moment member id).mpr ⟨asked, outside⟩
    exact ⟨id, (grown moment member).service id serves, moment, member, opened, serves⟩

/-- The peer opened, of what it was asked to, a session and a link outside the claims exchange. -/
structure AskedConfirmed (history : List Moment) : Prop where
  session : ∃ moment ∈ history, moment.openedSession?.isSome ∧ moment.isAsked
  link : ∃ moment ∈ history, moment.openedLink?.isSome ∧ moment.isAsked

theorem serviceConfirmed_iff {around : Surroundings} {attempt : Attempt}
    (reached : attempt.Reached around) (events : List Event)
    (distinctSessions : (attempt.handleAll around events).trace.sessions.Nodup)
    (distinctLinks : (attempt.handleAll around events).trace.links.Nodup) :
    ServiceConfirmed (attempt.handleAll around events) (attempt.history around events) ↔
      AskedConfirmed (attempt.history around events) := by
  have met (moment : Moment) (member : moment ∈ attempt.history around events) :=
    Moment.grows_of_mem reached member
  have session := Register.confirmed_iff (·.ledger.sessions)
    (fun _ _ => Moment.openedSession?_eq_some_iff)
    (fun moment member => (met moment member).1.sessions)
    (fun moment member => (met moment member).2.sessions) distinctSessions
  have link := Register.confirmed_iff (·.ledger.links)
    (fun _ _ => Moment.openedLink?_eq_some_iff)
    (fun moment member => (met moment member).1.links)
    (fun moment member => (met moment member).2.links) distinctLinks
  constructor
  · intro confirmed
    obtain ⟨moment, member, asked⟩ := session.mp confirmed.session
    obtain ⟨later, memberToo, askedToo⟩ := link.mp confirmed.link
    exact ⟨⟨moment, member, Moment.asked_openedSession?_iff.mpr asked⟩,
      ⟨later, memberToo, Moment.asked_openedLink?_iff.mpr askedToo⟩⟩
  · intro asked
    obtain ⟨moment, member, told⟩ := asked.session
    obtain ⟨later, memberToo, toldToo⟩ := asked.link
    have opened := link.mpr ⟨later, memberToo, Moment.asked_openedLink?_iff.mp toldToo⟩
    refine ⟨?_, session.mpr ⟨moment, member, Moment.asked_openedSession?_iff.mp told⟩, opened⟩
    -- The application link is only ever begun for an accepted claim.
    obtain ⟨id, serves, _⟩ := opened
    have sound := (reached.handleAll events).sound
    exact sound.earned (Option.isSome_iff_exists.mpr ⟨id, serves⟩)

/-- A success confirms the application link exactly if the peer opened, of what it was asked to, a
session and a link outside the claims exchange; it does if the peer opened nothing else. -/
theorem service_confirmed_iff {around : Surroundings}
    (begun : Attempt.start config containerId = .ok attempt) (events : List Event)
    (distinctSessions : (attempt.handleAll around events).trace.sessions.Nodup)
    (distinctLinks : (attempt.handleAll around events).trace.links.Nodup)
    (success : (attempt.handleAll around events).verify.1 = .ok ()) :
    (ServiceConfirmed (attempt.handleAll around events) (attempt.history around events) ↔
      AskedConfirmed (attempt.history around events)) ∧
    ((∀ moment ∈ attempt.history around events, moment.isAsked) →
      ServiceConfirmed (attempt.handleAll around events) (attempt.history around events)) := by
  have same := serviceConfirmed_iff (.start begun) events distinctSessions distinctLinks
  refine ⟨same, fun asked => same.mpr ?_⟩
  have decided := (decided_start_iff begun events).mpr ⟨success.symm, rfl⟩
  cases decided with
  | success _ _ confirmed =>
    obtain ⟨moment, member, opened⟩ := confirmed.session
    obtain ⟨later, memberToo, openedToo⟩ := confirmed.link
    exact ⟨⟨moment, member, opened, asked moment member⟩,
      ⟨later, memberToo, openedToo, asked later memberToo⟩⟩

/-- A run in which the peer accepts the claim and opens what it was asked to. -/
theorem service_confirmed_in_full : ∃ attempt, Attempt.start Sample.config ⟨0⟩ = .ok attempt ∧
    ServiceConfirmed
      (attempt.handleAll Sample.around
        [.connectionRemoteOpen, .linkRemoteOpen ⟨2⟩, .linkRemoteOpen ⟨3⟩, .cbsResponse ⟨3⟩ 200 none,
          .sessionRemoteOpen ⟨4⟩, .linkRemoteOpen ⟨5⟩])
      (attempt.history Sample.around
        [.connectionRemoteOpen, .linkRemoteOpen ⟨2⟩, .linkRemoteOpen ⟨3⟩, .cbsResponse ⟨3⟩ 200 none,
          .sessionRemoteOpen ⟨4⟩, .linkRemoteOpen ⟨5⟩]) := by
  refine ⟨_, Sample.begun, (service_confirmed_iff Sample.begun _ (by decide) (by decide) rfl).2 ?_⟩
  exact List.all_eq_true.mp rfl

/-- A session and a link that nobody asked for make a success, with no claim presented. -/
theorem success_unauthenticated :
    ¬ ∀ config containerId attempt around events,
      Attempt.start config containerId = .ok attempt → config.serviceLink.isSome →
      (attempt.handleAll around events).trace.sessions.Nodup →
      (attempt.handleAll around events).trace.links.Nodup →
      (attempt.handleAll around events).verify.1 = .ok () →
      ServiceConfirmed (attempt.handleAll around events) (attempt.history around events) := by
  intro always
  have confirmed := always Sample.config ⟨0⟩ Sample.start Sample.around
    [.connectionRemoteOpen, .sessionRemoteOpen ⟨99⟩, .linkRemoteOpen ⟨99⟩] Sample.begun rfl
    (by decide) (by decide) rfl
  cases confirmed.authenticated

end AmqpHandshake
