import AmqpHandshake.Proofs.Exchange

/-! The first decisive notice is the one that a claims exchange reports. Which notices are decisive
is said by what has been heard and sent before, not by the phase that the exchange keeps. -/
namespace AmqpHandshake

namespace CbsSession

/-- Notices have confirmed both links. One on an id that both have confirms the sender alone. -/
structure BothOpen (cbs : CbsSession) (heard : List CbsNotice) : Prop where
  sender : .linkOpen cbs.sender ∈ heard
  receiver : .linkOpen cbs.receiver ∈ heard
  apart : cbs.receiver ≠ cbs.sender

/-- An exchange that has noted which of its links notices confirm. -/
def noting (cbs : CbsSession) (heard : List CbsNotice) : CbsSession :=
  { cbs with
    senderOpen := .linkOpen cbs.sender ∈ heard
    receiverOpen := .linkOpen cbs.receiver ∈ heard && cbs.receiver ≠ cbs.sender }

theorem bothOpen_iff {cbs : CbsSession} {heard : List CbsNotice} :
    cbs.BothOpen heard ↔
      (cbs.noting heard).senderOpen = true ∧ (cbs.noting heard).receiverOpen = true := by
  constructor
  · intro both
    simp [noting, both.sender, both.receiver, both.apart]
  · simp only [noting, decide_eq_true_eq, Bool.and_eq_true]
    rintro ⟨sender, receiver, apart⟩
    exact ⟨sender, receiver, apart⟩

theorem BothOpen.more {cbs : CbsSession} {heard : List CbsNotice} (both : cbs.BothOpen heard)
    (notice : CbsNotice) : cbs.BothOpen (heard ++ [notice]) :=
  ⟨List.mem_append_left _ both.sender, List.mem_append_left _ both.receiver, both.apart⟩

theorem noting_linkOpen (cbs : CbsSession) (heard : List CbsNotice) (link : LinkId) :
    cbs.noting (heard ++ [.linkOpen link]) = (cbs.noting heard).markOpen link := by
  rw [markOpen_eq]
  by_cases own : cbs.sender = link
  · subst own
    by_cases shared : cbs.receiver = cbs.sender <;> simp [noting, shared]
  · by_cases reach : cbs.receiver = link
    · subst reach
      simp [noting, own, Ne.symm own]
    · simp [noting, own, reach, Ne.symm own, Ne.symm reach]

theorem noting_other (cbs : CbsSession) (heard : List CbsNotice) {notice : CbsNotice}
    (other : ∀ link, notice ≠ .linkOpen link) :
    cbs.noting (heard ++ [notice]) = cbs.noting heard := by
  simp [noting, Ne.symm (other _)]

theorem completes_noting_iff {cbs : CbsSession} {heard : List CbsNotice} {link : LinkId}
    (waits : cbs.phase = .openingLinks) (waiting : ¬ cbs.BothOpen heard) :
    (cbs.noting heard).Completes link ↔ cbs.BothOpen (heard ++ [.linkOpen link]) := by
  rw [bothOpen_iff, noting_linkOpen]
  constructor
  · intro completes
    exact ⟨completes.sender, completes.receiver⟩
  · rintro ⟨sender, receiver⟩
    refine ⟨?_, waits, sender, receiver⟩
    cases owned : (cbs.noting heard).ownsLink link with
    | true => rfl
    | false =>
      -- A foreign id would leave things as they were.
      have apart : link ≠ cbs.sender ∧ link ≠ cbs.receiver := by
        simpa [ownsLink, noting] using owned
      refine absurd (bothOpen_iff.mpr ?_) waiting
      simpa [markOpen_eq, noting, apart] using And.intro sender receiver

end CbsSession

namespace Exchange

/-- How far an exchange has come that began in some state and has heard some notices. -/
inductive Stage (begun : Exchange) (heard : List CbsNotice) : Exchange → Prop
  | opening (waiting : ¬ begun.cbs.BothOpen heard) :
      Stage begun heard ⟨begun.cbs.noting heard, begun.trace⟩
  | awaiting (claim : Claim) (asked : List TokenRequest) (complete : begun.cbs.BothOpen heard) :
      Stage begun heard ⟨{ begun.cbs.noting heard with phase := .awaitingResponse },
        ⟨begun.trace.calls ++ [.sendClaim begun.cbs.sender claim none], asked⟩⟩
  | ended (left : Trace) : Stage begun heard ⟨(begun.cbs.noting heard).settle, left⟩

/-- An exchange that has heard nothing yet and sent nothing. -/
structure Fresh (begun : Exchange) : Prop where
  phase : begun.cbs.phase = .openingLinks
  untold : begun.cbs.slot.settled = false
  sender : begun.cbs.senderOpen = false
  receiver : begun.cbs.receiverOpen = false
  silent : begun.trace.calls.countP Call.isTakenClaim = 0

variable {begun : Exchange} {heard : List CbsNotice} {exchange : Exchange}

theorem Fresh.noting_nil (fresh : begun.Fresh) : begun.cbs.noting [] = begun.cbs := by
  obtain ⟨_, _, sender, receiver, _⟩ := fresh
  obtain ⟨⟨_, _, _, _, _, _, _, _, _⟩, _⟩ := begun
  simp_all [CbsSession.noting]

theorem Fresh.stage (fresh : begun.Fresh) : Stage begun [] begun := by
  have opening : Stage begun [] ⟨begun.cbs.noting [], begun.trace⟩ :=
    .opening fun both => nomatch both.sender
  rwa [fresh.noting_nil] at opening

theorem Fresh.agrees (fresh : begun.Fresh) : begun.cbs.Agrees := by
  simp [CbsSession.Agrees, fresh.phase, fresh.untold]

/-- A notice that a link is open is noted at every stage. -/
theorem Stage.mark (fresh : begun.Fresh) (stage : Stage begun heard exchange)
    (waiting : ¬ exchange.cbs.Completes link) :
    Stage begun (heard ++ [.linkOpen link])
      { exchange with cbs := exchange.cbs.markOpen link } := by
  cases stage with
  | opening apart =>
    rw [← CbsSession.noting_linkOpen]
    exact .opening (mt (CbsSession.completes_noting_iff fresh.phase apart).mpr waiting)
  | awaiting claim asked complete =>
    have later := Stage.awaiting claim asked (complete.more (.linkOpen link))
    rw [CbsSession.noting_linkOpen] at later
    simpa [CbsSession.markOpen_eq] using later
  | ended left =>
    have later : Stage begun (heard ++ [.linkOpen link]) _ := .ended left
    rw [CbsSession.noting_linkOpen] at later
    simpa [CbsSession.markOpen_eq, CbsSession.settle] using later

/-- Any other notice changes nothing of what is noted. -/
theorem Stage.other (stage : Stage begun heard exchange) {notice : CbsNotice}
    (other : ∀ link, notice ≠ .linkOpen link) : Stage begun (heard ++ [notice]) exchange := by
  have same := CbsSession.noting_other begun.cbs heard other
  cases stage with
  | opening waiting =>
    rw [← same]
    refine .opening fun both => waiting ?_
    rwa [CbsSession.bothOpen_iff, same, ← CbsSession.bothOpen_iff] at both
  | awaiting claim asked complete =>
    rw [← same]
    exact .awaiting claim asked (complete.more notice)
  | ended left =>
    rw [← same]
    exact .ended left

theorem Stage.settle (stage : Stage begun heard exchange) :
    Stage begun heard { exchange with cbs := exchange.cbs.settle } := by
  cases stage <;> exact .ended _

theorem Stage.opening_of_completes (stage : Stage begun heard exchange)
    (completes : exchange.cbs.Completes link) :
    exchange = ⟨begun.cbs.noting heard, begun.trace⟩ ∧ ¬ begun.cbs.BothOpen heard := by
  cases stage with
  | opening waiting => exact ⟨rfl, waiting⟩
  | awaiting claim asked complete => cases completes.waits
  | ended left => cases completes.waits

theorem Stage.hear (fresh : begun.Fresh) (agrees : exchange.cbs.Agrees)
    (stage : Stage begun heard exchange) (around : Surroundings) (notice : CbsNotice) :
    Stage begun (heard ++ [notice]) (exchange.hear around notice).2 := by
  obtain ⟨told, next, turn⟩ := exists_turn around exchange notice
  rw [turn.hear_eq agrees]
  cases turn with
  | mark waiting => exact stage.mark fresh waiting
  | withhold completes withholds =>
    obtain ⟨rfl, waiting⟩ := stage.opening_of_completes completes
    rw [← CbsSession.noting_linkOpen]
    exact .ended _
  | send completes yields taken =>
    obtain ⟨rfl, waiting⟩ := stage.opening_of_completes completes
    rw [← CbsSession.noting_linkOpen]
    exact .awaiting _ _ ((CbsSession.completes_noting_iff fresh.phase waiting).mp completes)
  | bounce completes yields refused =>
    obtain ⟨rfl, waiting⟩ := stage.opening_of_completes completes
    rw [← CbsSession.noting_linkOpen]
    exact .ended _
  | disregard stray => exact stage.other (by simp)
  | answer awaiting => exact (stage.other (by simp)).settle
  | stay ended => exact stage.other (by simp)
  | close going => exact (stage.other (by simp)).settle

theorem Stage.hearAll (fresh : begun.Fresh) (agrees : exchange.cbs.Agrees)
    (stage : Stage begun heard exchange) (around : Surroundings) (more : List CbsNotice) :
    Stage begun (heard ++ more) (exchange.hearAll around more) := by
  induction more generalizing heard exchange with
  | nil => simpa [Exchange.hearAll] using stage
  | cons notice rest ih =>
    rw [hearAll_cons, List.append_cons]
    exact ih (agrees_hear agrees around notice) (stage.hear fresh agrees around notice)

/-- A confirmation is the last one exactly if both links have it then, and had not before. -/
theorem Stage.completes_iff (fresh : begun.Fresh) (stage : Stage begun heard exchange)
    {link : LinkId} :
    exchange.cbs.Completes link ↔ exchange.cbs.isSettled = false ∧ ¬ begun.cbs.BothOpen heard ∧
      begun.cbs.BothOpen (heard ++ [.linkOpen link]) := by
  cases stage with
  | opening waiting =>
    rw [CbsSession.completes_noting_iff fresh.phase waiting]
    simp [CbsSession.isSettled, CbsSession.noting, fresh.untold, waiting]
  | awaiting claim asked complete =>
    exact ⟨fun completes => (by cases completes.waits), fun open_ => absurd complete open_.2.1⟩
  | ended left =>
    exact ⟨fun completes => (by cases completes.waits), fun open_ => (by cases open_.1)⟩

end Exchange

end AmqpHandshake
