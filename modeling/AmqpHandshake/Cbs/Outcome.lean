import AmqpHandshake.Error.Handshake

/-! The outcome of a claims exchange, and the slot that lets it be told only once. -/
namespace AmqpHandshake

/-- How a claims exchange ended. -/
inductive AuthOutcome
  | succeeded
  | failed (error : AuthError)
deriving DecidableEq, Repr

/-- Someone who is told outcomes, by how being told changes a state. -/
structure AuthenticationListener (σ : Type) where
  succeeded : σ → σ
  failed : σ → AuthError → σ

def AuthOutcome.deliver (listener : AuthenticationListener σ) (state : σ) : AuthOutcome → σ
  | .succeeded => listener.succeeded state
  | .failed error => listener.failed state error

/-- A slot that takes one outcome. -/
structure OutcomeSlot where
  settled : Bool := false
deriving DecidableEq, Repr

/-- Offer an outcome. The first one is handed back, all later ones are dropped. -/
def OutcomeSlot.settle (slot : OutcomeSlot) (outcome : AuthOutcome) :
    Option AuthOutcome × OutcomeSlot :=
  if slot.settled then (none, slot) else (some outcome, ⟨true⟩)

end AmqpHandshake
