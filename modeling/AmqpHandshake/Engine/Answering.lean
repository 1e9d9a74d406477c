import AmqpHandshake.Engine.Basic
import AmqpHandshake.Engine.Event

/-! An engine whose peer confirms what is asked of it, as far as a script says. -/
namespace AmqpHandshake

/-- What the peer of an answering engine confirms. -/
structure Script where
  /-- Ids handed out first; behind them ids count up from one. -/
  ids : List UInt32 := []
  /-- For each claim in turn, why it cannot be sent if it cannot. -/
  refusals : List (Option String) := []
  silent : Bool := false
  confirmBind : Bool := true
  confirmConnection : Bool := true
  confirmSessions : Bool := true
  confirmCbsLinks : Bool := true
  confirmServiceLinks : Bool := true
  /-- The status that a claim is answered with, if it is. -/
  status : Option UInt16 := some 200
  description : Option String := none
  /-- After how many events the engine says nothing more. -/
  limit : Option Nat := none
deriving DecidableEq, Repr

namespace Script

def handsOutId : Call → Bool
  | .openSession _ | .openLink _ _ _ => true
  | _ => false

def presentsClaim : Call → Bool
  | .sendClaim _ _ _ => true
  | _ => false

/-- The id that is handed out after some calls. Sessions and links share one count. -/
def idAfter (script : Script) (earlier : List Call) : UInt32 :=
  let count := earlier.countP handsOutId
  script.ids[count]?.getD (UInt32.ofNat (count - script.ids.length + 1))

def engine (script : Script) : Engine where
  sessionId earlier := ⟨script.idAfter earlier⟩
  linkId earlier _ _ := ⟨script.idAfter earlier⟩
  refusal earlier _ _ := script.refusals[earlier.countP presentsClaim]?.join

/-- The last receiving link to the node for claims-based security. -/
def answeringLink? (earlier : List Call) : Option LinkId :=
  earlier.reverse.findSome? fun
    | .openLink _ spec link =>
      if spec.address = cbsNode ∧ spec.role = .receiver then some link else none
    | _ => none

/-- What the peer would say to a call, were there no limit. -/
def confirmation (script : Script) (earlier : List Call) : Call → List Event
  | .connectToHost _ _ => if script.confirmBind then [.connectionBound, .connectionInit] else []
  | .openConnection _ => if script.confirmConnection then [.connectionRemoteOpen] else []
  | .openSession session => if script.confirmSessions then [.sessionRemoteOpen session] else []
  | .openLink _ spec link =>
    let confirmed :=
      if spec.address = cbsNode then script.confirmCbsLinks else script.confirmServiceLinks
    if confirmed then [.linkRemoteOpen link] else []
  | .sendClaim _ _ none =>
    match script.status, answeringLink? earlier with
    | some status, some link => [.cbsResponse link status script.description]
    | _, _ => []
  | _ => []

/-- All that the peer would say to calls in order, behind earlier ones. -/
def confirmations (script : Script) (earlier : List Call) : List Call → List Event
  | [] => []
  | call :: more =>
    script.confirmation earlier call ++ script.confirmations (earlier ++ [call]) more

/-- How many events the engine may still put on the queue after some calls. -/
def allowance (script : Script) (earlier : List Call) : Option Nat :=
  if script.silent then some 0
  else script.limit.map (· - (script.confirmations [] earlier).length)

/-- The events put on the queue in answer to a call. -/
def reply (script : Script) (earlier : List Call) (call : Call) : List Event :=
  let events := script.confirmation earlier call
  match script.allowance earlier with
  | some count => events.take count
  | none => events

/-- Whether the engine will say nothing more, whatever is asked. -/
def isDone (script : Script) (calls : List Call) : Bool := script.allowance calls = some 0

end Script

end AmqpHandshake
