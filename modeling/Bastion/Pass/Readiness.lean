import Bastion.Endpoint
import Bastion.Pass.Calls

set_option autoImplicit false

namespace Bastion.Pass

open Cloud (Instance)

/-- Why a pass has to be run again later. This is no error. -/
inductive Requeue where
  | instanceNotReady (name : String) (status : Cloud.Status)
  | endpointsMissing
  deriving DecidableEq, Repr

namespace Requeue

/-- How long to wait before the next pass. Someone may be waiting for the endpoints. -/
def seconds : Requeue → Nat
  | .instanceNotReady .. => 10
  | .endpointsMissing => 5

def cause : Requeue → String
  | .instanceNotReady name status => s!"bastion instance {name} not ready yet ({status.text})"
  | .endpointsMissing => "bastion instance has no public/private endpoints yet"

def clock (seconds : Nat) : String :=
  let pair (n : Nat) : String := (if n < 10 then "0" else "") ++ toString n
  s!"{seconds / 3600}:{pair (seconds / 60 % 60)}:{pair (seconds % 60)}"

def logText (requeue : Requeue) : String :=
  s!"Requeue in {clock requeue.seconds}: {requeue.cause}"

end Requeue

/-- The instance has been ensured in the same pass, so it has to be there. -/
def checkInstance (name : String) : PassProgram (Option Requeue) := do
  match ← (lookupInstance name).during "look up instance" name with
  | none => stop (.notYetCreated name)
  | some found =>
    return if found.status = .running then none else some (.instanceNotReady name found.status)

/-- The endpoints of a running instance: its own address and the public one. -/
def endpointsOf (name : String) (found : Instance) (publicAddress : Json) :
    Except Failure Endpoints :=
  if found.status ≠ .running then .error (.terminal (.notRunning name found.status))
  else
    match found.privateAddress with
    | none => .error (.terminal (.noPrivateAddress name))
    | some address =>
      match Endpoint.ofJson? .null publicAddress with
      | .invalid problems => .error (.invalid problems)
      | .valid outer => .ok ⟨Endpoint.of? none (some address), outer⟩

def instanceEndpoints (name : String) (publicAddress : Json) : PassProgram Endpoints := do
  match ← (lookupInstance name).during "look up instance" name with
  | none => stop (.disappeared name)
  | some found => .ofExcept (endpointsOf name found publicAddress)

def checkEndpoints (endpoints : Endpoints) : Option Requeue :=
  if endpoints.ready then none else some .endpointsMissing

end Bastion.Pass
