import Bastion.Pass.Placement
import Bastion.Pass.Readiness
import Bastion.Pass.Resources
import Bastion.Pass.Rules

set_option autoImplicit false

/- One pass: place, group, instance, rules, public address, endpoints, status. Every step looks at the
cloud anew, so a pass that was cut short is taken up again by the next one. -/
namespace Bastion.Pass

inductive Outcome where
  | succeeded (endpoints : Endpoints)
  | requeue (requeue : Requeue)
  deriving DecidableEq, Repr

/-- The endpoint as it is published, and as it is logged. -/
def publishedText (endpoint : Option Endpoint) : String :=
  match endpoint with
  | none => "None"
  | some endpoint =>
    "\x7b'hostname': " ++ Text.quoted? endpoint.hostname ++ ", 'ip': " ++
      Text.quoted? endpoint.ip ++ "\x7d"

def publish (name : String) (endpoints : Endpoints) : PassProgram Unit := do
  let ingress := (endpoints.outer.map Endpoint.toJson).getD .null
  (patchStatus name (.object [("ingress", ingress)])).during "publish status of bastion" name
  .info s!"Published endpoint of bastion {name}: {publishedText endpoints.outer}"

def requeueLater (requeue : Requeue) : PassProgram Outcome := do
  .info requeue.logText
  return .requeue requeue

def imageOf (request : Request) : PassProgram String :=
  match resolveImage request.options request.cluster with
  | .ok image => return image
  | .error error => stop error

def finish (request : Request) (group instanceId : String) : PassProgram Outcome := do
  let name := request.options.instanceName
  reconcileRules request group
  let address ← (allocateAddress instanceId).during "allocate public address for" name
  let endpoints ← instanceEndpoints name address
  match checkEndpoints endpoints with
  | some requeue => requeueLater requeue
  | none =>
    publish request.bastionName endpoints
    return .succeeded endpoints

def reconcile (request : Request) : PassProgram Outcome := do
  let options := request.options
  .debug s!"Reconciling bastion {request.bastionName} ({options.instanceName})"
  let image ← imageOf request
  let place ← resolveNetwork options.networkName
  let type ← resolveInstanceType place.zone request.cluster coreCandidates
  let group ← ensureGroup options.groupName place.network
  let instanceId ← ensureInstance
    { name := options.instanceName
      group := group
      image := image
      subnet := place.subnet
      zone := place.zone
      type := type
      userData := options.userData }
  match ← checkInstance options.instanceName with
  | some requeue => requeueLater requeue
  | none => finish request group instanceId

end Bastion.Pass
