import Bastion.Cloud.Resource
import Bastion.Files.Tree
import Bastion.Checked
import Bastion.Json.MergePatch
import Bastion.Json.Parser
import Bastion.Json.Wording

set_option autoImplicit false

namespace Bastion

inductive ApiCode where
  | badRequest
  | forbidden
  | notFound
  | conflict
  | tooManyRequests
  | resourceExhausted
  | internalError
  | badGateway
  | serviceUnavailable
  | gatewayTimeout
  deriving DecidableEq, Repr

def ApiCode.number : ApiCode → Nat
  | .badRequest => 400
  | .forbidden => 403
  | .notFound => 404
  | .conflict => 409
  | .tooManyRequests => 429
  | .resourceExhausted => 429
  | .internalError => 500
  | .badGateway => 502
  | .serviceUnavailable => 503
  | .gatewayTimeout => 504

/-- A call refused in this way may succeed a little later. -/
def ApiCode.transient : ApiCode → Bool
  | .tooManyRequests | .resourceExhausted | .internalError | .serviceUnavailable => true
  | _ => false

/-- What a compute service holds does not fit what is asked of it. -/
inductive ComputeError where
  | noSubnetwork (network region : String)
  | subnetOutside (subnet zone : String)
  | groupNotFound (id : String)
  | groupNotCreated (name : String)
  | noRanges (group : String)
  | noHandle (description : Option String)
  | instanceNotFound (id : String)
  | instanceNotCreated (name : String)
  | noInterface
  | unknownDirection (value : Json)
  deriving DecidableEq, Repr

def ComputeError.message : ComputeError → String
  | .noSubnetwork network region => s!"network {network} has no subnetwork in {region}"
  | .subnetOutside subnet zone => s!"subnet {subnet} is not in region of {zone}"
  | .groupNotFound id => s!"security group {id} not found"
  | .groupNotCreated name => s!"security group {name} missing after creation"
  | .noRanges group => s!"security group {group} has no subnet ranges"
  | .noHandle description => s!"rule {Text.quoted? description} has no firewall handle"
  | .instanceNotFound id => s!"instance {id} not found"
  | .instanceNotCreated name => s!"instance {name} missing after creation"
  | .noInterface => "list index out of range"
  | .unknownDirection value => s!"{value.innerWording} is not a valid Direction"

/-- The status of a bastion cannot be read or written. -/
inductive StatusError where
  | file (error : Files.FileError)
  | unreadable (error : Json.SyntaxError)
  | unwritable (obstacle : Json.Obstacle)
  | notObject (kind : Json.Kind)
  | patch (error : Json.PatchError)
  deriving DecidableEq, Repr

def StatusError.message : StatusError → String
  | .file error => error.message
  | .unreadable error => error.message
  | .unwritable obstacle => obstacle.message
  | .notObject kind => s!"'{kind.text}' object has no attribute 'get'"
  | .patch error => error.message

/-- Failures that a provider or a status writer meets outside this library. -/
inductive ForeignKind where
  | runtime
  | value
  | key
  | system
  | timeout
  deriving DecidableEq, Repr

inductive Family where
  | general
  | configuration
  | instanceState
  | provider
  deriving DecidableEq, Repr

inductive TerminalError where
  | provider (operation resource : String) (cause : Option String)
  | machineTypesMissing
  | imageMissing (region : String)
  | workloadGroupMissing (name : String)
  | noPrivateAddress (name : String)
  | notYetCreated (name : String)
  | disappeared (name : String)
  | notRunning (name : String) (status : Cloud.Status)
  /-- One that a provider reports itself. -/
  | reported (family : Family) (message : String)
  deriving DecidableEq, Repr

namespace TerminalError

def family : TerminalError → Family
  | .provider .. => .provider
  | .machineTypesMissing | .imageMissing _ | .workloadGroupMissing _ | .noPrivateAddress _ =>
    .configuration
  | .notYetCreated _ | .disappeared _ | .notRunning .. => .instanceState
  | .reported family _ => family

def message : TerminalError → String
  | .provider operation resource cause =>
    s!"failed to {operation} {resource}" ++
      match cause with
      | some cause => ": " ++ cause
      | none => ""
  | .machineTypesMissing =>
    "failed to determine instance type from cluster metadata as fallback: machine types missing"
  | .imageMissing region => s!"no machine image found for region {region} in cluster metadata"
  | .workloadGroupMissing name => s!"workload security group {name} not found"
  | .noPrivateAddress name => s!"bastion instance {name} does not have a private ip"
  | .notYetCreated name => s!"bastion instance {name} not yet created"
  | .disappeared name => s!"bastion instance {name} disappeared"
  | .notRunning name status => s!"bastion instance {name} is {status.text}, expected Running"
  | .reported _ message => message

end TerminalError

inductive Failure where
  | terminal (error : TerminalError)
  | api (code : ApiCode) (message : String)
  | compute (error : ComputeError)
  | status (error : StatusError)
  /-- A value that was given does not have its shape. -/
  | invalid (problems : List Problem)
  /-- A text cannot be shown, as its markup is broken. -/
  | unrendered (message : String)
  | foreign (kind : ForeignKind) (message : String)
  deriving DecidableEq, Repr

namespace Failure

def message : Failure → String
  | .terminal error => error.message
  | .api code message => s!"{code.number} {message}"
  | .compute error => error.message
  | .status error => error.message
  | .invalid problems => s!"{problems.length} validation errors"
  | .unrendered message => message
  | .foreign .key message => Text.quoted message
  | .foreign _ message => message

def transient : Failure → Bool
  | .api code _ => code.transient
  | _ => false

/-- The terminal error that a failure is, or that it makes of what was being done. -/
def during (operation resource : String) : Failure → Failure
  | .terminal error => .terminal error
  | failure => .terminal (.provider operation resource (some failure.message))

end Failure

end Bastion
