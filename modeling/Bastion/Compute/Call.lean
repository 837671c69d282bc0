import Bastion.Compute.Resource
import Bastion.Program

set_option autoImplicit false

namespace Bastion.Compute

inductive InstanceFilter where
  | named (name : String)
  | identified (id : String)
  deriving DecidableEq, Repr

def InstanceFilter.text : InstanceFilter → String
  | .named name => "name = \"" ++ name ++ "\""
  | .identified id => "id = " ++ id

def InstanceFilter.admits (filter : InstanceFilter) (machine : Machine) : Bool :=
  match filter with
  | .named name => machine.name = name
  | .identified id => toString machine.id = id

def networkFilterText (network : String) : String := "network = \"" ++ network ++ "\""

def coresFilterText (cores : Int) : String := s!"guestCpus = {cores}"

inductive ServiceCall where
  | getFirewall (name : String)
  | listFirewalls
  | insertFirewall (spec : FirewallSpec)
  | deleteFirewall (name : String)
  | listInstances (zone : String) (filter : InstanceFilter)
  | insertInstance (zone : String) (spec : MachineSpec)
  | addAccess (zone machine interface : String) (access : AccessSpec)
  | getNetwork (name : String)
  | getSubnetwork (region name : String)
  | listSubnetworks (region network : String)
  | listMachineTypes (zone : String) (cores : Int)
  deriving DecidableEq, Repr

namespace ServiceCall

@[reducible]
def Answer : ServiceCall → Type
  | .getFirewall _ => Firewall
  | .listFirewalls => List Firewall
  | .insertFirewall _ => Unit
  | .deleteFirewall _ => Unit
  | .listInstances .. => List Machine
  | .insertInstance .. => Unit
  | .addAccess .. => Unit
  | .getNetwork _ => Network
  | .getSubnetwork .. => Subnetwork
  | .listSubnetworks .. => List Subnetwork
  | .listMachineTypes .. => List MachineType

def mutates : ServiceCall → Bool
  | .insertFirewall _ | .deleteFirewall _ | .insertInstance .. | .addAccess .. => true
  | _ => false

end ServiceCall

inductive Method where
  | firewallsGet
  | firewallsList
  | firewallsInsert
  | firewallsDelete
  | instancesList
  | instancesInsert
  | instancesAddAccess
  | networksGet
  | subnetworksGet
  | subnetworksList
  | machineTypesList
  | operationResult
  deriving DecidableEq, Repr

def ServiceCall.method : ServiceCall → Method
  | .getFirewall _ => .firewallsGet
  | .listFirewalls => .firewallsList
  | .insertFirewall _ => .firewallsInsert
  | .deleteFirewall _ => .firewallsDelete
  | .listInstances .. => .instancesList
  | .insertInstance .. => .instancesInsert
  | .addAccess .. => .instancesAddAccess
  | .getNetwork _ => .networksGet
  | .getSubnetwork .. => .subnetworksGet
  | .listSubnetworks .. => .subnetworksList
  | .listMachineTypes .. => .machineTypesList

inductive Call where
  | service (project : String) (call : ServiceCall)
  /-- Waits for the operation started last, that many seconds at most. -/
  | awaitOperation (seconds : Nat)
  | sleep (seconds : Nat)
  deriving DecidableEq, Repr

@[reducible]
def signature : Signature where
  Op := Call
  Answer
    | .service _ call => call.Answer
    | .awaitOperation _ => Unit
    | .sleep _ => Unit

end Bastion.Compute
