import Bastion.Compute.Call
import Bastion.Keyed

set_option autoImplicit false

/- A compute service that is kept in memory. It may be set to refuse calls, and to lose what is inserted
without a word. -/
namespace Bastion.Compute

structure Service where
  /-- What the next calls of each kind are refused with; none lets a call pass. -/
  faults : List (Method × List (Option Failure))
  firewalls : List Firewall
  machines : List Machine
  networks : List Network
  subnetworks : List Subnetwork
  machineTypes : List MachineType
  /-- The address of the next external access. -/
  natAddress : String
  /-- Status and interfaces of the next machine. -/
  newStatus : String
  newInterfaces : List Interface
  losesInserts : Bool
  /-- The id of the resource made last. -/
  lastId : Nat
  deriving DecidableEq, Repr

namespace Service

def empty : Service where
  faults := []
  firewalls := []
  machines := []
  networks := []
  subnetworks := []
  machineTypes := []
  natAddress := ""
  newStatus := "PROVISIONING"
  newInterfaces := [⟨"nic0", "10.0.0.5", []⟩]
  losesInserts := false
  lastId := 1000

def notFound (kind name : String) : Failure := .api .notFound s!"{kind} {name} not found"

def firewall? (service : Service) (name : String) : Option Firewall :=
  service.firewalls.find? fun firewall => firewall.name = name

/-- Names of firewalls are unique. An insert that is lost still takes no name twice. -/
def insertFirewall (service : Service) (spec : FirewallSpec) : Except Failure Service :=
  if (service.firewall? spec.name).isSome then
    .error (.api .conflict s!"firewall {spec.name} already exists")
  else if service.losesInserts then .ok service
  else
    let id := service.lastId + 1
    .ok { service with firewalls := service.firewalls ++ [{ spec with id := id }], lastId := id }

def deleteFirewall (service : Service) (name : String) : Except Failure Service :=
  match service.firewall? name with
  | none => .error (notFound "firewall" name)
  | some firewall => .ok { service with firewalls := service.firewalls.erase firewall }

def insertMachine (service : Service) (spec : MachineSpec) : Service :=
  if service.losesInserts then service
  else
    let id := service.lastId + 1
    let machine : Machine := ⟨id, spec.name, service.newStatus, service.newInterfaces⟩
    { service with machines := service.machines ++ [machine], lastId := id }

/-- The machine with one external access at its first interface. -/
def giveAccess (address : String) (machine : Machine) : Machine :=
  match machine.interfaces with
  | [] => machine
  | first :: rest =>
    { machine with interfaces := { first with natAddresses := [address] } :: rest }

/-- Changes the first item that passes the test. -/
def modifyFirst {α : Type} (test : α → Bool) (change : α → α) : List α → List α
  | [] => []
  | item :: rest => if test item then change item :: rest else item :: modifyFirst test change rest

def addAccess (service : Service) (name : String) : Except Failure Service :=
  if service.machines.any fun machine => machine.name = name then
    .ok { service with
      machines := modifyFirst (fun machine => machine.name = name)
        (giveAccess service.natAddress) service.machines }
  else .error (notFound "instance" name)

/-- A change that is made, or refused and not made. -/
def change (service : Service) (after : Except Failure Service) : Except Failure Unit × Service :=
  match after with
  | .ok after => (.ok (), after)
  | .error failure => (.error failure, service)

def found {α : Type} (item : Option α) (kind name : String) : Except Failure α :=
  match item with
  | some item => .ok item
  | none => .error (notFound kind name)

def carryOut (service : Service) : (call : ServiceCall) → Except Failure call.Answer × Service
  | .getFirewall name => (found (service.firewall? name) "firewall" name, service)
  | .listFirewalls => (.ok service.firewalls, service)
  | .insertFirewall spec => service.change (service.insertFirewall spec)
  | .deleteFirewall name => service.change (service.deleteFirewall name)
  | .listInstances _ filter => (.ok (service.machines.filter filter.admits), service)
  | .insertInstance _ spec => (.ok (), service.insertMachine spec)
  | .addAccess _ machine _ _ => service.change (service.addAccess machine)
  | .getNetwork name =>
    (found (service.networks.find? fun network => network.name = name) "network" name, service)
  | .getSubnetwork _ name =>
    (found (service.subnetworks.find? fun subnet => subnet.name = name) "subnetwork" name, service)
  | .listSubnetworks _ network =>
    (.ok (service.subnetworks.filter fun subnet => subnet.network = network), service)
  | .listMachineTypes _ cores =>
    (.ok (service.machineTypes.filter fun machine => machine.cpus = cores), service)

def takeFault (service : Service) (method : Method) : Option Failure × Service :=
  match Keyed.get? service.faults method with
  | some (fault :: rest) => (fault, { service with faults := Keyed.put service.faults method rest })
  | _ => (none, service)

def handler : Handler signature Service
  | .service _ call, service =>
    match service.takeFault call.method with
    | (some failure, service) => ⟨.error failure, service, []⟩
    | (none, service) =>
      let (answer, service) := service.carryOut call
      ⟨answer, service, []⟩
  | .awaitOperation _, service =>
    match service.takeFault .operationResult with
    | (some failure, service) => ⟨.error failure, service, []⟩
    | (none, service) => ⟨.ok (), service, []⟩
  | .sleep _, service => ⟨.ok (), service, []⟩

end Service

end Bastion.Compute
