import Bastion.Cloud.Call
import Bastion.Compute.Firewall
import Bastion.Compute.Machine

set_option autoImplicit false

namespace Bastion.Compute

abbrev ComputeProgram := Program signature

/-- The project and the zone that a provider works in. -/
structure Account where
  project : String
  zone : String
  deriving DecidableEq, Repr

namespace Account

def region (account : Account) : String := Text.beforeLast '-' account.zone

def service (account : Account) (call : ServiceCall) : ComputeProgram call.Answer :=
  .perform (S := signature) (.service account.project call)

end Account

def operationSeconds : Nat := 300

/-- The access through which a machine is reached from outside. -/
def externalAccess : AccessSpec := ⟨"External NAT", "ONE_TO_ONE_NAT"⟩

def awaitOperation : ComputeProgram Unit :=
  .perform (S := signature) (.awaitOperation operationSeconds)

def retrySeconds : Nat := 4

/-- Tries up to so many times more while the failures are transient. -/
def retrying {α : Type} : Nat → ComputeProgram α → ComputeProgram α
  | 0, program => program
  | more + 1, program =>
    program.recover fun failure =>
      if failure.transient then do
        Program.perform (S := signature) (.sleep retrySeconds)
        retrying more program
      else .fail failure

def retried {α : Type} (program : ComputeProgram α) : ComputeProgram α := retrying 2 program

def refuse {α : Type} (error : ComputeError) : ComputeProgram α := .fail (.compute error)

namespace Account

variable (account : Account)

/-- The first of the subnetworks that lies in the region. -/
def subnetOf (network : Network) : Option String :=
  network.subnetworks.find? (Text.contains s!"/regions/{account.region}/")

def lookupNetwork (name : String) : ComputeProgram Cloud.Network :=
  retried do
    let network ← account.service (.getNetwork name)
    match account.subnetOf network with
    | none => refuse (.noSubnetwork name account.region)
    | some subnet => return ⟨network.selfLink, network.name, subnet⟩

/-- The region that the address of a subnetwork names. -/
def regionOf (subnet : String) : String :=
  (Text.cut '/' ((Text.pieces "/regions/" subnet).getLast?.getD "")).1

def lookupSubnet (id : String) : ComputeProgram Cloud.Subnet :=
  retried do
    let subnet ← account.service (.getSubnetwork (regionOf id) (Text.afterLast '/' id))
    if Text.afterLast '/' subnet.region = account.region then
      return ⟨subnet.selfLink, account.zone, some subnet.range⟩
    else refuse (.subnetOutside subnet.name account.zone)

def listAvailability (cores : Int) (zone : String) : ComputeProgram Cloud.Availability :=
  retried do
    let machines ← account.service (.listMachineTypes zone cores)
    return offersOf zone machines

def listFirewalls : ComputeProgram (List Firewall) := retried (account.service .listFirewalls)

/-- The firewall whose id is that of the group. -/
def anchorIn? (firewalls : List Firewall) (group : String) : Option Firewall :=
  firewalls.find? fun firewall => toString firewall.id = group

def anchorIn (firewalls : List Firewall) (group : String) : ComputeProgram Firewall :=
  match anchorIn? firewalls group with
  | some anchor => return anchor
  | none => refuse (.groupNotFound group)

def anchor (group : String) : ComputeProgram Firewall := do
  anchorIn (← account.listFirewalls) group

def getGroup (name : String) : ComputeProgram (Option Cloud.Group) := do
  let firewall ← account.service (.getFirewall name)
  return some ⟨toString firewall.id, firewall.name, some firewall.network⟩

/-- A name that no firewall has is that of no group. -/
def lookupGroup (name : String) : ComputeProgram (Option Cloud.Group) :=
  retried <| (account.getGroup name).recover fun failure =>
    match failure with
    | .api .notFound _ => return none
    | failure => .fail failure

def createGroup (network name : String) : ComputeProgram Cloud.Group := do
  account.service (.insertFirewall (anchorSpec network name))
  awaitOperation
  match ← account.lookupGroup name with
  | some group => return group
  | none => refuse (.groupNotCreated name)

/-- Whether a firewall is a rule of the group that the anchor holds, in that direction. -/
def isRuleOf (anchor : Firewall) (direction : Direction) (firewall : Firewall) : Bool :=
  firewall.name ≠ anchor.name && firewall.targetTags.contains anchor.name &&
    Text.lowerCase firewall.direction = direction.text

def readRules : List Firewall → ComputeProgram (List Rule)
  | [] => return []
  | firewall :: rest => do
    let rule ← readRule firewall
    let rules ← readRules rest
    return rule :: rules

def describeRules (group : String) (direction : Direction) : ComputeProgram (List Rule) := do
  let firewalls ← account.listFirewalls
  let anchor ← anchorIn firewalls group
  readRules (firewalls.filter (isRuleOf anchor direction))

/-- The address ranges of the network that a group lies in. -/
def groupRanges (group : String) : ComputeProgram (List String) := do
  let anchor ← account.anchor group
  let subnets ← account.service (.listSubnetworks account.region anchor.network)
  if subnets.isEmpty then refuse (.noRanges anchor.name) else return subnets.map (·.range)

/-- Where a rule leads to: the ranges of a group, or a block of addresses. -/
def destinations (rule : Rule) : ComputeProgram (List String) :=
  match rule.direction, present rule.destinationGroup with
  | .ingress, _ => return []
  | .egress, some group => account.groupRanges group
  | .egress, none => return (present rule.destination).toList

def createRule (group : String) (rule : Rule) : ComputeProgram Unit := do
  let anchor ← account.anchor group
  let destinations ← account.destinations rule
  account.service (.insertFirewall (ruleSpec anchor.name anchor.network rule destinations))
  awaitOperation

def revokeRule (rule : Rule) : ComputeProgram Unit := do
  match present rule.handle with
  | none => refuse (.noHandle rule.description)
  | some handle =>
    account.service (.deleteFirewall handle)
    awaitOperation

def findMachine (filter : InstanceFilter) : ComputeProgram (Option Machine) :=
  retried do
    let machines ← account.service (.listInstances account.zone filter)
    return machines.head?

def lookupInstance (name : String) : ComputeProgram (Option Cloud.Instance) := do
  let machine ← account.findMachine (.named name)
  return machine.map Machine.toInstance

/-- The machine of an instance: a boot disk of ten gigabytes, the tag of its group, and the user data
as the script that runs at its start. -/
def machineSpec (tag : String) (spec : Cloud.InstanceSpec) : MachineSpec where
  name := spec.name
  type := s!"zones/{spec.zone}/machineTypes/{spec.type}"
  disks := [⟨true, true, spec.image, 10⟩]
  subnetworks := [spec.subnet]
  tags := [tag]
  metadata := [("startup-script", spec.userData)]

def createInstance (spec : Cloud.InstanceSpec) : ComputeProgram Cloud.Instance := do
  let anchor ← account.anchor spec.group
  account.service (.insertInstance spec.zone (machineSpec anchor.name spec))
  awaitOperation
  match ← account.lookupInstance spec.name with
  | some created => return created
  | none => refuse (.instanceNotCreated spec.name)

/-- The address of a machine that an external access was asked for, once the access is there. -/
def attachedAddress (machine : Machine) : ComputeProgram (Option String) := do
  awaitOperation
  let refreshed ← account.lookupInstance machine.name
  return refreshed.bind (·.publicAddress)

/-- Gives the first interface an external access. -/
def attachAddress (machine : Machine) (interface : Interface) :
    ComputeProgram (Option String) := do
  .info s!"Attaching external IP to {machine.name}"
  account.service (.addAccess account.zone machine.name interface.name externalAccess)
  account.attachedAddress machine

/-- The external address of an instance, which is given one unless it has an external access. -/
def allocateAddress (instanceId : String) : ComputeProgram (Option String) := do
  match ← account.findMachine (.identified instanceId) with
  | none => refuse (.instanceNotFound instanceId)
  | some machine =>
    match machine.interfaces with
    | [] => refuse .noInterface
    | interface :: _ =>
      if interface.natAddresses.isEmpty then account.attachAddress machine interface
      else return machine.toInstance.publicAddress

def carryOut : (call : Cloud.Call) → ComputeProgram call.method.Answer
  | .lookupNetwork name => some <$> account.lookupNetwork name
  | .lookupSubnet id => some <$> account.lookupSubnet id
  | .listAvailability cores zone => some <$> account.listAvailability cores zone
  | .lookupGroup name => account.lookupGroup name
  | .createGroup network name => some <$> account.createGroup network name
  | .lookupInstance name => account.lookupInstance name
  | .createInstance spec => some <$> account.createInstance spec
  | .describeRules group direction => some <$> account.describeRules group direction
  | .createRule _ group rule => (fun _ => .null) <$> account.createRule group rule
  | .revokeRule _ _ rule => (fun _ => .null) <$> account.revokeRule rule
  | .allocateAddress instanceId => Json.ofString? <$> account.allocateAddress instanceId

end Account

end Bastion.Compute
