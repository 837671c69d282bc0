import Bastion.Cloud.Availability
import Bastion.Compute.Resource

set_option autoImplicit false

namespace Bastion.Compute

open Cloud (Status Instance Offer Availability)

def statusWords : List (String × Status) :=
  [("PROVISIONING", .pending), ("STAGING", .pending), ("REPAIRING", .pending),
    ("RUNNING", .running), ("STOPPING", .stopping), ("SUSPENDING", .stopping),
    ("SUSPENDED", .stopped), ("TERMINATED", .stopped)]

/-- Only the first interface counts, and of its external accesses the first one. -/
def Machine.toInstance (machine : Machine) : Instance where
  id := toString machine.id
  name := machine.name
  status := (Keyed.get? statusWords machine.status).getD .unknown
  privateAddresses :=
    match machine.interfaces.head? with
    | some interface => if interface.address = "" then [] else [interface.address]
    | none => []
  publicAddress := do
    let interface ← machine.interfaces.head?
    let address ← interface.natAddresses.head?
    if address = "" then none else some address

def MachineType.deprecated (machine : MachineType) : Bool :=
  machine.deprecation.any (· ≠ "")

def MachineType.offer (machine : MachineType) : Offer :=
  ⟨machine.name, if machine.deprecated then "Deprecated" else Availability.available⟩

/-- Types of least memory first, types of the same memory in their order. -/
def sortByMemory (machines : List MachineType) : List MachineType :=
  machines.mergeSort fun one other => one.memory ≤ other.memory

/-- What a zone offers: available types first, and the smaller ones first among them. -/
def offersOf (zone : String) (machines : List MachineType) : Availability :=
  let sorted := sortByMemory machines
  let ordered := sorted.filter (!·.deprecated) ++ sorted.filter (·.deprecated)
  if ordered.isEmpty then ⟨[]⟩
  else ⟨[⟨zone, [⟨Cloud.Catalogue.defaultKind, ordered.map MachineType.offer⟩]⟩]⟩

end Bastion.Compute
