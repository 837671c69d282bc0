import Bastion.Pass.Calls
import Bastion.Request

set_option autoImplicit false

namespace Bastion.Pass

open Cloud (Placement)

def resolveNetwork (name : String) : PassProgram Placement := do
  match ← (lookupNetwork name).during "look up network" name with
  | none => nothing "look up network" name "no network returned"
  | some network =>
    match ← (lookupSubnet network.subnet).during "look up subnet" network.subnet with
    | none => nothing "look up subnet" network.subnet "no subnet returned"
    | some subnet => return ⟨network.id, subnet.id, subnet.zone⟩

/-- The numbers of cores that are tried, in this order. -/
def coreCandidates : List Int := [1, 2]

/-- The type that the zone has available for the first number of cores that has one. -/
def availableType (zone : String) : List Int → PassProgram (Option String)
  | [] => return none
  | cores :: rest => do
    let availability ← (listAvailability cores zone).during "list instance types in"
      s!"{zone} ({cores} cores)"
    match present (availability.bind Cloud.Availability.availableType) with
    | some type => return some type
    | none => availableType zone rest

/-- An available type, or else the first machine type of the cluster. -/
def resolveInstanceType (zone : String) (cluster : Cluster) (candidates : List Int) :
    PassProgram String := do
  match ← availableType zone candidates with
  | some type => return type
  | none =>
    match cluster.machineTypes with
    | [] => stop .machineTypesMissing
    | machine :: _ =>
      .info ("Falling back to first machine type of the cluster " ++
        s!"as bastion instance type: {machine.name}")
      return machine.name

/-- The image that is asked for, or else the first image of the cluster that the region has. -/
def resolveImage (options : Options) (cluster : Cluster) : Except TerminalError String :=
  match present options.imageId with
  | some image => .ok image
  | none =>
    let images := cluster.machineImages.findSome? fun image =>
      present (Keyed.get? image.regions options.region)
    match images with
    | some image => .ok image
    | none => .error (.imageMissing options.region)

end Bastion.Pass
