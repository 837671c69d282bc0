set_option autoImplicit false

namespace Bastion.Compute

/-- What a firewall allows or denies: a protocol, and ports or none for all ports. -/
structure Traffic where
  protocol : String
  ports : List String
  deriving DecidableEq, Repr

structure FirewallSpec where
  name : String
  network : String
  direction : String
  priority : Int
  description : String
  /-- The tags of the instances that the firewall is for. -/
  targetTags : List String
  sourceRanges : List String
  destinationRanges : List String
  allowed : List Traffic
  denied : List Traffic
  deriving DecidableEq, Repr

structure Firewall extends FirewallSpec where
  id : Nat
  deriving DecidableEq, Repr

/-- An interface of a machine; each external access has one translated address. -/
structure Interface where
  name : String
  address : String
  natAddresses : List String
  deriving DecidableEq, Repr

structure Machine where
  id : Nat
  name : String
  status : String
  interfaces : List Interface
  deriving DecidableEq, Repr

/-- An access that is given to an interface of a machine. -/
structure AccessSpec where
  name : String
  type : String
  deriving DecidableEq, Repr

structure DiskSpec where
  boots : Bool
  /-- Whether the disk is deleted with its machine. -/
  autoDelete : Bool
  image : String
  gigabytes : Nat
  deriving DecidableEq, Repr

structure MachineSpec where
  name : String
  /-- The path of the machine type. -/
  type : String
  disks : List DiskSpec
  /-- The subnetwork of each interface. -/
  subnetworks : List String
  tags : List String
  metadata : List (String × String)
  deriving DecidableEq, Repr

structure Network where
  name : String
  selfLink : String
  subnetworks : List String
  deriving DecidableEq, Repr

structure Subnetwork where
  name : String
  selfLink : String
  region : String
  range : String
  network : String
  deriving DecidableEq, Repr

structure MachineType where
  name : String
  cpus : Int
  memory : Int
  /-- The state of its deprecation, none where nothing was said of one. -/
  deprecation : Option String
  deriving DecidableEq, Repr

end Bastion.Compute
