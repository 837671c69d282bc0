import Bastion.Json.Shape

set_option autoImplicit false

namespace Bastion.Cloud

open Json.Shape (model required withDefault string list tuple choice)

def optionalText : Json → Checked (Option String) := Json.Shape.optional string

structure Network where
  id : String
  name : String
  /-- The subnet that a bastion is placed in. -/
  subnet : String
  deriving DecidableEq, Repr

def Network.check : Json → Checked Network :=
  model fun members =>
    Network.mk <$> required members "network_id" string <*> required members "name" string
      <*> required members "subnet_id" string

def Network.toJson (network : Network) : Json :=
  .object [("network_id", .string network.id), ("name", .string network.name),
    ("subnet_id", .string network.subnet)]

structure Subnet where
  id : String
  zone : String
  range : Option String
  deriving DecidableEq, Repr

def Subnet.check : Json → Checked Subnet :=
  model fun members =>
    Subnet.mk <$> required members "subnet_id" string <*> required members "zone_id" string
      <*> withDefault members "cidr_range" none optionalText

def Subnet.toJson (subnet : Subnet) : Json :=
  .object [("subnet_id", .string subnet.id), ("zone_id", .string subnet.zone),
    ("cidr_range", .ofString? subnet.range)]

structure Placement where
  network : String
  subnet : String
  zone : String
  deriving DecidableEq, Repr

def Placement.toJson (placement : Placement) : Json :=
  .object [("network_id", .string placement.network), ("subnet_id", .string placement.subnet),
    ("zone_id", .string placement.zone)]

structure Group where
  id : String
  name : String
  network : Option String
  deriving DecidableEq, Repr

def Group.check : Json → Checked Group :=
  model fun members =>
    Group.mk <$> required members "id" string <*> required members "name" string
      <*> withDefault members "network_id" none optionalText

def Group.toJson (group : Group) : Json :=
  .object [("id", .string group.id), ("name", .string group.name),
    ("network_id", .ofString? group.network)]

inductive Status where
  | pending
  | running
  | stopping
  | stopped
  | unknown
  deriving DecidableEq, Repr

def Status.text : Status → String
  | .pending => "Pending"
  | .running => "Running"
  | .stopping => "Stopping"
  | .stopped => "Stopped"
  | .unknown => "Unknown"

def Status.choices : List (String × Status) :=
  [.pending, .running, .stopping, .stopped, .unknown].map fun status => (status.text, status)

structure Instance where
  id : String
  name : String
  status : Status
  privateAddresses : List String
  publicAddress : Option String
  deriving DecidableEq, Repr

def Instance.privateAddress (instanceInfo : Instance) : Option String :=
  instanceInfo.privateAddresses.head?

def Instance.check : Json → Checked Instance :=
  model fun members =>
    Instance.mk <$> required members "id" string <*> required members "name" string
      <*> required members "status" (choice .notChoice Status.choices)
      <*> withDefault members "private_ips" [] (tuple string)
      <*> withDefault members "public_ip" none optionalText

def Instance.toJson (instanceInfo : Instance) : Json :=
  .object [("id", .string instanceInfo.id), ("name", .string instanceInfo.name),
    ("status", .string instanceInfo.status.text),
    ("private_ips", .array (instanceInfo.privateAddresses.map .string)),
    ("public_ip", .ofString? instanceInfo.publicAddress)]

end Bastion.Cloud
