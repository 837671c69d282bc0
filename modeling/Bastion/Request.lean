import Bastion.Cidr.Parser
import Bastion.Json.Shape

set_option autoImplicit false

namespace Bastion

open Json.Shape (model required withDefault string list mapping integer)

structure MachineType where
  name : String
  cpu : Option Int
  memory : Option String
  deriving DecidableEq, Repr

def MachineType.check : Json → Checked MachineType :=
  model fun members =>
    MachineType.mk <$> required members "name" string
      <*> withDefault members "cpu" none (Json.Shape.optional integer)
      <*> withDefault members "memory" none (Json.Shape.optional string)

def MachineType.toJson (machine : MachineType) : Json :=
  .object [("name", .string machine.name), ("cpu", (machine.cpu.map Json.int).getD .null),
    ("memory", .ofString? machine.memory)]

/-- A machine image, which each region has under an id of its own. -/
structure MachineImage where
  name : String
  version : String
  regions : List (String × String)
  deriving DecidableEq, Repr

def MachineImage.check : Json → Checked MachineImage :=
  model fun members =>
    MachineImage.mk <$> required members "name" string <*> required members "version" string
      <*> withDefault members "regions" [] (mapping string)

def MachineImage.toJson (image : MachineImage) : Json :=
  .object [("name", .string image.name), ("version", .string image.version),
    ("regions", .object (image.regions.map fun (region, id) => (region, .string id)))]

structure Cluster where
  machineTypes : List MachineType
  machineImages : List MachineImage
  deriving DecidableEq, Repr

def Cluster.check : Json → Checked Cluster :=
  model fun members =>
    Cluster.mk <$> withDefault members "machine_types" [] (list MachineType.check)
      <*> withDefault members "machine_images" [] (list MachineImage.check)

def Cluster.toJson (cluster : Cluster) : Json :=
  .object [("machine_types", .array (cluster.machineTypes.map MachineType.toJson)),
    ("machine_images", .array (cluster.machineImages.map MachineImage.toJson))]

/-- The names of the resources around a bastion. -/
structure Options where
  region : String
  instanceName : String
  groupName : String
  workloadGroupName : String
  networkName : String
  imageId : Option String
  userData : String
  deriving DecidableEq, Repr

namespace Options

/-- Derives all names from those of the cluster and the bastion. -/
def ofNames (cluster bastion region userData : String) (imageId : Option String) : Options where
  region := region
  instanceName := s!"{cluster}-{bastion}-bastion"
  groupName := s!"{cluster}-{bastion}-bastion-sg"
  workloadGroupName := s!"{cluster}-sg"
  networkName := s!"{cluster}-vpc"
  imageId := imageId
  userData := userData

def check : Json → Checked Options :=
  model fun members =>
    Options.mk <$> required members "region" string
      <*> required members "instance_name" string
      <*> required members "security_group_name" string
      <*> required members "workload_security_group_name" string
      <*> required members "network_name" string
      <*> withDefault members "image_id" none (Json.Shape.optional string)
      <*> withDefault members "user_data" "" string

def toJson (options : Options) : Json :=
  .object [("region", .string options.region), ("instance_name", .string options.instanceName),
    ("security_group_name", .string options.groupName),
    ("workload_security_group_name", .string options.workloadGroupName),
    ("network_name", .string options.networkName), ("image_id", .ofString? options.imageId),
    ("user_data", .string options.userData)]

end Options

structure Request where
  bastionName : String
  options : Options
  cluster : Cluster
  /-- Who may reach the bastion by SSH. -/
  ingress : List Cidr
  deriving DecidableEq, Repr

namespace Request

def checkCidr (value : Json) : Checked Cidr :=
  match Cidr.ofJson? value with
  | some cidr => .valid cidr
  | none => .mismatch .notNetwork

def check : Json → Checked Request :=
  model fun members =>
    Request.mk <$> required members "bastion_name" string
      <*> required members "options" Options.check
      <*> withDefault members "cluster" ⟨[], []⟩ Cluster.check
      <*> withDefault members "ingress" [] (list checkCidr)

def ofText (text : String) : Checked Request := Json.Shape.documentOfText check text

def toJson (request : Request) : Json :=
  .object [("bastion_name", .string request.bastionName), ("options", request.options.toJson),
    ("cluster", request.cluster.toJson),
    ("ingress", .array (request.ingress.map fun cidr => .string cidr.text))]

end Request

end Bastion
