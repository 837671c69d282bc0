import Bastion.Proofs.CidrText
import Bastion.Proofs.Shapes
import Bastion.Request

set_option autoImplicit false

namespace Bastion

open Json (Short obstacleWithin? obstacle_int obstacle_array obstacle_object)
open Json.Shape (Brief list mapping integer string model_eq_valid withDefault_eq_valid list_eq_valid
  optional_eq_valid)
open Checked (map_eq_valid seq_eq_valid)

namespace MachineType

theorem check_toJson (machine : MachineType) : check machine.toJson = .valid machine := by
  obtain ⟨name, cpu, memory⟩ := machine
  cases cpu <;> cases memory <;> rfl

theorem toJson_fits {machine : MachineType} (short : ∀ cpu ∈ machine.cpu, Short cpu) (room : Nat) :
    obstacleWithin? (room + 1) machine.toJson = none := by
  have counted : obstacleWithin? room ((machine.cpu.map Json.int).getD .null) = none := by
    cases counted : machine.cpu with
    | none => exact Json.obstacle_null
    | some cpu => exact obstacle_int.2 (short cpu counted)
  simp [toJson, obstacle_object, counted]

theorem short_of_check {value : Json} (brief : Brief value) {machine : MachineType}
    (valid : check value = .valid machine) : ∀ cpu ∈ machine.cpu, Short cpu := by
  obtain ⟨members, rfl, valid⟩ := model_eq_valid.1 valid
  obtain ⟨_, memory, first, _, rfl⟩ := seq_eq_valid.1 valid
  obtain ⟨_, number, named, counted, rfl⟩ := seq_eq_valid.1 first
  obtain ⟨name, _, rfl⟩ := map_eq_valid.1 named
  intro cpu held
  obtain rfl : number = some cpu := held
  rcases withDefault_eq_valid counted with absent | ⟨told, found, valid⟩
  · cases absent
  · exact Json.Shape.short_of_integer (brief.member found) (optional_eq_valid valid)

end MachineType

namespace MachineImage

theorem check_toJson {image : MachineImage} (distinct : (Keyed.names image.regions).Nodup) :
    check image.toJson = .valid image := by
  obtain ⟨name, version, regions⟩ := image
  have mapped : mapping string (.object (Keyed.mapValues Json.string regions)) = .valid regions := by
    have all := Checked.members_mapValues string Json.string (fun _ => rfl) regions
    exact map_eq_valid.2 ⟨regions, all, Keyed.collect_of_nodup distinct⟩
  change mk <$> Checked.valid name <*> Checked.valid version <*>
    (mapping string (.object (Keyed.mapValues Json.string regions))).inside (.member "regions") = _
  rw [mapped]
  rfl

theorem toJson_fits (image : MachineImage) (room : Nat) :
    obstacleWithin? (room + 2) image.toJson = none := by
  have mapped : obstacleWithin? (room + 1) (.object (Keyed.mapValues Json.string image.regions)) =
      none := by
    refine obstacle_object.2 fun entry member => ?_
    obtain ⟨_, _, rfl⟩ := List.mem_map.1 member
    exact Json.obstacle_string
  unfold toJson
  rw [obstacle_object]
  simpa [Keyed.mapValues] using mapped

theorem distinct_of_check {value : Json} {image : MachineImage}
    (valid : check value = .valid image) : (Keyed.names image.regions).Nodup := by
  obtain ⟨members, rfl, valid⟩ := model_eq_valid.1 valid
  obtain ⟨_, regions, first, mapped, rfl⟩ := seq_eq_valid.1 valid
  obtain ⟨_, version, named, _, rfl⟩ := seq_eq_valid.1 first
  obtain ⟨name, _, rfl⟩ := map_eq_valid.1 named
  rcases withDefault_eq_valid mapped with rfl | ⟨told, _, valid⟩
  · exact List.nodup_nil
  · exact Json.Shape.nodup_of_mapping valid

end MachineImage

/-- What checking leaves of a cluster: no integer is too long for a text, and no region of an image comes
twice. -/
structure Cluster.Normal (cluster : Cluster) : Prop where
  cpus : ∀ machine ∈ cluster.machineTypes, ∀ cpu ∈ machine.cpu, Short cpu
  regions : ∀ image ∈ cluster.machineImages, (Keyed.names image.regions).Nodup

namespace Cluster

theorem check_toJson {cluster : Cluster} (normal : cluster.Normal) :
    check cluster.toJson = .valid cluster := by
  obtain ⟨machineTypes, machineImages⟩ := cluster
  have types : list MachineType.check (.array (machineTypes.map MachineType.toJson)) =
      .valid machineTypes :=
    Checked.items_map (fun machine _ => machine.check_toJson) 0
  have images : list MachineImage.check (.array (machineImages.map MachineImage.toJson)) =
      .valid machineImages :=
    Checked.items_map (fun image member => MachineImage.check_toJson (normal.regions image member)) 0
  change mk <$> (list MachineType.check (.array _)).inside (.member "machine_types") <*>
    (list MachineImage.check (.array _)).inside (.member "machine_images") = _
  rw [types, images]
  rfl

theorem toJson_fits {cluster : Cluster} (normal : cluster.Normal) (room : Nat) :
    obstacleWithin? (room + 4) cluster.toJson = none := by
  have types : ∀ machine ∈ cluster.machineTypes,
      obstacleWithin? (room + 2) machine.toJson = none :=
    fun machine member => MachineType.toJson_fits (normal.cpus machine member) (room + 1)
  simpa [toJson, obstacle_object, obstacle_array, MachineImage.toJson_fits] using types

theorem normal_of_check {value : Json} (brief : Brief value) {cluster : Cluster}
    (valid : check value = .valid cluster) : cluster.Normal := by
  obtain ⟨members, rfl, valid⟩ := model_eq_valid.1 valid
  obtain ⟨_, machineImages, first, imaged, rfl⟩ := seq_eq_valid.1 valid
  obtain ⟨machineTypes, typed, rfl⟩ := map_eq_valid.1 first
  constructor
  case cpus =>
    rcases withDefault_eq_valid typed with rfl | ⟨told, found, valid⟩
    · exact fun _ member => by cases member
    · obtain ⟨items, rfl, sound⟩ := list_eq_valid valid
      intro machine member
      obtain ⟨item, held, passed⟩ := sound machine member
      exact MachineType.short_of_check ((brief.member found).item item held) passed
  case regions =>
    rcases withDefault_eq_valid imaged with rfl | ⟨told, found, valid⟩
    · exact fun _ member => by cases member
    · obtain ⟨items, rfl, sound⟩ := list_eq_valid valid
      intro image member
      obtain ⟨item, _, passed⟩ := sound image member
      exact MachineImage.distinct_of_check passed

end Cluster

namespace Options

theorem check_toJson (options : Options) : check options.toJson = .valid options := by
  obtain ⟨region, instanceName, groupName, workloadGroupName, networkName, imageId, userData⟩ :=
    options
  cases imageId <;> rfl

theorem toJson_fits (options : Options) (room : Nat) :
    obstacleWithin? (room + 1) options.toJson = none := by
  simp [toJson, obstacle_object]

end Options

namespace Request

theorem checkCidr_text (cidr : Cidr) : checkCidr (.string cidr.text) = .valid cidr := by
  unfold checkCidr Cidr.ofJson?
  simp only [Cidr.parse?_text]

theorem check_toJson {request : Request} (normal : request.cluster.Normal) :
    check request.toJson = .valid request := by
  obtain ⟨bastionName, options, cluster, ingress⟩ := request
  have blocks : list checkCidr (.array (ingress.map fun cidr => .string cidr.text)) =
      .valid ingress := Checked.items_map (fun cidr _ => checkCidr_text cidr) 0
  change mk <$> Checked.valid bastionName <*>
    (Options.check options.toJson).inside (.member "options") <*>
    (Cluster.check cluster.toJson).inside (.member "cluster") <*>
    (list checkCidr (.array _)).inside (.member "ingress") = _
  rw [Options.check_toJson, Cluster.check_toJson normal, blocks]
  rfl

theorem toJson_fits {request : Request} (normal : request.cluster.Normal) (room : Nat) :
    obstacleWithin? (room + 5) request.toJson = none := by
  simp [toJson, obstacle_object, obstacle_array, Options.toJson_fits, Cluster.toJson_fits normal]

theorem normal_of_check {value : Json} (brief : Brief value) {request : Request}
    (valid : check value = .valid request) : request.cluster.Normal := by
  obtain ⟨members, rfl, valid⟩ := model_eq_valid.1 valid
  obtain ⟨_, ingress, third, _, rfl⟩ := seq_eq_valid.1 valid
  obtain ⟨_, cluster, second, told, rfl⟩ := seq_eq_valid.1 third
  obtain ⟨_, options, first, _, rfl⟩ := seq_eq_valid.1 second
  obtain ⟨bastionName, _, rfl⟩ := map_eq_valid.1 first
  rcases withDefault_eq_valid told with rfl | ⟨value, found, valid⟩
  · exact ⟨by simp, by simp⟩
  · exact Cluster.normal_of_check (brief.member found) valid

def text (request : Request) : String := Json.print .dense request.toJson

theorem ofText_text {request : Request} (normal : request.cluster.Normal) :
    ofText request.text = .valid request := by
  have checked := Json.Shape.documentOfText_print Json.legible_dense 5 (by decide)
    (toJson_fits normal) check
  exact checked.trans (check_toJson normal)

/-- Whatever text a `ReconcileRequest` was read from, its own text is read as the same request, which is
written as that text again. -/
theorem read_once {text : String} {request : Request} (accepted : ofText text = .valid request) :
    ∃ again, ofText request.text = .valid again ∧ again = request ∧ again.text = request.text := by
  obtain ⟨value, brief, valid⟩ := Json.Shape.brief_of_documentOfText accepted
  exact ⟨request, ofText_text (normal_of_check brief valid), rfl, rfl⟩

/-- A request with numerals and masks of all kinds, a region that comes twice, and a member that no one asks
for. -/
def draft : Json :=
  let options := [("region", .string "region-1"), ("instance_name", .string "bastion-1"),
    ("security_group_name", .string "bastion-1"), ("workload_security_group_name", .string "shoot-sg"),
    ("network_name", .string "shoot-vpc")]
  let machineTypes := [.object [("name", .string "m.small"), ("cpu", .bool true)],
    .object [("name", .string "m.large"), ("cpu", .float (.ofDecimal false 40 (-1)))],
    .object [("cpu", .string " +08.0 "), ("name", .string "m.huge")]]
  let linux := [("name", .string "linux"), ("version", .string "1"),
    ("regions", .object [("region-1", .string "img-1"), ("region-1", .string "img-2")])]
  .object [("bastion_name", .string "bastion-1"), ("ticket", .array [.null, .int 7]),
    ("options", .object options),
    ("cluster", .object [("machine_types", .array machineTypes),
      ("machine_images", .array [.object linux])]),
    ("ingress", .array [.string "203.0.113.0/255.255.255.0", .string "203.0.113.0/0.0.0.255",
      .string "2001:DB8:0:0:0:0:0:0/32", .string "fe80::%eth0", .int 7, .bool true])]

def draftRequest : Request where
  bastionName := "bastion-1"
  options := ⟨"region-1", "bastion-1", "bastion-1", "shoot-sg", "shoot-vpc", none, ""⟩
  cluster := ⟨[⟨"m.small", some 1, none⟩, ⟨"m.large", some 4, none⟩, ⟨"m.huge", some 8, none⟩],
    [⟨"linux", "1", [("region-1", "img-2")]⟩]⟩
  ingress := ["203.0.113.0/24", "203.0.113.0/24", "2001:db8::/32", "fe80::%eth0/128", "0.0.0.7/32",
    "0.0.0.1/32"].filterMap Cidr.parse?

theorem read_once_draft : ofText (Json.print .page draft) = .valid draftRequest ∧
    ∃ again, ofText draftRequest.text = .valid again ∧ again = draftRequest ∧
      again.text = draftRequest.text := by
  have checked : check draft = .valid draftRequest := by decide +kernel
  have accepted : ofText (Json.print .page draft) = .valid draftRequest :=
    (Json.Shape.documentOfText_print Json.legible_page 5 (by decide) (fun _ => rfl)
      check).trans checked
  exact ⟨accepted, read_once accepted⟩

end Request

end Bastion
