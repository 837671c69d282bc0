import Bastion.Pass.Placement
import Bastion.Proofs.Attempts
import Bastion.Proofs.Carriers
import Bastion.Proofs.TextOccurrences

set_option autoImplicit false

namespace Bastion.Compute

open Program

/-- What stands before the region in the address of a subnetwork. -/
def regionMark : List Char := "/regions/".toList

/-- The address of a subnetwork, which names its region in one place. -/
structure SubnetworkAddress where
  lead : String
  region : String
  name : String
  regionPlain : '/' ∉ region.toList
  namePlain : '/' ∉ name.toList
  once : Text.occurrences regionMark
    (lead ++ "/regions/" ++ region ++ "/subnetworks/" ++ name).toList = 1
  deriving DecidableEq, Repr

namespace SubnetworkAddress

def text (address : SubnetworkAddress) : String :=
  address.lead ++ "/regions/" ++ address.region ++ "/subnetworks/" ++ address.name

def ending (address : SubnetworkAddress) : List Char :=
  address.region.toList ++ '/' :: ("subnetworks/".toList ++ address.name.toList)

theorem toList_text (address : SubnetworkAddress) :
    address.text.toList = address.lead.toList ++ (regionMark ++ address.ending) := by
  have stroke : "/subnetworks/".toList = '/' :: "subnetworks/".toList := by decide
  unfold text ending regionMark
  simp only [String.toList_append, stroke, List.append_assoc, List.cons_append]

theorem once_marked (address : SubnetworkAddress) :
    Text.occurrences regionMark (address.lead.toList ++ (regionMark ++ address.ending)) = 1 := by
  rw [← toList_text]
  exact address.once

/-- A region without strokes is found in the address exactly if it is the region named there. -/
theorem contains_iff (address : SubnetworkAddress) {region : String}
    (plain : '/' ∉ region.toList) :
    Text.contains s!"/regions/{region}/" address.text = true ↔ address.region = region := by
  have word : s!"/regions/{region}/".toList = regionMark ++ (region.toList ++ ['/']) := by
    change ("/regions/" ++ region ++ "/").toList = _
    rw [String.toList_append, String.toList_append, List.append_assoc]
    rfl
  unfold Text.contains
  rw [word, toList_text, Text.containsChars_iff]
  constructor
  · rintro ⟨before, after, same⟩
    rw [List.append_assoc, List.append_assoc, List.append_assoc] at same
    obtain rfl := Text.before_unique address.once_marked same.symm
    have ends := List.append_cancel_left (List.append_cancel_left same)
    have cut := Text.cutChars_append plain after
    have named : Text.cutChars '/' address.ending = (address.region.toList, _) :=
      Text.cutChars_append address.regionPlain _
    rw [← ends, List.singleton_append, cut] at named
    exact String.toList_inj.1 (congrArg Prod.fst named).symm
  · rintro rfl
    refine ⟨address.lead.toList, "subnetworks/".toList ++ address.name.toList, ?_⟩
    unfold ending
    simp only [List.append_assoc, List.singleton_append]

theorem regionOf_text (address : SubnetworkAddress) :
    Account.regionOf address.text = address.region := by
  have given : regionMark ≠ [] := List.cons_ne_nil _ _
  have pieces : Text.pieces "/regions/" address.text = [address.lead, String.ofList address.ending] := by
    change (Text.piecesFrom regionMark 0 address.text.toList).map String.ofList = _
    rw [toList_text, Text.piecesFrom_of_once given address.once_marked, List.map_cons,
      String.ofList_toList]
    rfl
  have named : Text.cutChars '/' address.ending = (address.region.toList, _) :=
    Text.cutChars_append address.regionPlain _
  unfold Account.regionOf
  rw [pieces]
  change (Text.cut '/' (String.ofList address.ending)).1 = _
  unfold Text.cut
  rw [String.toList_ofList, named]
  exact String.ofList_toList

theorem afterLast_text (address : SubnetworkAddress) :
    Text.afterLast '/' address.text = address.name := by
  have ends : address.text.toList = (address.lead.toList ++ (regionMark ++
      (address.region.toList ++ '/' :: "subnetworks".toList))) ++ '/' :: address.name.toList := by
    have stroke : "subnetworks/".toList = "subnetworks".toList ++ ['/'] := by decide
    rw [toList_text]
    unfold ending
    rw [stroke]
    simp only [List.append_assoc, List.cons_append, List.nil_append]
  unfold Text.afterLast
  rw [ends, Text.afterLastChars_append address.namePlain, String.ofList_toList]

end SubnetworkAddress

namespace Account

variable {account : Account}

theorem region_plain (plain : '/' ∉ account.zone.toList) : '/' ∉ account.region.toList := by
  unfold region Text.beforeLast
  rw [String.toList_ofList]
  exact fun member => plain (Text.mem_of_mem_beforeLastChars member)

theorem subnetOf_eq (plain : '/' ∉ account.zone.toList) {network : Network}
    {addresses : List SubnetworkAddress}
    (listed : network.subnetworks = addresses.map SubnetworkAddress.text) :
    account.subnetOf network =
      (addresses.find? fun address => address.region = account.region).map SubnetworkAddress.text := by
  unfold subnetOf
  rw [listed, List.find?_map]
  refine congrArg (Option.map _) (congrArg (List.find? · addresses) (funext fun address => ?_))
  exact Bool.eq_iff_iff.2 ((address.contains_iff (region_plain plain)).trans decide_eq_true_iff.symm)

/-- The request for the subnetwork of that address. -/
def subnetRequest (account : Account) (address : SubnetworkAddress) : Call :=
  .service account.project (.getSubnetwork address.region address.name)

section

variable {σ : Type} {handler : Handler signature σ} {network : Network}
  {addresses : List SubnetworkAddress} {name : String}

theorem fares_lookupNetwork (plain : '/' ∉ account.zone.toList)
    (listed : network.subnetworks = addresses.map SubnetworkAddress.text) {state : σ}
    (answered : (handler (.service account.project (.getNetwork name)) state).answer = .ok network) :
    (account.lookupNetwork name).Fares handler state
      (match addresses.find? fun address => address.region = account.region with
        | some address => .ok ⟨network.selfLink, network.name, address.text⟩
        | none => .error (.compute (.noSubnetwork name account.region)))
      [.service account.project (.getNetwork name)]
      (handler (.service account.project (.getNetwork name)) state).state := by
  have picked := subnetOf_eq plain listed
  cases found : addresses.find? fun address => address.region = account.region with
  | some address =>
    rw [found] at picked
    refine fares_retried answered ?_ ?_ <;> rw [picked]
    · exact .inl ⟨_, rfl⟩
    · rfl
  | none =>
    rw [found] at picked
    refine fares_retried answered ?_ ?_ <;> rw [picked]
    · exact .inr ⟨_, rfl⟩
    · rfl

theorem lookupSubnet_text (account : Account) (address : SubnetworkAddress) :
    account.lookupSubnet address.text = retried (do
      let subnet ← account.service (.getSubnetwork address.region address.name)
      if Text.afterLast '/' subnet.region = account.region then
        return ⟨subnet.selfLink, account.zone, some subnet.range⟩
      else refuse (.subnetOutside subnet.name account.zone)) := by
  unfold lookupSubnet
  rw [address.regionOf_text, address.afterLast_text]

/-- Region and name are those of the address, and nothing else is asked for. -/
theorem calls_lookupSubnet (account : Account) (address : SubnetworkAddress) (state : σ) :
    ∃ more, ((account.lookupSubnet address.text).run handler state).calls =
      account.subnetRequest address :: more ∧
        ∀ op ∈ more, op = account.subnetRequest address ∨ op = .sleep retrySeconds := by
  let Asked : Call → Prop := fun op =>
    op = account.subnetRequest address ∨ op = .sleep retrySeconds
  have made : (account.lookupSubnet address.text).Makes Asked := by
    have asked : Asked (account.subnetRequest address) := .inl rfl
    rw [lookupSubnet_text]
    refine makes_retrying (.inr rfl) (makes_bind (makes_perform (S := signature) asked) ?_) 2
    intro subnet
    split <;> trivial
  have told : ∃ more, ((account.lookupSubnet address.text).run handler state).calls =
      account.subnetRequest address :: more := by
    rw [lookupSubnet_text]
    exact ⟨_, rfl⟩
  obtain ⟨more, told⟩ := told
  refine ⟨more, told, fun op member => ?_⟩
  have inside : op ∈ ((account.lookupSubnet address.text).run handler state).calls := by
    rw [told]
    exact List.mem_cons_of_mem _ member
  exact made.fits_of_calls inside

theorem fares_lookupSubnet {address : SubnetworkAddress} (own : address.region = account.region)
    {subnet : Subnetwork} {lead : String} (lies : subnet.region = lead ++ "/" ++ address.region)
    {state : σ} (answered : (handler (account.subnetRequest address) state).answer = .ok subnet) :
    (account.lookupSubnet address.text).Fares handler state
      (.ok ⟨subnet.selfLink, account.zone, some subnet.range⟩) [account.subnetRequest address]
      (handler (account.subnetRequest address) state).state := by
  have ends : subnet.region.toList = lead.toList ++ '/' :: address.region.toList := by
    rw [lies, String.toList_append, String.toList_append, List.append_assoc]
    rfl
  have inside : Text.afterLast '/' subnet.region = account.region := by
    unfold Text.afterLast
    rw [ends, Text.afterLastChars_append address.regionPlain, String.ofList_toList, own]
  rw [lookupSubnet_text]
  refine fares_retried answered ?_ ?_ <;> rw [if_pos inside]
  · exact .inl ⟨_, rfl⟩
  · rfl

/-- Picked by `lookup_network` is the first address in the region of the account, or else there is none.
The subnetwork that `lookup_subnet` asks for then is the one of that address; as it lies in that region,
it is resolved. -/
theorem subnet_of_region_resolved (plain : '/' ∉ account.zone.toList)
    (listed : network.subnetworks = addresses.map SubnetworkAddress.text) {site : Site σ}
    (answered : (handler (.service account.project (.getNetwork name)) site.world).answer =
      .ok network) :
    let asked : Call := .service account.project (.getNetwork name)
    let left := (handler asked site.world).state
    let picked := addresses.find? fun address => address.region = account.region
    (account.lookupNetwork name).Fares handler site.world
      (match picked with
        | some address => .ok ⟨network.selfLink, network.name, address.text⟩
        | none => .error (.compute (.noSubnetwork name account.region))) [asked] left ∧
    ∀ address, picked = some address →
      (∀ now, ∃ more, ((account.lookupSubnet address.text).run handler now).calls =
        account.subnetRequest address :: more ∧
          ∀ op ∈ more, op = account.subnetRequest address ∨ op = .sleep retrySeconds) ∧
      ∀ subnet lead, (handler (account.subnetRequest address) left).answer = .ok subnet →
        subnet.region = lead ++ "/" ++ address.region →
          ∃ after, ((Pass.resolveNetwork name).callsBesideStatusBy account.carryOut).Fares
            (Site.handler handler) site (.ok ⟨network.selfLink, subnet.selfLink, account.zone⟩)
            [.other asked, .other (account.subnetRequest address)] after := by
  intro asked left picked
  have networked := fares_lookupNetwork plain listed answered
  refine ⟨networked, fun address found => ⟨account.calls_lookupSubnet address, ?_⟩⟩
  intro subnet lead told lies
  have chosen : addresses.find? (fun address => address.region = account.region) = some address :=
    found
  have fits := List.find?_some chosen
  have own : address.region = account.region := of_decide_eq_true fits
  rw [chosen] at networked
  let between : Site σ := { site with world := left }
  let last : Site σ := { site with world := (handler (account.subnetRequest address) left).state }
  have located : (account.carryOut (.lookupNetwork name)).Fares handler site.world _ _ _ :=
    networked.map some
  have resolved : (account.carryOut (.lookupSubnet address.text)).Fares handler between.world _ _ _ :=
    (fares_lookupSubnet own lies told).map some
  have rest : ((pure ⟨network.selfLink, subnet.selfLink, account.zone⟩ :
      Pass.PassProgram Cloud.Placement).callsBesideStatusBy account.carryOut).Fares
        (Site.handler handler) last _ [] last := ⟨rfl, rfl⟩
  exact ⟨last, located.carried (S := Cloud.signature) (resolved.carried (S := Cloud.signature) rest)⟩

end

/-- Two subnetworks of one name, in regions whose names start alike. -/
def farAddress : SubnetworkAddress :=
  ⟨"projects/project-1", "region-10", "nodes", by decide, by decide, by decide +kernel⟩

def nearAddress : SubnetworkAddress :=
  ⟨"projects/project-1", "region-1", "nodes", by decide, by decide, by decide +kernel⟩

def officeNetwork : Network :=
  ⟨"shoot-vpc", "networks/shoot-vpc", [farAddress.text, nearAddress.text]⟩

/-- The subnetwork of the office, whose region is told by an address. -/
def locatedSubnet : Subnetwork := { officeSubnet with region := "projects/project-1/regions/region-1" }

theorem subnet_of_region_resolved_office :
    let site : Site Service :=
      { officeSite [] with
        world := { officeService [] with networks := [officeNetwork], subnetworks := [locatedSubnet] } }
    let asked : Call := .service "project-1" (.getNetwork "shoot-vpc")
    let read : Call := .service "project-1" (.getSubnetwork "region-1" "nodes")
    let text := "projects/project-1/regions/region-1/subnetworks/nodes"
    (officeAccount.lookupNetwork "shoot-vpc").Fares Service.handler site.world
      (.ok ⟨"networks/shoot-vpc", "shoot-vpc", text⟩) [asked]
      (Service.handler asked site.world).state ∧
    ∃ after, ((Pass.resolveNetwork "shoot-vpc").callsBesideStatusBy officeAccount.carryOut).Fares
      (Site.handler Service.handler) site (.ok ⟨"networks/shoot-vpc", "subnets/nodes", "region-1-a"⟩)
      [.other asked, .other read] after := by
  intro site asked read text
  have plain : '/' ∉ officeAccount.zone.toList := by decide
  have listed : officeNetwork.subnetworks = [farAddress, nearAddress].map SubnetworkAddress.text := rfl
  have answered : (Service.handler (.service officeAccount.project (.getNetwork "shoot-vpc"))
      site.world).answer = .ok officeNetwork := rfl
  obtain ⟨located, resolved⟩ := subnet_of_region_resolved plain listed answered
  have picked : [farAddress, nearAddress].find? (fun address => address.region = officeAccount.region) =
      some nearAddress := by decide +kernel
  rw [picked] at located
  obtain ⟨_, resolves⟩ := resolved nearAddress picked
  exact ⟨located, resolves locatedSubnet "projects/project-1/regions" rfl rfl⟩

end Account

end Bastion.Compute
