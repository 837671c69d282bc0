import Bastion.Proofs.RuleConvergence
import Bastion.Proofs.ServiceSettling

set_option autoImplicit false

namespace Bastion.Compute.Account

open Program

variable {account : Account} {request : Request} {group : String} {before after : Site Service}

/-- The rules of a group reconciled on the compute service. -/
def reconcile (account : Account) (request : Request) (group : String) :
    Program signature.withStatus Unit :=
  (Pass.reconcileRules request group).callsBesideStatusBy account.carryOut

theorem returns_reconcile :
    (account.reconcile request group).Returns (Site.handler Service.handler) before () after ↔
      (Pass.reconcileRules request group).Returns (Site.handler account.serve) before () after :=
  returns_carriedOut

/-- A wanted rule leads to no group, or to the workload group that was looked up. -/
theorem wanted_grounded {service : Service} {direction : Direction} {wanted : List Rule}
    (told : wantedIn? request service direction = some wanted) :
    ∀ rule ∈ wanted, Grounded service rule := by
  intro rule member group grouped
  cases direction with
  | ingress =>
    obtain rfl := Option.some.inj told
    obtain ⟨source, _, rfl⟩ := List.mem_map.1 member
    cases grouped
  | egress =>
    obtain ⟨workload, present, rest⟩ := Option.bind_eq_some_iff.1 told
    obtain ⟨address, _, rfl⟩ := Option.map_eq_some_iff.1 rest
    simp only [Rule.wantedEgress, List.mem_cons, List.not_mem_nil, or_false] at member
    rcases member with rfl | rfl
    · obtain ⟨same, _⟩ := Option.filter_eq_some_iff.1 grouped
      obtain rfl := Option.some.inj same
      have held := (Service.mem_of_firewall? present).1
      have found : ((service.firewalls.find? fun firewall =>
          toString firewall.id = (groupOf workload).id)).isSome = true :=
        List.find?_isSome.2 ⟨workload, held, decide_eq_true rfl⟩
      exact Option.isSome_iff_exists.1 found
    · cases grouped

theorem returns_workload {name : String} {workload : Cloud.Group}
    (returned : (Pass.workloadGroup name).Returns (Site.handler account.serve) before workload
      after) :
    ∃ firewall, before.world.firewall? name = some firewall ∧ workload = groupOf firewall ∧
      after.world.stock = before.world.stock := by
  obtain ⟨answer, between, found, rest⟩ := returns_bind.1 returned
  obtain ⟨told, same⟩ := returns_lookupGroup (returns_cloud (returns_during.1 found))
  cases answer with
  | none => exact (returns_fail.1 rest).elim
  | some other =>
    obtain ⟨rfl, rfl⟩ := returns_pure.1 rest
    rcases told with absent | told
    · cases absent
    · obtain ⟨firewall, held, rfl⟩ := Option.map_eq_some_iff.1 told.symm
      exact ⟨firewall, held, rfl, same⟩

theorem workload_of_faultless (account : Account) {name : String} {firewall : Firewall}
    (faultless : before.world.Faultless) (held : before.world.firewall? name = some firewall) :
    ∃ after, (Pass.workloadGroup name).Returns (Site.handler account.serve) before
      (groupOf firewall) after := by
  obtain ⟨left, told⟩ := lookupGroup_of_faultless account faultless name
  rw [held] at told
  have found : (Pass.lookupGroup name).Returns (Site.handler account.serve) before
      (some (groupOf firewall)) { before with world := left } := cloud_of_carryOut told
  exact ⟨_, (returns_during.2 found).bind (returns_done _ _)⟩

theorem returns_address {name address : String}
    (returned : (Pass.privateAddress name).Returns (Site.handler account.serve) before address
      after) :
    (instanceOf? before.world name).bind Cloud.Instance.privateAddress = some address ∧
      after.world.stock = before.world.stock := by
  obtain ⟨answer, between, found, rest⟩ := returns_bind.1 returned
  obtain ⟨rfl, same⟩ := returns_lookupInstance (returns_cloud (returns_during.1 found))
  cases located : (instanceOf? before.world name).bind Cloud.Instance.privateAddress with
  | none =>
    rw [located] at rest
    exact (returns_fail.1 rest).elim
  | some told =>
    rw [located] at rest
    obtain ⟨rfl, rfl⟩ := returns_pure.1 rest
    exact ⟨rfl, same⟩

theorem address_of_faultless (account : Account) {name address : String}
    (faultless : before.world.Faultless)
    (held : (instanceOf? before.world name).bind Cloud.Instance.privateAddress = some address) :
    ∃ after, (Pass.privateAddress name).Returns (Site.handler account.serve) before address
      after := by
  obtain ⟨left, told⟩ := lookupInstance_of_faultless account faultless name
  have found : (Pass.lookupInstance name).Returns (Site.handler account.serve) before
      (instanceOf? before.world name) { before with world := left } := cloud_of_carryOut told
  refine ⟨{ before with world := left }, (returns_during.2 found).bind ?_⟩
  rw [held]
  exact returns_done _ _

theorem Unobstructed.of_stock {anchor : Firewall} {one other : Service} {direction : Direction}
    {wanted : List Rule}
    (unobstructed : Unobstructed anchor one (diffOf anchor direction wanted one))
    (same : other.stock = one.stock) :
    Unobstructed anchor other (diffOf anchor direction wanted other) := by
  unfold diffOf
  rw [Service.firewalls_of_stock same]
  exact ⟨unobstructed.creatable.of_stock same, unobstructed.named⟩

theorem settledBy_of_stock {one other : Service} (same : other.stock = one.stock)
    (anchor : Firewall) (direction : Direction) (wanted : List Rule) :
    (settledBy anchor direction wanted other).stock =
      (settledBy anchor direction wanted one).stock := by
  rw [stock_settledBy, same, ← stock_settledBy]

theorem wantedIn?_of_stock {one other : Service} (same : other.stock = one.stock)
    (request : Request) (direction : Direction) :
    wantedIn? request other direction = wantedIn? request one direction := by
  change wantedIn? request other.stock direction = wantedIn? request one.stock direction
  rw [same]

theorem Clear.of_stock {anchor : Firewall} {one other : Service}
    (clear : Clear anchor request one) (same : other.stock = one.stock) :
    Clear anchor request other := by
  obtain ⟨wanted, told, unobstructed⟩ := clear.egress
  have sameMidway : (midway anchor request other).stock = (midway anchor request one).stock :=
    settledBy_of_stock same anchor .ingress _
  exact ⟨clear.ingress.of_stock same, wanted,
    (wantedIn?_of_stock sameMidway request .egress).trans told, unobstructed.of_stock sameMidway⟩

/-- The two look-ups of a run tell what is wanted of what leads out. -/
theorem wanted_of_lookups {settled found located : Site Service} {workload : Cloud.Group}
    {address : String}
    (grouped : (Pass.workloadGroup request.options.workloadGroupName).Returns
      (Site.handler account.serve) settled workload found)
    (addressed : (Pass.privateAddress request.options.instanceName).Returns
      (Site.handler account.serve) found address located) :
    wantedIn? request settled.world .egress =
        some (Rule.wantedEgress (some address) (some workload.id)) ∧
      located.world.stock = settled.world.stock := by
  obtain ⟨firewall, present, rfl, leftFound⟩ := returns_workload grouped
  obtain ⟨told, leftLocated⟩ := returns_address addressed
  refine ⟨?_, leftLocated.trans leftFound⟩
  change (instanceOf? found.world.stock _).bind _ = _ at told
  rw [leftFound] at told
  change (instanceOf? settled.world _).bind _ = _ at told
  unfold wantedIn?
  rw [present, Option.bind_some, told]
  rfl

theorem lookups_of_wanted (account : Account) {wanted : List Rule}
    (faultless : before.world.Faultless)
    (told : wantedIn? request before.world .egress = some wanted) :
    ∃ workload found address located,
      (Pass.workloadGroup request.options.workloadGroupName).Returns (Site.handler account.serve)
        before workload found ∧
      (Pass.privateAddress request.options.instanceName).Returns (Site.handler account.serve)
        found address located ∧
      wanted = Rule.wantedEgress (some address) (some workload.id) := by
  obtain ⟨firewall, present, rest⟩ := Option.bind_eq_some_iff.1 told
  obtain ⟨address, located, rfl⟩ := Option.map_eq_some_iff.1 rest
  obtain ⟨found, grouped⟩ := workload_of_faultless account faultless present
  obtain ⟨_, _, _, left⟩ := returns_workload grouped
  have faultlessFound := faultless_site faultless grouped
  change (instanceOf? before.world.stock _).bind _ = _ at located
  rw [← left] at located
  obtain ⟨last, addressed⟩ := address_of_faultless account faultlessFound located
  exact ⟨_, found, address, last, grouped, addressed, rfl⟩

/-- Where a run that returned started from, and what it has left. -/
structure Completes (anchor : Firewall) (request : Request) (before after : Service)
    (wanted : List Rule) : Prop where
  clear : Clear anchor request before
  told : wantedIn? request (midway anchor request before) .egress = some wanted
  left : after.stock = (settledBy anchor .egress wanted (midway anchor request before)).stock
  ingress : Rule.keySet (rulesOf anchor .ingress after.firewalls) =
    Rule.keySet (Rule.wantedIngress request.ingress)
  egress : Rule.keySet (rulesOf anchor .egress after.firewalls) = Rule.keySet wanted

theorem returns_run (orderly : before.world.Orderly)
    (returned : (Pass.reconcileRules request group).Returns (Site.handler account.serve) before ()
      after) :
    ∃ anchor wanted, anchorIn? before.world.firewalls group = some anchor ∧
      anchorIn? after.world.firewalls group = some anchor ∧
      Completes anchor request before.world after.world wanted := by
  obtain ⟨settled, workload, found, address, located, ingress, grouped, addressed, egress⟩ :=
    Pass.returns_reconcileRules.1 returned
  obtain ⟨keysIn, keysOut⟩ := (keeps account group).keySets_of_returns orderly
    (sound_storeOf orderly group) ingress grouped addressed egress
  obtain ⟨anchor, held, leftSettled, clearIn⟩ := returns_settle orderly ingress
  have orderlySettled := orderly_site orderly ingress
  have heldMidway : anchorIn? (midway anchor request before.world).firewalls group = some anchor :=
    anchorIn?_settledBy held _ _
  have wantedIn : wantedIn? request before.world .ingress =
    some (Rule.wantedIngress request.ingress) := rfl
  -- Look-ups change nothing, so the second direction starts where the first one has ended.
  obtain ⟨told, steady⟩ := wanted_of_lookups grouped addressed
  have same := steady.trans leftSettled
  have wantedOut := (wantedIn?_of_stock leftSettled request .egress).symm.trans told
  obtain ⟨other, heldLocated, leftAfter, clearOut⟩ :=
    returns_settle (orderlySettled.of_stock steady) egress
  obtain rfl : anchor = other :=
    Option.some.inj ((anchorIn?_of_stock heldMidway same).symm.trans heldLocated)
  have left := leftAfter.trans (settledBy_of_stock same anchor .egress _)
  have heldAfter : anchorIn? after.world.firewalls group = some anchor :=
    anchorIn?_of_stock (anchorIn?_settledBy heldMidway .egress _) left
  have unobstructed := clearOut fun rule member =>
    (wanted_grounded told rule member).of_stock steady
  have clear : Clear anchor request before.world :=
    ⟨clearIn (wanted_grounded wantedIn), _, wantedOut,
      unobstructed.of_stock same.symm⟩
  refine ⟨anchor, Rule.wantedEgress (some address) (some workload.id), held, heldAfter, clear,
    wantedOut, left, ?_, ?_⟩
  · rw [← rules_storeOf heldAfter]
    exact keysIn
  · rw [← rules_storeOf heldAfter]
    exact keysOut

theorem completes_of_returns {anchor : Firewall} (orderly : before.world.Orderly)
    (held : anchorIn? before.world.firewalls group = some anchor)
    (returned : (Pass.reconcileRules request group).Returns (Site.handler account.serve) before ()
      after) :
    anchorIn? after.world.firewalls group = some anchor ∧
      ∃ wanted, Completes anchor request before.world after.world wanted := by
  obtain ⟨other, wanted, heldOther, heldAfter, completes⟩ := returns_run orderly returned
  obtain rfl : anchor = other := Option.some.inj (held.symm.trans heldOther)
  exact ⟨heldAfter, wanted, completes⟩

theorem run_of_clear (account : Account) {anchor : Firewall} (faultless : before.world.Faultless)
    (orderly : before.world.Orderly)
    (held : anchorIn? before.world.firewalls group = some anchor)
    (clear : Clear anchor request before.world) :
    ∃ after, (Pass.reconcileRules request group).Returns (Site.handler account.serve) before ()
      after := by
  have wantedIn : wantedIn? request before.world .ingress =
    some (Rule.wantedIngress request.ingress) := rfl
  obtain ⟨settled, ingress⟩ := settle_of_unobstructed account faultless orderly held
    (wanted_grounded wantedIn) clear.ingress
  obtain ⟨other, heldOther, leftSettled, _⟩ := returns_settle orderly ingress
  obtain rfl : anchor = other := Option.some.inj (held.symm.trans heldOther)
  have faultlessSettled := faultless_site faultless ingress
  have orderlySettled := orderly_site orderly ingress
  obtain ⟨wanted, wantedOut, unobstructed⟩ := clear.egress
  have told := (wantedIn?_of_stock leftSettled request .egress).trans wantedOut
  obtain ⟨workload, found, address, located, grouped, addressed, rfl⟩ :=
    lookups_of_wanted account faultlessSettled told
  obtain ⟨_, steady⟩ := wanted_of_lookups grouped addressed
  have same := steady.trans leftSettled
  have faultlessLocated := faultless_site (faultless_site faultlessSettled grouped) addressed
  obtain ⟨after, egress⟩ := settle_of_unobstructed account faultlessLocated
    (orderlySettled.of_stock steady)
    (anchorIn?_of_stock (anchorIn?_settledBy held _ _) same)
    (fun rule member => (wanted_grounded told rule member).of_stock steady)
    (unobstructed.of_stock same)
  exact ⟨after, Pass.returns_reconcileRules.2
    ⟨settled, workload, found, address, located, ingress, grouped, addressed, egress⟩⟩

/-- Without faults a run returns exactly where nothing is in its way. -/
theorem run_returns_iff (account : Account) {anchor : Firewall} (faultless : before.world.Faultless)
    (orderly : before.world.Orderly)
    (held : anchorIn? before.world.firewalls group = some anchor) :
    (∃ after, (Pass.reconcileRules request group).Returns (Site.handler account.serve) before ()
      after) ↔ Clear anchor request before.world := by
  constructor
  · rintro ⟨after, returned⟩
    obtain ⟨_, _, completes⟩ := completes_of_returns orderly held returned
    exact completes.clear
  · exact run_of_clear account faultless orderly held

theorem settledBy_of_keySet_eq {anchor : Firewall} {direction : Direction} {wanted : List Rule}
    {service : Service}
    (same : Rule.keySet (rulesOf anchor direction service.firewalls) = Rule.keySet wanted) :
    settledBy anchor direction wanted service = service := by
  unfold settledBy diffOf
  rw [Rule.diff_of_keySet_eq same]
  simp [withRules, Service.spared]

theorem unobstructed_of_keySet_eq {anchor : Firewall} {direction : Direction} {wanted : List Rule}
    {service : Service}
    (same : Rule.keySet (rulesOf anchor direction service.firewalls) = Rule.keySet wanted) :
    Unobstructed anchor service (diffOf anchor direction wanted service) := by
  unfold diffOf
  rw [Rule.diff_of_keySet_eq same]
  exact ⟨⟨by simp, List.nodup_nil, by simp⟩, by simp⟩

/-- Where the wanted keys are held, a run returns and changes nothing. -/
theorem run_of_keySets (account : Account) {anchor : Firewall} {wanted : List Rule}
    (faultless : before.world.Faultless) (orderly : before.world.Orderly)
    (held : anchorIn? before.world.firewalls group = some anchor)
    (told : wantedIn? request before.world .egress = some wanted)
    (ingress : Rule.keySet (rulesOf anchor .ingress before.world.firewalls) =
      Rule.keySet (Rule.wantedIngress request.ingress))
    (egress : Rule.keySet (rulesOf anchor .egress before.world.firewalls) = Rule.keySet wanted) :
    ∃ after, (account.reconcile request group).Returns (Site.handler Service.handler) before ()
      after ∧ after.world.stock = before.world.stock := by
  have unmoved : midway anchor request before.world = before.world :=
    settledBy_of_keySet_eq ingress
  have clear : Clear anchor request before.world := by
    refine ⟨unobstructed_of_keySet_eq ingress, wanted, ?_⟩
    rw [unmoved]
    exact ⟨told, unobstructed_of_keySet_eq egress⟩
  obtain ⟨after, returned⟩ := run_of_clear account faultless orderly held clear
  obtain ⟨_, last, completes⟩ := completes_of_returns orderly held returned
  have left := completes.left
  have toldLast := completes.told
  rw [unmoved] at left toldLast
  obtain rfl : wanted = last := Option.some.inj (told.symm.trans toldLast)
  rw [settledBy_of_keySet_eq egress] at left
  exact ⟨after, returns_reconcile.2 returned, left⟩

/-- The firewall that holds the group of the bastion of an office. -/
def officeAnchor : Firewall := { anchorSpec "shoot-vpc" "bastion-1" with id := 1 }

def officeWorkload : Firewall := { anchorSpec "shoot-vpc" "shoot-sg" with id := 2 }

/-- A firewall that is described as a rule of the office's bastion, under a name of its own. -/
def officeFirewall (name : String) (id : Nat) (rule : Rule) : Firewall :=
  { ruleSpec "bastion-1" "shoot-vpc" rule [] with name := name, id := id }

def officeSubnet : Subnetwork := ⟨"nodes", "subnets/nodes", "region-1", "10.0.0.0/16", "shoot-vpc"⟩

/-- A service with the running bastion of an office, and these firewalls besides. -/
def officeService (rules : List Firewall) : Service :=
  { Service.empty with
    firewalls := officeAnchor :: officeWorkload :: rules
    machines := [⟨3, "bastion-1", "RUNNING", [⟨"nic0", "10.0.0.5", []⟩]⟩]
    subnetworks := [officeSubnet] }

def officeSite (rules : List Firewall) : Site Service :=
  ⟨officeService rules, .ofTree .empty, .ofString "status.json", []⟩

def officeAccount : Account := ⟨"project-1", "region-1-a"⟩

def officeGroup : String := toString officeAnchor.id

def officeWay : Rule := Rule.allowWorkload (some "10.0.0.5") (some (groupOf officeWorkload).id)

def officeEgress : List Rule := [officeWay, Rule.denyEgress]

theorem office_faultless (rules : List Firewall) : (officeService rules).Faultless := by
  intro method queue held
  cases held

theorem office_held (rules : List Firewall) :
    anchorIn? (officeService rules).firewalls officeGroup = some officeAnchor :=
  List.find?_cons_of_pos (decide_eq_true rfl)

theorem rulesOf_office (direction : Direction) (rules : List Firewall) :
    rulesOf officeAnchor direction (officeService rules).firewalls =
      rulesOf officeAnchor direction rules := by
  have anchor : ¬isRuleOf officeAnchor direction officeAnchor = true := by
    cases direction <;> decide
  have workload : ¬isRuleOf officeAnchor direction officeWorkload = true := by
    cases direction <;> decide
  unfold officeService
  rw [rulesOf_cons_of_not anchor, rulesOf_cons_of_not workload]

/-- A run on the office's bastion changes nothing where the wanted keys are held. -/
theorem office_run {rules : List Firewall} (orderly : (officeService rules).Orderly)
    (ingress : Rule.keySet (rulesOf officeAnchor .ingress rules) =
      Rule.keySet (Rule.wantedIngress Pass.officeRequest.ingress))
    (egress : Rule.keySet (rulesOf officeAnchor .egress rules) = Rule.keySet officeEgress) :
    ∃ after, (officeAccount.reconcile Pass.officeRequest officeGroup).Returns
      (Site.handler Service.handler) (officeSite rules) () after ∧
        after.world.stock = (officeService rules).stock := by
  rw [← rulesOf_office] at ingress egress
  have faultless : (officeSite rules).world.Faultless := office_faultless rules
  have told : wantedIn? Pass.officeRequest (officeService rules) .egress = some officeEgress := rfl
  exact run_of_keySets officeAccount faultless orderly (office_held rules) told ingress egress

/-- What leads out of the office's bastion, as it is wanted. -/
def officeExits : List Firewall :=
  [officeFirewall "way-out" 11 officeWay, officeFirewall "no-way-out" 12 Rule.denyEgress]

theorem officeExits_ingress : rulesOf officeAnchor .ingress officeExits = [] := by
  unfold officeExits
  rw [rulesOf_cons_of_not (by decide), rulesOf_cons_of_not (by decide)]
  rfl

theorem officeExits_egress :
    Rule.keySet (rulesOf officeAnchor .egress officeExits) = Rule.keySet officeEgress := by
  unfold officeExits
  rw [rulesOf_cons (by decide) (readBack?_of_ruleDescription rfl),
    rulesOf_cons (by decide) (readBack?_of_ruleDescription rfl)]
  rfl

end Bastion.Compute.Account
