import Bastion.Proofs.ServiceReconciliation

set_option autoImplicit false

namespace Bastion.Compute.Account

open Program

variable {account : Account} {request : Request} {group : String} {before after : Site Service}

/-- Whatever is told of one direction of the group, at any later time at which nothing has changed, has
the keys of these rules and no others; and unless a call is refused it is told. -/
structure Describes (account : Account) (group : String) (direction : Direction)
    (service : Service) (wanted : List Rule) : Prop where
  keys : ∀ {later left : Service} {rules : List Rule}, later.stock = service.stock →
    (account.describeRules group direction).Returns Service.handler later rules left →
      Rule.keySet rules = Rule.keySet wanted
  answered : ∀ {later : Service}, later.stock = service.stock → later.Faultless →
    ∃ rules left, (account.describeRules group direction).Returns Service.handler later rules left

theorem describes_of_keySet {anchor : Firewall} {direction : Direction} {service : Service}
    {wanted : List Rule} (held : anchorIn? service.firewalls group = some anchor)
    (same : Rule.keySet (rulesOf anchor direction service.firewalls) = Rule.keySet wanted) :
    account.Describes group direction service wanted := by
  refine ⟨fun stocked described => ?_, fun stocked faultless => ?_⟩
  · obtain ⟨other, heldOther, rfl, _⟩ := returns_describeRules described
    obtain rfl : anchor = other :=
      Option.some.inj ((anchorIn?_of_stock held stocked).symm.trans heldOther)
    rw [Service.firewalls_of_stock stocked]
    exact same
  · exact ⟨_, describeRules_of_faultless account faultless (anchorIn?_of_stock held stocked)
      direction⟩

theorem machines_withRules (anchor : Firewall) (rules : List Rule) (service : Service) :
    (withRules anchor rules service).machines = service.machines := by
  induction rules generalizing service with
  | nil => rfl
  | cons rule rest ih => exact ih _

theorem machines_settledBy (anchor : Firewall) (direction : Direction) (wanted : List Rule)
    (service : Service) :
    (settledBy anchor direction wanted service).machines = service.machines :=
  machines_withRules anchor _ service

theorem instanceOf?_settledBy (anchor : Firewall) (direction : Direction) (wanted : List Rule)
    (service : Service) (name : String) :
    instanceOf? (settledBy anchor direction wanted service) name = instanceOf? service name := by
  unfold instanceOf?
  rw [machines_settledBy]

/-- A run of `reconcile_security_group_rules` that returned, whatever was refused on its way, has left the
wanted rules in both directions, and `describe_rules` tells them. Those that lead out go by the workload
group as it is found between the two, where a rule may have got its name or lost it, and by the address of
the bastion. -/
theorem rules_described (account : Account) (request : Request) (orderly : before.world.Orderly)
    (returned : (account.reconcile request group).Returns (Site.handler Service.handler) before ()
      after) :
    ∃ anchor workload address, anchorIn? before.world.firewalls group = some anchor ∧
      (midway anchor request before.world).firewall? request.options.workloadGroupName =
        some workload ∧
      (instanceOf? before.world request.options.instanceName).bind
        Cloud.Instance.privateAddress = some address ∧
      account.Describes group .ingress after.world (Rule.wantedIngress request.ingress) ∧
      account.Describes group .egress after.world
        (Rule.wantedEgress (some address) (some (groupOf workload).id)) := by
  obtain ⟨anchor, wanted, held, heldAfter, completes⟩ :=
    returns_run orderly (returns_reconcile.1 returned)
  obtain ⟨workload, present, rest⟩ := Option.bind_eq_some_iff.1 completes.told
  obtain ⟨address, located, rfl⟩ := Option.map_eq_some_iff.1 rest
  unfold midway at located
  rw [instanceOf?_settledBy] at located
  exact ⟨anchor, workload, address, held, present, located,
    describes_of_keySet heldAfter completes.ingress, describes_of_keySet heldAfter completes.egress⟩

/-- The office with a way in that someone made by hand, where the list of firewalls is twice refused. -/
def busyOffice : Site Service :=
  let site := officeSite [{ officeFirewall "old-way-in" 11 (Rule.allowSsh Cidr.anyV4) with
    description := "made by hand" }]
  let busy := some (.api .serviceUnavailable "busy")
  { site with world := { site.world with faults := [(.firewallsList, [none, busy, busy])] } }

theorem rules_described_office : ∃ after,
    (officeAccount.reconcile Pass.officeRequest officeGroup).Returns (Site.handler Service.handler)
      busyOffice () after ∧
    officeAccount.Describes officeGroup .ingress after.world
      (Rule.wantedIngress Pass.officeRequest.ingress) ∧
    officeAccount.Describes officeGroup .egress after.world officeEgress := by
  have orderly : busyOffice.world.Orderly := ⟨by decide, rfl⟩
  have succeeds : ((officeAccount.reconcile Pass.officeRequest officeGroup).run
      (Site.handler Service.handler) busyOffice).result = .ok () := by decide +kernel
  have returned := returns_of_ok succeeds
  obtain ⟨anchor, workload, address, held, present, located, ingress, egress⟩ :=
    rules_described officeAccount Pass.officeRequest orderly returned
  obtain rfl : officeAnchor = anchor := Option.some.inj ((office_held _).symm.trans held)
  have stays : (midway officeAnchor Pass.officeRequest busyOffice.world).firewall? "shoot-sg" =
      some officeWorkload := by decide +kernel
  obtain rfl : officeWorkload = workload := Option.some.inj (stays.symm.trans present)
  obtain rfl : "10.0.0.5" = address := Option.some.inj located
  exact ⟨_, returned, ingress, egress⟩

end Bastion.Compute.Account
