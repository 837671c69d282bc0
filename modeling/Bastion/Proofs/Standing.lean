import Bastion.Proofs.Publication
import Bastion.Proofs.RulesDescribed
import Bastion.Proofs.Tidiness

set_option autoImplicit false

namespace Bastion.Compute

open Program

namespace Service

theorem firewall?_of_stock {one other : Service} (same : one.stock = other.stock) (name : String) :
    one.firewall? name = other.firewall? name := by
  change one.stock.firewall? name = other.stock.firewall? name
  rw [same]

def machine? (service : Service) (name : String) : Option Machine :=
  service.machines.find? fun machine => machine.name = name

theorem machine?_of_stock {one other : Service} (same : one.stock = other.stock) (name : String) :
    one.machine? name = other.machine? name := by
  change one.stock.machine? name = other.stock.machine? name
  rw [same]

theorem mem_of_machine? {service : Service} {name : String} {machine : Machine}
    (found : service.machine? name = some machine) :
    machine ∈ service.machines ∧ machine.name = name := by
  have fits := List.find?_some found
  exact ⟨List.mem_of_find?_eq_some found, of_decide_eq_true fits⟩

theorem find?_modifyFirst {α : Type} {test : α → Bool} {change : α → α}
    (same : ∀ item, test (change item) = test item) (items : List α) :
    (modifyFirst test change items).find? test = (items.find? test).map change := by
  induction items with
  | nil => rfl
  | cons item rest ih =>
    unfold modifyFirst
    by_cases fits : test item = true
    · rw [if_pos fits, List.find?_cons_of_pos ((same item).trans fits),
        List.find?_cons_of_pos fits]
      rfl
    · rw [if_neg fits, List.find?_cons_of_neg fits, List.find?_cons_of_neg fits, ih]

theorem name_giveAccess (address : String) (machine : Machine) :
    (giveAccess address machine).name = machine.name := by
  unfold giveAccess
  cases machine.interfaces <;> rfl

theorem privateAddresses_giveAccess (address : String) (machine : Machine) :
    (giveAccess address machine).toInstance.privateAddresses =
      machine.toInstance.privateAddresses := by
  obtain ⟨id, name, status, interfaces⟩ := machine
  cases interfaces <;> rfl

end Service

namespace Account

variable {account : Account} {before after : Service}

theorem instanceOf?_eq (service : Service) (name : String) :
    instanceOf? service name = (service.machine? name).map Machine.toInstance := by
  unfold instanceOf? Service.machine?
  rw [List.head?_filter]
  rfl

theorem returns_createGroup {network name : String} {group : Cloud.Group}
    (returned : (account.createGroup network name).Returns Service.handler before group after) :
    (after.firewall? name).map groupOf = some group := by
  obtain ⟨_, inserted, _, rest⟩ := returns_bind.1 returned
  obtain ⟨_, waited, _, rest⟩ := returns_bind.1 rest
  obtain ⟨found, looked, asked, rest⟩ := returns_bind.1 rest
  obtain ⟨told, same⟩ := returns_lookupGroup asked
  cases found with
  | none => exact (returns_fail.1 rest).elim
  | some other =>
    obtain ⟨rfl, rfl⟩ := returns_pure.1 rest
    rw [Service.firewall?_of_stock same]
    exact told.elim (fun absent => by cases absent) Eq.symm

/-- A machine that was created is found by its name. No firewall is touched. -/
theorem returns_createInstance {spec : Cloud.InstanceSpec} {created : Cloud.Instance}
    (returned : (account.createInstance spec).Returns Service.handler before created after) :
    instanceOf? after spec.name = some created ∧ after.firewalls = before.firewalls := by
  obtain ⟨anchor, anchored, held, rest⟩ := returns_bind.1 returned
  obtain ⟨_, inserted, asked, rest⟩ := returns_bind.1 rest
  obtain ⟨_, waited, awaited, rest⟩ := returns_bind.1 rest
  obtain ⟨found, looked, searched, rest⟩ := returns_bind.1 rest
  obtain ⟨rfl, same⟩ := returns_lookupInstance searched
  have firewalls : inserted.firewalls = before.firewalls := by
    have left := (returns_service asked).2
    change _ = anchored.stock.insertMachine _ at left
    rw [(returns_anchor held).2] at left
    have kept : inserted.stock.firewalls = before.stock.firewalls := by
      rw [left]
      unfold Service.insertMachine
      split <;> rfl
    exact kept
  cases told : instanceOf? waited spec.name with
  | none =>
    rw [told] at rest
    exact (returns_fail.1 rest).elim
  | some other =>
    rw [told] at rest
    obtain ⟨rfl, rfl⟩ := returns_pure.1 rest
    refine ⟨?_, ?_⟩
    · change instanceOf? looked.stock spec.name = _
      rw [same]
      exact told
    · rw [Service.firewalls_of_stock (same.trans (returns_awaitOperation awaited)), firewalls]

/-- The service after the machine of that name was given an external access. -/
def accessible (service : Service) (name : String) : Service :=
  { service with
    machines := Service.modifyFirst (fun machine => machine.name = name)
      (Service.giveAccess service.natAddress) service.machines }

theorem returns_addAccess {zone name interface : String} {access : AccessSpec}
    (returned : (account.service (.addAccess zone name interface access)).Returns Service.handler
      before () after) : after.stock = (accessible before name).stock := by
  obtain ⟨told, left⟩ := returns_service returned
  change (before.stock.change (before.stock.addAccess name)).1 = _ at told
  change _ = (before.stock.change (before.stock.addAccess name)).2 at left
  unfold Service.addAccess at told left
  by_cases found : before.stock.machines.any (fun machine => machine.name = name) = true
  · rw [if_pos found] at left
    exact left
  · rw [if_neg found] at told
    cases told

/-- An address is that of the machine, which has one, or else of the access that the machine is given. -/
theorem returns_allocateAddress {instanceId : String} {address : Option String}
    (returned : (account.allocateAddress instanceId).Returns Service.handler before address after) :
    ∃ machine, (before.machines.filter (InstanceFilter.identified instanceId).admits).head? =
        some machine ∧
      (after.stock = before.stock ∧ address = machine.toInstance.publicAddress ∨
        after.stock = (accessible before machine.name).stock ∧
          address = (instanceOf? after machine.name).bind (·.publicAddress)) := by
  obtain ⟨found, looked, searched, rest⟩ := returns_bind.1 returned
  obtain ⟨rfl, same⟩ := returns_findMachine searched
  cases held : (before.machines.filter (InstanceFilter.identified instanceId).admits).head? with
  | none =>
    rw [held] at rest
    exact (returns_fail.1 rest).elim
  | some machine =>
    rw [held] at rest
    refine ⟨machine, rfl, ?_⟩
    cases listed : machine.interfaces with
    | nil =>
      simp only [listed] at rest
      exact (returns_fail.1 rest).elim
    | cons interface others =>
      simp only [listed] at rest
      split at rest
      · obtain ⟨_, _, logged, rest⟩ := returns_bind.1 rest
        obtain rfl := returns_info.1 logged
        obtain ⟨_, added, asked, rest⟩ := returns_bind.1 rest
        obtain ⟨_, waited, awaited, rest⟩ := returns_bind.1 rest
        obtain ⟨refreshed, located, again, rest⟩ := returns_bind.1 rest
        obtain ⟨rfl, stays⟩ := returns_lookupInstance again
        obtain ⟨rfl, rfl⟩ := returns_pure.1 rest
        have left := (stays.trans (returns_awaitOperation awaited)).trans (returns_addAccess asked)
        refine .inr ⟨?_, ?_⟩
        · rw [left]
          change accessible looked.stock machine.name = accessible before.stock machine.name
          rw [same]
        · change (instanceOf? waited.stock machine.name).bind _ = (instanceOf? located.stock _).bind _
          rw [stays]
      · obtain ⟨rfl, rfl⟩ := returns_pure.1 rest
        exact .inl ⟨same, rfl⟩

section Sites

variable {request : Request} {group : String} {before after : Site Service}

theorem returns_createdId {operation name result : String} {id : Option String}
    (returned : (Pass.createdId operation name id).Returns (Site.handler account.serve) before result
      after) : id = some result ∧ before = after := by
  unfold Pass.createdId at returned
  cases known : present id with
  | none =>
    rw [known] at returned
    exact (returns_fail.1 returned).elim
  | some other =>
    rw [known] at returned
    obtain ⟨rfl, rfl⟩ := returns_pure.1 returned
    exact ⟨(Option.filter_eq_some_iff.1 known).1, rfl⟩

theorem id_of_groupOf {world : Service} {name : String} {held : Cloud.Group}
    (told : (world.firewall? name).map groupOf = some held) :
    ∃ anchor, world.firewall? name = some anchor ∧ toString anchor.id = held.id := by
  obtain ⟨anchor, present, rfl⟩ := Option.map_eq_some_iff.1 told
  exact ⟨anchor, present, rfl⟩

/-- The group is held by the firewall of its name, which was there or has been made. -/
theorem returns_ensureGroup {name network : String}
    (returned : (Pass.ensureGroup name network).Returns (Site.handler account.serve) before group
      after) :
    ∃ anchor, after.world.firewall? name = some anchor ∧ toString anchor.id = group := by
  obtain ⟨found, between, looked, rest⟩ := returns_bind.1 returned
  obtain ⟨told, same⟩ := returns_lookupGroup (returns_cloud (returns_during.1 looked))
  cases known : found.filter (·.name = name) with
  | some held =>
    rw [known] at rest
    obtain ⟨_, _, logged, rest⟩ := returns_bind.1 rest
    obtain rfl := returns_info.1 logged
    obtain ⟨rfl, rfl⟩ := returns_pure.1 rest
    obtain ⟨rfl, _⟩ := Option.filter_eq_some_iff.1 known
    rw [Service.firewall?_of_stock same]
    exact id_of_groupOf (told.elim (fun absent => by cases absent) Eq.symm)
  | none =>
    rw [known] at rest
    obtain ⟨_, _, logged, rest⟩ := returns_bind.1 rest
    obtain rfl := returns_info.1 logged
    obtain ⟨created, made, creating, rest⟩ := returns_bind.1 rest
    obtain ⟨held, told, rfl⟩ := returns_map.1 (returns_cloud (returns_during.1 creating))
    obtain ⟨identified, rfl⟩ := returns_createdId rest
    obtain rfl := Option.some.inj identified
    exact id_of_groupOf (returns_createGroup told)

theorem id_of_toInstance {world : Service} {name : String} {found : Cloud.Instance}
    (told : instanceOf? world name = some found) :
    ∃ machine, world.machine? name = some machine ∧ toString machine.id = found.id := by
  rw [instanceOf?_eq] at told
  obtain ⟨machine, present, rfl⟩ := Option.map_eq_some_iff.1 told
  exact ⟨machine, present, rfl⟩

/-- The instance is the machine of its name, which was there or has been made. -/
theorem returns_ensureInstance {spec : Cloud.InstanceSpec} {id : String}
    (returned : (Pass.ensureInstance spec).Returns (Site.handler account.serve) before id after) :
    (∃ machine, after.world.machine? spec.name = some machine ∧ toString machine.id = id) ∧
      after.world.firewalls = before.world.firewalls := by
  obtain ⟨found, between, looked, rest⟩ := returns_bind.1 returned
  obtain ⟨rfl, same⟩ := returns_lookupInstance (returns_cloud (returns_during.1 looked))
  have kept := Service.firewalls_of_stock same
  cases known : (instanceOf? before.world spec.name).filter (·.name = spec.name) with
  | some held =>
    rw [known] at rest
    obtain ⟨rfl, rfl⟩ := returns_pure.1 rest
    refine ⟨?_, kept⟩
    rw [Service.machine?_of_stock same]
    exact id_of_toInstance (Option.filter_eq_some_iff.1 known).1
  | none =>
    rw [known] at rest
    obtain ⟨_, _, logged, rest⟩ := returns_bind.1 rest
    obtain rfl := returns_info.1 logged
    obtain ⟨created, made, creating, rest⟩ := returns_bind.1 rest
    obtain ⟨held, told, rfl⟩ := returns_map.1 (returns_cloud (returns_during.1 creating))
    obtain ⟨identified, rfl⟩ := returns_createdId rest
    obtain rfl := Option.some.inj identified
    obtain ⟨present, still⟩ := returns_createInstance told
    exact ⟨id_of_toInstance present, still.trans kept⟩

theorem Creatable.orderly {anchor : Firewall} {service : Service} {rules : List Rule}
    (orderly : service.Orderly) (grounded : ∀ rule ∈ rules, Grounded service rule)
    (creatable : Creatable anchor service rules) : (withRules anchor rules service).Orderly := by
  induction rules generalizing service with
  | nil => exact orderly
  | cons rule rest ih =>
    have groundedRest : ∀ other ∈ rest, Grounded service other := fun other inside =>
      grounded other (List.mem_cons_of_mem rule inside)
    obtain ⟨free, _, later⟩ := (creatable_cons groundedRest _).1 creatable
    exact ih (orderly.inserted free) (fun other inside => (groundedRest other inside).inserted _)
      later

theorem Clear.orderly_midway {anchor : Firewall} {service : Service} (clear : Clear anchor request service)
    (orderly : service.Orderly) : (midway anchor request service).Orderly := by
  have wanted : wantedIn? request service .ingress =
    some (Rule.wantedIngress request.ingress) := rfl
  refine Service.Orderly.spared (clear.ingress.creatable.orderly orderly fun rule member => ?_) _
  exact wanted_grounded wanted rule (Rule.mem_of_mem_added member).1

/-- The firewall of a name that is left was there before: a rule takes no name that is in use. -/
theorem firewall?_settledBy {anchor firewall left : Firewall} {direction : Direction}
    {wanted : List Rule} {service : Service} {name : String} (orderly : service.Orderly)
    (creatable : Creatable anchor service (diffOf anchor direction wanted service).added)
    (there : service.firewall? name = some firewall)
    (still : (settledBy anchor direction wanted service).firewall? name = some left) :
    left = firewall := by
  obtain ⟨member, same⟩ := Service.mem_of_firewall? still
  obtain ⟨held, named⟩ := Service.mem_of_firewall? there
  rcases mem_of_mem_withRules (List.mem_filter.1 member).1 with old | ⟨rule, added, _, made⟩
  · exact orderly.eq_of_name_eq old held (same.trans named.symm)
  · have taken : ruleName anchor.name rule = name :=
      (congrArg FirewallSpec.name made).symm.trans same
    have free := creatable.free rule added
    rw [taken, there] at free
    cases free

theorem wantedIn?_congr {one other : Service}
    (workload : one.firewall? request.options.workloadGroupName =
      other.firewall? request.options.workloadGroupName)
    (address : (instanceOf? one request.options.instanceName).bind Cloud.Instance.privateAddress =
      (instanceOf? other request.options.instanceName).bind Cloud.Instance.privateAddress) :
    wantedIn? request one .egress = wantedIn? request other .egress := by
  unfold wantedIn?
  rw [workload, address]

/-- After a run on the rules of a group its anchor stands, and they are those that are wanted: by what was
found on the way and, unless that run has revoked the workload group itself, by what is found now. -/
theorem returns_rules {anchor : Firewall} (orderly : before.world.Orderly)
    (held : anchorIn? before.world.firewalls group = some anchor)
    (returned : (Pass.reconcileRules request group).Returns (Site.handler account.serve) before ()
      after) :
    anchorIn? after.world.firewalls group = some anchor ∧
      after.world.machines = before.world.machines ∧ ∃ wanted,
      Rule.keySet (rulesOf anchor .ingress after.world.firewalls) =
        Rule.keySet (Rule.wantedIngress request.ingress) ∧
      Rule.keySet (rulesOf anchor .egress after.world.firewalls) = Rule.keySet wanted ∧
      ((after.world.firewall? request.options.workloadGroupName).isSome →
        wantedIn? request after.world .egress = some wanted) := by
  obtain ⟨still, wanted, completes⟩ := completes_of_returns orderly held returned
  have machines : after.world.machines = before.world.machines := by
    change after.world.stock.machines = _
    rw [completes.left]
    change (settledBy anchor .egress wanted (midway anchor request before.world)).machines = _
    rw [machines_settledBy]
    exact machines_settledBy anchor .ingress _ before.world
  refine ⟨still, machines, wanted, completes.ingress, completes.egress, fun there => ?_⟩
  obtain ⟨left, present⟩ := Option.isSome_iff_exists.1 there
  have orderlyMidway := completes.clear.orderly_midway orderly
  obtain ⟨_, told, unobstructed⟩ := completes.clear.egress
  obtain rfl : wanted = _ := Option.some.inj (completes.told.symm.trans told)
  obtain ⟨firewall, found, _⟩ := Option.bind_eq_some_iff.1 told
  rw [← told]
  refine wantedIn?_congr ?_ ?_
  · rw [Service.firewall?_of_stock completes.left] at present ⊢
    have same := firewall?_settledBy orderlyMidway unobstructed.creatable found present
    exact present.trans ((congrArg some same).trans found.symm)
  · unfold instanceOf? midway
    rw [machines, machines_settledBy]

/-- After an address was allocated it is that of the machine, which has its own address still. -/
theorem returns_address_allocated {machine : Machine} {name instanceId operation resource : String}
    {answer : Json} (tidy : before.world.Tidy) (found : before.world.machine? name = some machine)
    (identified : toString machine.id = instanceId)
    (returned : ((Pass.allocateAddress instanceId).during operation resource).Returns
      (Site.handler account.serve) before answer after) :
    after.world.firewalls = before.world.firewalls ∧ ∃ other,
      after.world.machine? name = some other ∧
      other.toInstance.privateAddresses = machine.toInstance.privateAddresses ∧
      answer = .ofString? other.toInstance.publicAddress := by
  obtain ⟨address, allocated, rfl⟩ := returns_map.1 (returns_cloud (returns_during.1 returned))
  obtain ⟨held, named⟩ := Service.mem_of_machine? found
  obtain ⟨other, told, left⟩ := returns_allocateAddress allocated
  subst identified
  obtain rfl : machine = other := Option.some.inj ((tidy.identified_of_mem held).symm.trans told)
  rcases left with ⟨same, rfl⟩ | ⟨same, rfl⟩
  · refine ⟨Service.firewalls_of_stock same, machine, ?_, rfl, rfl⟩
    rw [Service.machine?_of_stock same, found]
  · have given : after.world.machine? name =
        some (Service.giveAccess before.world.natAddress machine) := by
      rw [Service.machine?_of_stock same]
      subst named
      refine (Service.find?_modifyFirst (fun other => ?_) _).trans (congrArg _ found)
      rw [Service.name_giveAccess]
    have kept : after.world.firewalls = (accessible before.world machine.name).firewalls :=
      Service.firewalls_of_stock same
    refine ⟨kept, _, given, Service.privateAddresses_giveAccess _ _, ?_⟩
    rw [named, instanceOf?_eq, given]
    rfl

/-- What the next approach is going to find: the group and the instance by their names, the wanted rules by
what is wanted now, and the address that makes these endpoints. -/
structure Standing (request : Request) (endpoints : Endpoints) (anchor : Firewall) (machine : Machine)
    (address : String) (world : Service) : Prop where
  tidy : world.Tidy
  group : world.firewall? request.options.groupName = some anchor
  instance_ : world.machine? request.options.instanceName = some machine
  rules : ∃ wanted, wantedIn? request world .egress = some wanted ∧
    Rule.keySet (rulesOf anchor .ingress world.firewalls) =
      Rule.keySet (Rule.wantedIngress request.ingress) ∧
    Rule.keySet (rulesOf anchor .egress world.firewalls) = Rule.keySet wanted
  told : machine.toInstance.publicAddress = some address
  make : Pass.endpointsOf request.options.instanceName machine.toInstance (.string address) =
    .ok endpoints
  ready : endpoints.ready = true

theorem returns_instanceEndpoints {name : String} {address : Json} {endpoints : Endpoints}
    (returned : (Pass.instanceEndpoints name address).Returns (Site.handler account.serve) before
      endpoints after) :
    ∃ machine, before.world.machine? name = some machine ∧
      Pass.endpointsOf name machine.toInstance address = .ok endpoints ∧
      after.world.stock = before.world.stock := by
  obtain ⟨found, between, looked, rest⟩ := returns_bind.1 returned
  obtain ⟨rfl, same⟩ := returns_lookupInstance (returns_cloud (returns_during.1 looked))
  cases known : instanceOf? before.world name with
  | none =>
    rw [known] at rest
    exact (returns_fail.1 rest).elim
  | some found =>
    rw [known] at rest
    rw [instanceOf?_eq] at known
    obtain ⟨machine, held, rfl⟩ := Option.map_eq_some_iff.1 known
    change (ofExcept (Pass.endpointsOf name machine.toInstance address)).Returns _ between endpoints
      after at rest
    cases made : Pass.endpointsOf name machine.toInstance address with
    | error failure =>
      rw [made] at rest
      exact (returns_fail.1 rest).elim
    | ok other =>
      rw [made] at rest
      obtain ⟨rfl, rfl⟩ := returns_pure.1 rest
      exact ⟨machine, held, made, same⟩

theorem told_of_ofString? {told : Option String} {text : String}
    (same : Json.ofString? told = .string text) : told = some text := by
  cases told with
  | none => cases same
  | some other => exact congrArg some (Json.string.inj same)

/-- From the group and the instance on, all that an approach needed stands where it was ready. -/
theorem standing_of_running {endpoints : Endpoints} {anchor : Firewall} {machine : Machine}
    (tidy : before.world.Tidy)
    (grouped : before.world.firewall? request.options.groupName = some anchor)
    (found : before.world.machine? request.options.instanceName = some machine)
    (returned : (Pass.approachRunning request (toString anchor.id) (toString machine.id)).Returns
      (Site.handler account.serve) before (.ready endpoints) after)
    (workload : (after.world.firewall? request.options.workloadGroupName).isSome) :
    ∃ machine address, Standing request endpoints anchor machine address after.world := by
  obtain ⟨_, settled, reconciled, rest⟩ := returns_bind.1 returned
  obtain ⟨answer, allocated, asked, rest⟩ := returns_bind.1 rest
  obtain ⟨made, located, looked, checked⟩ := returns_bind.1 rest
  obtain ⟨present, named⟩ := Service.mem_of_firewall? grouped
  obtain ⟨held, machines, wanted, ingress, egress, told⟩ :=
    returns_rules tidy.toOrderly (tidy.anchorIn?_of_mem present) reconciled
  have tidySettled := tidy_site tidy reconciled
  have foundSettled : settled.world.machine? request.options.instanceName = some machine := by
    unfold Service.machine?
    rw [machines]
    exact found
  obtain ⟨firewalls, other, foundNow, addresses, rfl⟩ :=
    returns_address_allocated tidySettled foundSettled rfl asked
  obtain ⟨again, foundAgain, make, stays⟩ := returns_instanceEndpoints looked
  obtain rfl : other = again := Option.some.inj (foundNow.symm.trans foundAgain)
  obtain ⟨rfl, ready, rfl⟩ := Pass.ready_of_checked checked
  obtain ⟨_, _, address, text, _⟩ := Pass.endpointsOf_ok make ready
  have shown := told_of_ofString? text
  have kept : located.world.firewalls = settled.world.firewalls :=
    (Service.firewalls_of_stock stays).trans firewalls
  have tidyLocated := tidy_site (tidy_site tidySettled asked) looked
  have anchored : anchor ∈ located.world.firewalls := kept ▸ List.mem_of_find?_eq_some held
  have foundLocated : located.world.machine? request.options.instanceName = some other :=
    (Service.machine?_of_stock stays _).trans foundNow
  have sameWorkload : located.world.firewall? request.options.workloadGroupName =
      settled.world.firewall? request.options.workloadGroupName := by
    unfold Service.firewall?
    rw [kept]
  have sameAddress : (instanceOf? located.world request.options.instanceName).bind
      Cloud.Instance.privateAddress =
        (instanceOf? settled.world request.options.instanceName).bind
          Cloud.Instance.privateAddress := by
    rw [instanceOf?_eq, instanceOf?_eq, foundLocated, foundSettled]
    exact congrArg List.head? addresses
  refine ⟨other, address, tidyLocated, ?_, foundLocated, ⟨wanted, ?_, ?_, ?_⟩, shown, text ▸ make, ready⟩
  · exact named ▸ Service.firewall?_of_mem tidyLocated.distinct anchored
  · rw [wantedIn?_congr sameWorkload sameAddress]
    exact told (sameWorkload ▸ workload)
  · rw [kept]
    exact ingress
  · rw [kept]
    exact egress

end Sites

end Account

end Bastion.Compute
