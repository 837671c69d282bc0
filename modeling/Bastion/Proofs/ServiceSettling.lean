import Bastion.Proofs.ServiceKeeper

set_option autoImplicit false

/- What a run does about one direction of a group of the compute service, as one function of the service,
and the exact condition under which it returns. Rules are created before others are revoked, each under
the name that its key gives it, so what is in the way are names that are still in use. -/
namespace Bastion.Compute

open Program

/-- The service without the firewalls of these names. -/
def Service.spared (service : Service) (names : List (Option String)) : Service :=
  { service with
    firewalls := service.firewalls.filter fun firewall => some firewall.name ∉ names }

theorem Service.mem_spared {service : Service} {firewall : Firewall} {names : List (Option String)}
    (held : firewall ∈ service.firewalls) (kept : some firewall.name ∉ names) :
    firewall ∈ (service.spared names).firewalls :=
  List.mem_filter.2 ⟨held, decide_eq_true kept⟩

theorem Service.spared_spared (service : Service) (first second : List (Option String)) :
    (service.spared first).spared second = service.spared (first ++ second) := by
  unfold spared
  simp only [List.filter_filter, List.mem_append, not_or, Bool.decide_and, Bool.and_comm]

theorem Service.Orderly.spared {service : Service} (orderly : service.Orderly)
    (names : List (Option String)) : (service.spared names).Orderly :=
  ⟨orderly.distinct.sublist (List.filter_sublist.map _), orderly.keeps⟩

theorem Service.without_eq_spared {service : Service}
    (distinct : (service.firewalls.map (·.name)).Nodup) {firewall : Firewall}
    (held : firewall ∈ service.firewalls) :
    service.without firewall = service.spared [some firewall.name] := by
  have left : service.firewalls.erase firewall = _ := firewalls_without distinct held
  unfold Service.without Service.spared
  rw [left]
  simp only [List.mem_singleton, Option.some.injEq, ne_eq]

namespace Account

/-- The service with a firewall more for each of these rules. -/
def withRules (anchor : Firewall) : List Rule → Service → Service
  | [], service => service
  | rule :: rest, service =>
    withRules anchor rest (service.inserted
      (ruleSpec anchor.name anchor.network rule ((destinationsOf? service rule).getD [])))

/-- What is to be done about the group of this anchor. -/
def diffOf (anchor : Firewall) (direction : Direction) (wanted : List Rule) (service : Service) :
    Rule.Diff :=
  Rule.diff wanted (rulesOf anchor direction service.firewalls)

/-- The service with the wanted rules of one direction. -/
def settledBy (anchor : Firewall) (direction : Direction) (wanted : List Rule)
    (service : Service) : Service :=
  let diff := diffOf anchor direction wanted service
  (withRules anchor diff.added service).spared (diff.removed.map Rule.handle)

/-- The service between the two directions of a run. -/
def midway (anchor : Firewall) (request : Request) (service : Service) : Service :=
  settledBy anchor .ingress (Rule.wantedIngress request.ingress) service

/-- The rules that are wanted of each direction, where the workload group and the address of the
bastion are found. -/
def wantedIn? (request : Request) (service : Service) : Direction → Option (List Rule)
  | .ingress => some (Rule.wantedIngress request.ingress)
  | .egress =>
    (service.firewall? request.options.workloadGroupName).bind fun workload =>
      ((instanceOf? service request.options.instanceName).bind
        Cloud.Instance.privateAddress).map fun address =>
          Rule.wantedEgress (some address) (some (groupOf workload).id)

/-- Nothing is in the way of new rules: their names are free and differ, and it is known where they
lead. -/
structure Creatable (anchor : Firewall) (service : Service) (rules : List Rule) : Prop where
  free : ∀ rule ∈ rules, service.firewall? (ruleName anchor.name rule) = none
  distinct : (rules.map (ruleName anchor.name)).Nodup
  leads : ∀ rule ∈ rules, ∃ destinations, destinationsOf? service rule = some destinations

/-- Nothing is in the way of a diff. What is revoked needs a name as well. -/
structure Unobstructed (anchor : Firewall) (service : Service) (diff : Rule.Diff) : Prop where
  creatable : Creatable anchor service diff.added
  named : ∀ rule ∈ diff.removed, ∃ name, present rule.handle = some name

/-- Nothing is in the way of a run, in one direction or the other. -/
structure Clear (anchor : Firewall) (request : Request) (service : Service) : Prop where
  ingress : Unobstructed anchor service
    (diffOf anchor .ingress (Rule.wantedIngress request.ingress) service)
  egress : ∃ wanted, wantedIn? request (midway anchor request service) .egress = some wanted ∧
    Unobstructed anchor (midway anchor request service)
      (diffOf anchor .egress wanted (midway anchor request service))

/-- If the rule leads to a group, there is one. -/
def Grounded (service : Service) (rule : Rule) : Prop :=
  ∀ group, present rule.destinationGroup = some group →
    ∃ anchor, anchorIn? service.firewalls group = some anchor

theorem anchorIn?_inserted {service : Service} {group : String} {anchor : Firewall}
    (held : anchorIn? service.firewalls group = some anchor) (spec : FirewallSpec) :
    anchorIn? (service.inserted spec).firewalls group = some anchor := by
  unfold anchorIn? Service.inserted at *
  rw [List.find?_append, held]
  rfl

theorem destinationsOf?_inserted {service : Service} {rule : Rule}
    (grounded : Grounded service rule) (spec : FirewallSpec) :
    destinationsOf? (service.inserted spec) rule = destinationsOf? service rule := by
  unfold destinationsOf?
  cases rule.direction with
  | ingress => rfl
  | egress =>
    cases grouped : present rule.destinationGroup with
    | none => rfl
    | some group =>
      obtain ⟨anchor, held⟩ := grounded group grouped
      change rangesOf? (service.inserted spec) group = rangesOf? service group
      unfold rangesOf?
      rw [anchorIn?_inserted held, held]
      rfl

theorem Grounded.inserted {service : Service} {rule : Rule} (grounded : Grounded service rule)
    (spec : FirewallSpec) : Grounded (service.inserted spec) rule := by
  intro group grouped
  obtain ⟨anchor, held⟩ := grounded group grouped
  exact ⟨anchor, anchorIn?_inserted held spec⟩

theorem firewall?_inserted {service : Service} {spec : FirewallSpec} {name : String} :
    (service.inserted spec).firewall? name = none ↔
      service.firewall? name = none ∧ spec.name ≠ name := by
  simp only [Service.firewall?_eq_none, Service.inserted, List.mem_append, List.mem_singleton]
  constructor
  · intro free
    exact ⟨fun firewall held => free firewall (.inl held), free _ (.inr rfl)⟩
  · rintro ⟨free, different⟩ firewall (held | rfl)
    · exact free firewall held
    · exact different

/-- After the first of some rules, nothing is in the way of the rest. -/
theorem creatable_cons {anchor : Firewall} {service : Service} {rule : Rule} {rest : List Rule}
    (grounded : ∀ other ∈ rest, Grounded service other) (destinations : List String) :
    Creatable anchor service (rule :: rest) ↔
      service.firewall? (ruleName anchor.name rule) = none ∧
      (∃ destinations, destinationsOf? service rule = some destinations) ∧
      Creatable anchor
        (service.inserted (ruleSpec anchor.name anchor.network rule destinations)) rest := by
  constructor
  · intro creatable
    have distinct := creatable.distinct
    rw [List.map_cons, List.nodup_cons] at distinct
    refine ⟨creatable.free rule List.mem_cons_self, creatable.leads rule List.mem_cons_self, ?_,
      distinct.2, ?_⟩
    · intro other member
      have apart : ruleName anchor.name rule ≠ ruleName anchor.name other := fun same =>
        distinct.1 (List.mem_map.2 ⟨other, member, same.symm⟩)
      exact firewall?_inserted.2 ⟨creatable.free other (List.mem_cons_of_mem rule member), apart⟩
    · intro other member
      rw [destinationsOf?_inserted (grounded other member)]
      exact creatable.leads other (List.mem_cons_of_mem rule member)
  · -- What is free once the first rule has its firewall was free before, and is not its name.
    rintro ⟨free, leads, later⟩
    refine ⟨?_, ?_, ?_⟩
    · intro other member
      rcases List.mem_cons.1 member with rfl | inside
      · exact free
      · exact (firewall?_inserted.1 (later.free other inside)).1
    · rw [List.map_cons, List.nodup_cons]
      refine ⟨fun member => ?_, later.distinct⟩
      obtain ⟨other, inside, same⟩ := List.mem_map.1 member
      exact (firewall?_inserted.1 (later.free other inside)).2 same.symm
    · intro other member
      rcases List.mem_cons.1 member with rfl | inside
      · exact leads
      · rw [← destinationsOf?_inserted (grounded other inside)]
        exact later.leads other inside

theorem anchorIn?_withRules {anchor : Firewall} {service : Service} {group : String}
    (held : anchorIn? service.firewalls group = some anchor) (rules : List Rule) :
    anchorIn? (withRules anchor rules service).firewalls group = some anchor := by
  induction rules generalizing service with
  | nil => exact held
  | cons rule rest ih => exact ih (anchorIn?_inserted held _)

theorem mem_withRules_of_mem {anchor firewall : Firewall} {service : Service}
    (held : firewall ∈ service.firewalls) (rules : List Rule) :
    firewall ∈ (withRules anchor rules service).firewalls := by
  induction rules generalizing service with
  | nil => exact held
  | cons rule rest ih => exact ih (List.mem_append_left _ held)

theorem mem_of_mem_withRules {anchor firewall : Firewall} {service : Service} {rules : List Rule}
    (member : firewall ∈ (withRules anchor rules service).firewalls) :
    firewall ∈ service.firewalls ∨ ∃ rule ∈ rules, ∃ destinations,
      firewall.toFirewallSpec = ruleSpec anchor.name anchor.network rule destinations := by
  induction rules generalizing service with
  | nil => exact .inl member
  | cons rule rest ih =>
    rcases ih member with held | ⟨other, inside, made⟩
    · rcases List.mem_append.1 held with old | new
      · exact .inl old
      · rw [List.mem_singleton.1 new]
        exact .inr ⟨rule, List.mem_cons_self, _, rfl⟩
    · exact .inr ⟨other, List.mem_cons_of_mem rule inside, made⟩

theorem mem_of_mem_settledBy {anchor firewall : Firewall} {direction : Direction}
    {wanted : List Rule} {service : Service}
    (member : firewall ∈ (settledBy anchor direction wanted service).firewalls) :
    firewall ∈ service.firewalls ∨ ∃ rule ∈ wanted, ∃ destinations,
      firewall.toFirewallSpec = ruleSpec anchor.name anchor.network rule destinations := by
  rcases mem_of_mem_withRules (List.mem_filter.1 member).1 with old | ⟨rule, added, made⟩
  · exact .inl old
  · exact .inr ⟨rule, (Rule.mem_of_mem_added added).1, made⟩

theorem anchor_spared {anchor : Firewall} {direction : Direction} {firewalls : List Firewall} :
    some anchor.name ∉ (rulesOf anchor direction firewalls).map Rule.handle := by
  rw [handles_rulesOf]
  intro member
  obtain ⟨firewall, inside, same⟩ := List.mem_map.1 member
  exact (isRuleOf_iff.1 (List.mem_filter.1 inside).2).1 (Option.some.inj same)

theorem anchorIn?_settledBy {anchor : Firewall} {service : Service} {group : String}
    (held : anchorIn? service.firewalls group = some anchor) (direction : Direction)
    (wanted : List Rule) :
    anchorIn? (settledBy anchor direction wanted service).firewalls group = some anchor := by
  refine find?_filter_of_kept (anchorIn?_withRules held _) (decide_eq_true fun removed => ?_)
  exact anchor_spared ((List.filter_sublist.map Rule.handle).subset removed)

theorem stock_withRules (anchor : Firewall) (rules : List Rule) (service : Service) :
    (withRules anchor rules service).stock = withRules anchor rules service.stock := by
  induction rules generalizing service with
  | nil => rfl
  | cons rule rest ih => exact ih _

theorem stock_settledBy (anchor : Firewall) (direction : Direction) (wanted : List Rule)
    (service : Service) :
    (settledBy anchor direction wanted service).stock =
      settledBy anchor direction wanted service.stock := by
  unfold settledBy
  change ((withRules anchor _ service).stock.spared _) = _
  rw [stock_withRules]
  rfl

variable {account : Account} {group : String} {before after : Site Service}

theorem cloud_of_carryOut {call : Cloud.Call} {value : call.method.Answer} {left : Service}
    (carried : (account.carryOut call).Returns Service.handler before.world value left) :
    (Pass.cloud call).Returns (Site.handler account.serve) before value
      { before with world := left } := by
  obtain ⟨success, rfl⟩ := outcome_of_returns carried
  exact returns_perform.2 ⟨success, rfl⟩

/-- What runs on the service preserve, runs on the site do, wherever they end: a patch of a status leaves
the service. -/
theorem site_keeps (invariant : Service → Prop)
    (kept : ∀ (call : Cloud.Call) {service : Service}, invariant service →
      invariant ((account.carryOut call).run Service.handler service).state)
    {α : Type} (program : Pass.PassProgram α) (holds : invariant before.world) :
    invariant (program.run (Site.handler account.serve) before).state.world := by
  refine run_preserves (fun site : Site Service => invariant site.world) ?_ (makes_any program)
    holds
  intro op site _ fits
  cases op with
  | other call => exact kept call fits
  | patchStatus name patch =>
    change invariant (site.patchStatusTo .silent name patch).state.world
    unfold Site.patchStatusTo
    split <;> exact fits

theorem site_preserves (invariant : Service → Prop)
    (kept : ∀ (call : Cloud.Call) {service : Service}, invariant service →
      invariant ((account.carryOut call).run Service.handler service).state)
    {α : Type} {program : Pass.PassProgram α} {value : α} (holds : invariant before.world)
    (returned : program.Returns (Site.handler account.serve) before value after) :
    invariant after.world := by
  rw [← (outcome_of_returns returned).2]
  exact site_keeps invariant kept program holds

theorem faultless_site {α : Type} {program : Pass.PassProgram α} {value : α}
    (faultless : before.world.Faultless)
    (returned : program.Returns (Site.handler account.serve) before value after) :
    after.world.Faultless :=
  site_preserves Service.Faultless (fun call _ => faultless_run (account.carryOut call)) faultless
    returned

theorem orderly_site {α : Type} {program : Pass.PassProgram α} {value : α}
    (orderly : before.world.Orderly)
    (returned : program.Returns (Site.handler account.serve) before value after) :
    after.world.Orderly :=
  site_preserves Service.Orderly (fun call _ => orderly_run (account.carryOut call)) orderly
    returned

/-- The stock after a rule was created, and that nothing had been in the way. -/
theorem returns_create {anchor : Firewall} {direction : Direction} {rule : Rule}
    {operation resource : String} {answer : Json} (orderly : before.world.Orderly)
    (held : anchorIn? before.world.firewalls group = some anchor)
    (returned : ((Pass.createRule direction group rule).during operation resource).Returns
      (Site.handler account.serve) before answer after) :
    ∃ destinations, destinationsOf? before.world rule = some destinations ∧
      before.world.firewall? (ruleName anchor.name rule) = none ∧
      after.world.stock = (before.world.inserted
        (ruleSpec anchor.name anchor.network rule destinations)).stock := by
  obtain ⟨_, created, _⟩ := returns_map.1 (returns_cloud (returns_during.1 returned))
  obtain ⟨found, destinations, present, led, free, left⟩ :=
    returns_createRule orderly.keeps created
  obtain rfl := Option.some.inj (present.symm.trans held)
  exact ⟨destinations, led, free, left⟩

theorem Creatable.of_stock {anchor : Firewall} {one other : Service} {rules : List Rule}
    (creatable : Creatable anchor one rules) (same : other.stock = one.stock) :
    Creatable anchor other rules := by
  have stocked : Creatable anchor one.stock rules :=
    ⟨creatable.free, creatable.distinct, creatable.leads⟩
  rw [← same] at stocked
  exact ⟨stocked.free, stocked.distinct, stocked.leads⟩

theorem anchorIn?_of_stock {anchor : Firewall} {one other : Service}
    (held : anchorIn? one.firewalls group = some anchor) (same : other.stock = one.stock) :
    anchorIn? other.firewalls group = some anchor := by
  rw [Service.firewalls_of_stock same]
  exact held

theorem Grounded.of_stock {rule : Rule} {one other : Service} (grounded : Grounded one rule)
    (same : other.stock = one.stock) : Grounded other rule := by
  intro group grouped
  obtain ⟨anchor, held⟩ := grounded group grouped
  exact ⟨anchor, anchorIn?_of_stock held same⟩

/-- The stock after rules were created, and that nothing had been in the way. -/
theorem returns_addRules {anchor : Firewall} {direction : Direction} {rules : List Rule}
    (orderly : before.world.Orderly) (held : anchorIn? before.world.firewalls group = some anchor)
    (returned : (Pass.addRules direction group rules).Returns (Site.handler account.serve) before ()
      after) :
    after.world.stock = (withRules anchor rules before.world).stock ∧
      ((∀ rule ∈ rules, Grounded before.world rule) →
        Creatable anchor before.world rules) := by
  induction rules generalizing before with
  | nil =>
    obtain ⟨_, rfl⟩ := returns_pure.1 returned
    exact ⟨rfl, fun _ => ⟨by simp, List.nodup_nil, by simp⟩⟩
  | cons rule rest ih =>
    obtain ⟨answer, between, created, logged⟩ := returns_bind.1 returned
    obtain ⟨_, _, told, later⟩ := returns_bind.1 logged
    obtain rfl := returns_info.1 told
    obtain ⟨destinations, led, free, left⟩ := returns_create orderly held created
    -- The rest of the rules meet a service with one firewall more, in which the anchor still stands.
    obtain ⟨last, creatable⟩ := ih ((orderly.inserted free).of_stock left)
      (anchorIn?_of_stock (anchorIn?_inserted held _) left) later
    refine ⟨?_, fun grounded => ?_⟩
    · rw [last, stock_withRules, left, ← stock_withRules, withRules, led]
      rfl
    · have groundedRest : ∀ other ∈ rest, Grounded before.world other := fun other inside =>
        grounded other (List.mem_cons_of_mem rule inside)
      refine (creatable_cons groundedRest destinations).2 ⟨free, ⟨destinations, led⟩, ?_⟩
      refine (creatable fun other inside => ?_).of_stock left.symm
      exact ((groundedRest other inside).inserted _).of_stock left

theorem create_of_free (account : Account) {anchor : Firewall} {rule : Rule}
    {destinations : List String}
    (faultless : before.world.Faultless)
    (held : anchorIn? before.world.firewalls group = some anchor)
    (led : destinationsOf? before.world rule = some destinations)
    (free : before.world.firewall? (ruleName anchor.name rule) = none) (direction : Direction)
    (operation resource : String) :
    ∃ answer after, ((Pass.createRule direction group rule).during operation resource).Returns
      (Site.handler account.serve) before answer after := by
  obtain ⟨left, carried⟩ := createRule_of_faultless account faultless held led free
  exact ⟨.null, { before with world := left },
    returns_during.2 (cloud_of_carryOut (returns_map.2 ⟨(), carried, rfl⟩))⟩

theorem addRules_of_creatable (account : Account) {anchor : Firewall} (direction : Direction)
    {rules : List Rule}
    (faultless : before.world.Faultless) (orderly : before.world.Orderly)
    (held : anchorIn? before.world.firewalls group = some anchor)
    (grounded : ∀ rule ∈ rules, Grounded before.world rule)
    (creatable : Creatable anchor before.world rules) :
    ∃ after, (Pass.addRules direction group rules).Returns (Site.handler account.serve) before ()
      after := by
  induction rules generalizing before with
  | nil => exact ⟨before, returns_done () before⟩
  | cons rule rest ih =>
    have groundedRest : ∀ other ∈ rest, Grounded before.world other := fun other inside =>
      grounded other (List.mem_cons_of_mem rule inside)
    have free := creatable.free rule List.mem_cons_self
    obtain ⟨destinations, led⟩ := creatable.leads rule List.mem_cons_self
    obtain ⟨answer, between, created⟩ := create_of_free account faultless held led free
      direction s!"add security group {rule.direction.text} rule" rule.label
    obtain ⟨placed, _, _, left⟩ := returns_create orderly held created
    have faultlessBetween := faultless_site faultless created
    have later := ((creatable_cons groundedRest placed).1 creatable).2.2
    obtain ⟨after, added⟩ := ih faultlessBetween ((orderly.inserted free).of_stock left)
      (anchorIn?_of_stock (anchorIn?_inserted held _) left)
      (fun other inside => ((groundedRest other inside).inserted _).of_stock left)
      (later.of_stock left)
    refine ⟨after, ?_⟩
    apply created.bind
    exact Returns.afterInfo added

theorem returns_revoke {direction : Direction} {rule : Rule} {operation resource : String}
    {answer : Json} (orderly : before.world.Orderly)
    (returned : ((Pass.revokeRule direction group rule).during operation resource).Returns
      (Site.handler account.serve) before answer after) :
    (∃ name, present rule.handle = some name) ∧
      after.world.stock = (before.world.spared [rule.handle]).stock := by
  obtain ⟨_, revoked, _⟩ := returns_map.1 (returns_cloud (returns_during.1 returned))
  obtain ⟨name, firewall, named, found, left⟩ := returns_revokeRule revoked
  obtain ⟨member, rfl⟩ := Service.mem_of_firewall? found
  refine ⟨⟨_, named⟩, ?_⟩
  rw [left, Service.without_eq_spared orderly.distinct member, (Option.filter_eq_some_iff.1 named).1]

theorem returns_revokeRules {direction : Direction} {rules : List Rule}
    (orderly : before.world.Orderly)
    (returned : (Pass.revokeRules direction group rules).Returns (Site.handler account.serve)
      before () after) :
    (∀ rule ∈ rules, ∃ name, present rule.handle = some name) ∧
      after.world.stock = (before.world.spared (rules.map Rule.handle)).stock := by
  induction rules generalizing before with
  | nil =>
    obtain ⟨_, rfl⟩ := returns_pure.1 returned
    refine ⟨by simp, ?_⟩
    simp [Service.spared]
  | cons rule rest ih =>
    obtain ⟨answer, between, revoked, logged⟩ := returns_bind.1 returned
    obtain ⟨_, _, told, later⟩ := returns_bind.1 logged
    obtain rfl := returns_info.1 told
    obtain ⟨named, left⟩ := returns_revoke orderly revoked
    obtain ⟨others, last⟩ := ih ((orderly.spared _).of_stock left) later
    refine ⟨List.forall_mem_cons.2 ⟨named, others⟩, ?_⟩
    rw [last]
    change between.world.stock.spared _ = _
    rw [left]
    change ((before.world.spared [rule.handle]).spared (rest.map Rule.handle)).stock = _
    rw [Service.spared_spared]
    rfl

theorem revoke_of_stored (account : Account) (group : String) {rule : Rule} {firewall : Firewall}
    (faultless : before.world.Faultless)
    (orderly : before.world.Orderly) (stored : firewall ∈ before.world.firewalls)
    (handled : rule.handle = some firewall.name)
    (named : ∃ name, present rule.handle = some name) (direction : Direction)
    (operation resource : String) :
    ∃ answer after, ((Pass.revokeRule direction group rule).during operation resource).Returns
      (Site.handler account.serve) before answer after := by
  obtain ⟨name, told⟩ := named
  obtain rfl : firewall.name = name :=
    Option.some.inj (handled.symm.trans (Option.filter_eq_some_iff.1 told).1)
  obtain ⟨left, carried⟩ :=
    revokeRule_of_faultless account faultless told (Service.firewall?_of_mem orderly.distinct stored)
  exact ⟨.null, { before with world := left },
    returns_during.2 (cloud_of_carryOut (returns_map.2 ⟨(), carried, rfl⟩))⟩

theorem revokeRules_of_stored (account : Account) (group : String) (direction : Direction)
    {rules : List Rule}
    (faultless : before.world.Faultless) (orderly : before.world.Orderly)
    (stored : ∀ rule ∈ rules, ∃ firewall ∈ before.world.firewalls,
      rule.handle = some firewall.name)
    (distinct : (rules.map Rule.handle).Nodup)
    (named : ∀ rule ∈ rules, ∃ name, present rule.handle = some name) :
    ∃ after, (Pass.revokeRules direction group rules).Returns (Site.handler account.serve) before ()
      after := by
  induction rules generalizing before with
  | nil => exact ⟨before, returns_done () before⟩
  | cons rule rest ih =>
    obtain ⟨firewall, held, handled⟩ := stored rule List.mem_cons_self
    obtain ⟨answer, between, revoked⟩ := revoke_of_stored account group
      faultless orderly held handled (named rule List.mem_cons_self) direction
      s!"delete security group {rule.direction.text} rule" rule.label
    have left := (returns_revoke orderly revoked).2
    rw [List.map_cons, List.nodup_cons] at distinct
    have faultlessBetween := faultless_site faultless revoked
    have storedBetween : ∀ other ∈ rest, ∃ firewall ∈ between.world.firewalls,
        other.handle = some firewall.name := by
      intro other inside
      obtain ⟨owner, kept, same⟩ := stored other (List.mem_cons_of_mem rule inside)
      refine ⟨owner, ?_, same⟩
      rw [Service.firewalls_of_stock left]
      apply Service.mem_spared kept
      intro taken
      apply distinct.1
      rw [← List.mem_singleton.1 taken, ← same]
      exact List.mem_map_of_mem inside
    obtain ⟨after, revokedRest⟩ := ih faultlessBetween ((orderly.spared _).of_stock left)
      storedBetween distinct.2 fun other inside => named other (List.mem_cons_of_mem rule inside)
    refine ⟨after, ?_⟩
    apply revoked.bind
    exact Returns.afterInfo revokedRest

theorem stored_of_removed {anchor : Firewall} {direction : Direction} {wanted : List Rule}
    {service : Service} : ∀ rule ∈ (diffOf anchor direction wanted service).removed,
      ∃ firewall ∈ service.firewalls, rule.handle = some firewall.name := by
  intro rule member
  obtain ⟨firewall, held, _, read⟩ := mem_rulesOf.1 (Rule.mem_removed.1 member).1
  exact ⟨firewall, held, handle_of_readBack? read⟩

theorem returns_current {direction : Direction} {rules : List Rule}
    (returned : (Pass.currentRules group direction).Returns (Site.handler account.serve) before
      rules after) :
    ∃ anchor, anchorIn? before.world.firewalls group = some anchor ∧
      rules = rulesOf anchor direction before.world.firewalls ∧
      after.world.stock = before.world.stock := by
  obtain ⟨answer, between, described, rest⟩ := returns_bind.1 returned
  obtain ⟨told, listed, rfl⟩ := returns_map.1 (returns_cloud (returns_during.1 described))
  obtain ⟨rfl, rfl⟩ := returns_pure.1 rest
  exact returns_describeRules listed

/-- A direction that was settled: the anchor was there, and nothing had been in the way. -/
theorem returns_settle {direction : Direction} {wanted : List Rule} (orderly : before.world.Orderly)
    (returned : (Pass.settle direction group wanted).Returns (Site.handler account.serve) before ()
      after) :
    ∃ anchor, anchorIn? before.world.firewalls group = some anchor ∧
      after.world.stock = (settledBy anchor direction wanted before.world).stock ∧
      ((∀ rule ∈ wanted, Grounded before.world rule) →
        Unobstructed anchor before.world (diffOf anchor direction wanted before.world)) := by
  obtain ⟨current, listed, described, applied⟩ := returns_bind.1 returned
  obtain ⟨anchor, held, rfl, same⟩ := returns_current described
  obtain ⟨_, between, added, revoked⟩ := returns_bind.1 applied
  have orderlyListed := orderly.of_stock same
  obtain ⟨more, creatable⟩ :=
    returns_addRules orderlyListed (anchorIn?_of_stock held same) added
  obtain ⟨named, left⟩ := returns_revokeRules (orderly_site orderlyListed added) revoked
  refine ⟨anchor, held, ?_, fun grounded => ⟨?_, named⟩⟩
  · rw [left]
    change between.world.stock.spared _ = _
    rw [more, stock_withRules, same, ← stock_withRules]
    rfl
  · refine (creatable fun rule member => ?_).of_stock same.symm
    exact (grounded rule (Rule.mem_of_mem_added member).1).of_stock same

theorem current_of_faultless (account : Account) {anchor : Firewall}
    (faultless : before.world.Faultless)
    (held : anchorIn? before.world.firewalls group = some anchor) (direction : Direction) :
    ∃ after, (Pass.currentRules group direction).Returns (Site.handler account.serve) before
      (rulesOf anchor direction before.world.firewalls) after := by
  obtain ⟨left, told⟩ := describeRules_of_faultless account faultless held direction
  have described : (Pass.describeRules group direction).Returns (Site.handler account.serve) before
      (some (rulesOf anchor direction before.world.firewalls)) { before with world := left } :=
    cloud_of_carryOut (returns_map.2 ⟨_, told, rfl⟩)
  exact ⟨_, (returns_during.2 described).bind (returns_done _ _)⟩

theorem settle_of_unobstructed (account : Account) {anchor : Firewall} {direction : Direction}
    {wanted : List Rule}
    (faultless : before.world.Faultless) (orderly : before.world.Orderly)
    (held : anchorIn? before.world.firewalls group = some anchor)
    (grounded : ∀ rule ∈ wanted, Grounded before.world rule)
    (unobstructed :
      Unobstructed anchor before.world (diffOf anchor direction wanted before.world)) :
    ∃ after, (Pass.settle direction group wanted).Returns (Site.handler account.serve) before ()
      after := by
  obtain ⟨listed, described⟩ := current_of_faultless account faultless held direction
  obtain ⟨_, _, _, same⟩ := returns_current described
  have faultlessListed := faultless_site faultless described
  have orderlyListed := orderly.of_stock same
  have heldListed := anchorIn?_of_stock held same
  obtain ⟨between, added⟩ := addRules_of_creatable account direction faultlessListed
    orderlyListed heldListed
    (fun rule member => (grounded rule (Rule.mem_of_mem_added member).1).of_stock same)
    (unobstructed.creatable.of_stock same)
  obtain ⟨more, _⟩ := returns_addRules orderlyListed heldListed added
  have stored : ∀ rule ∈ (diffOf anchor direction wanted before.world).removed,
      ∃ firewall ∈ between.world.firewalls, rule.handle = some firewall.name := by
    intro rule member
    obtain ⟨firewall, kept, handled⟩ := stored_of_removed rule member
    refine ⟨firewall, ?_, handled⟩
    rw [Service.firewalls_of_stock more]
    refine mem_withRules_of_mem ?_ _
    rw [Service.firewalls_of_stock same]
    exact kept
  have distinct := Pass.removed_distinct (sound_storeOf orderly group) direction wanted
  rw [rules_storeOf held] at distinct
  obtain ⟨after, revoked⟩ := revokeRules_of_stored account group direction
    (faultless_site faultlessListed added) (orderly_site orderlyListed added) stored distinct
    unobstructed.named
  exact ⟨after, described.bind (added.bind revoked)⟩

end Account

end Bastion.Compute
