import Bastion.Proofs.Landscape
import Bastion.Proofs.RuleEncoding

set_option autoImplicit false

/- Work on the rules of one group keeps to that group. Wherever it ends, all other firewalls stand as they
did, and what is new was made for a rule that was wanted of the group. -/
namespace Bastion.Compute

open Program

namespace Account

/-- A firewall that the rules of a group are none of: the one that holds it, and all that have not its
tag. -/
def Bystander (anchor firewall : Firewall) : Prop :=
  firewall = anchor ∨ anchor.name ∉ firewall.targetTags

/-- A firewall as it is made for a rule of a group. -/
def MadeFor (anchor : Firewall) (rule : Rule) (firewall : Firewall) : Prop :=
  ∃ destinations, firewall.toFirewallSpec = ruleSpec anchor.name anchor.network rule destinations

/-- Names of which the group may dispose: not its own, nor that of an earlier firewall without its tag. -/
def Disposable (anchor : Firewall) (before : Service) (name : String) : Prop :=
  name ≠ anchor.name ∧
    ∀ firewall ∈ before.firewalls, firewall.name = name → anchor.name ∈ firewall.targetTags

/-- What work on the rules of a group may have made of an earlier service, if it wants these rules. -/
structure Confined (group : String) (anchor : Firewall) (wanted : Rule → Prop)
    (before now : Service) : Prop where
  distinct : (now.firewalls.map (·.name)).Nodup
  held : anchorIn? now.firewalls group = some anchor
  kept : ∀ firewall ∈ before.firewalls, Bystander anchor firewall → firewall ∈ now.firewalls
  new : ∀ firewall ∈ now.firewalls, firewall ∉ before.firewalls →
    ∃ rule, wanted rule ∧ MadeFor anchor rule firewall
  machines : now.machines = before.machines

variable {account : Account} {group : String} {anchor : Firewall} {wanted wider : Rule → Prop}
  {before now : Service}

theorem confined_refl (distinct : (before.firewalls.map (·.name)).Nodup)
    (held : anchorIn? before.firewalls group = some anchor) :
    Confined group anchor wanted before before where
  distinct := distinct
  held := held
  kept := fun _ member _ => member
  new := fun _ member absent => absurd member absent
  machines := rfl

namespace Confined

theorem mono (confined : Confined group anchor wanted before now)
    (implies : ∀ {rule}, wanted rule → wider rule) : Confined group anchor wider before now where
  distinct := confined.distinct
  held := confined.held
  kept := confined.kept
  new firewall member absent :=
    (confined.new firewall member absent).imp fun _ made => ⟨implies made.1, made.2⟩
  machines := confined.machines

theorem of_stock (confined : Confined group anchor wanted before now) {other : Service}
    (same : other.stock = now.stock) : Confined group anchor wanted before other := by
  have firewalls := Service.firewalls_of_stock same
  exact ⟨firewalls ▸ confined.distinct, firewalls ▸ confined.held, firewalls ▸ confined.kept,
    firewalls ▸ confined.new, (Service.machines_of_stock same).trans confined.machines⟩

theorem inserted (confined : Confined group anchor wanted before now) {spec : FirewallSpec}
    (free : now.firewall? spec.name = none)
    (made : ∃ rule, wanted rule ∧ ∃ destinations,
      spec = ruleSpec anchor.name anchor.network rule destinations) :
    Confined group anchor wanted before (now.inserted spec) where
  distinct := Service.distinct_inserted confined.distinct free
  held := anchorIn?_inserted confined.held spec
  kept firewall member bystands :=
    List.mem_append_left _ (confined.kept firewall member bystands)
  new firewall member absent := by
    rcases List.mem_append.1 member with stood | fresh
    · exact confined.new firewall stood absent
    · rw [List.mem_singleton.1 fresh]
      exact made
  machines := confined.machines

theorem without (confined : Confined group anchor wanted before now) {firewall : Firewall}
    (disposable : Disposable anchor before firewall.name) :
    Confined group anchor wanted before (now.without firewall) where
  distinct := confined.distinct.sublist (List.erase_sublist.map _)
  held := by
    have all : now.firewalls.Nodup := confined.distinct.of_map _
    have apart : anchor ≠ firewall := fun same => disposable.1 (congrArg (·.name) same).symm
    unfold Service.without
    rw [all.erase_eq_filter]
    exact find?_filter_of_kept confined.held (bne_iff_ne.2 apart)
  kept other member bystands := by
    have apart : other ≠ firewall := by
      rintro rfl
      rcases bystands with rfl | untagged
      · exact disposable.1 rfl
      · exact untagged (disposable.2 other member rfl)
    exact (List.mem_erase_of_ne apart).2 (confined.kept other member bystands)
  new other member absent := confined.new other (List.mem_of_mem_erase member) absent
  machines := confined.machines

theorem run_of_makes (confined : Confined group anchor wanted before now) {α : Type}
    {program : ComputeProgram α} (made : program.Makes Service.Steady) :
    Confined group anchor wanted before (program.run Service.handler now).state :=
  confined.of_stock (stock_of_makes made now)

theorem insertFirewall (confined : Confined group anchor wanted before now) {rule : Rule}
    (wants : wanted rule) (project : String) (destinations : List String) :
    Confined group anchor wanted before (Service.handler (.service project
      (.insertFirewall (ruleSpec anchor.name anchor.network rule destinations))) now).state := by
  rcases Service.handler_cases now project
    (.insertFirewall (ruleSpec anchor.name anchor.network rule destinations)) with
    ⟨_, _, same⟩ | ⟨_, same⟩
  · exact confined.of_stock same
  · have stocked : Confined group anchor wanted before now.stock := confined.of_stock rfl
    rcases Service.carryOut_insertFirewall now.stock
      (ruleSpec anchor.name anchor.network rule destinations) with unchanged | ⟨free, new⟩
    · exact confined.of_stock (same.trans unchanged)
    · exact (stocked.inserted free ⟨rule, wants, destinations, rfl⟩).of_stock (same.trans new)

theorem deleteFirewall (confined : Confined group anchor wanted before now) {name : String}
    (disposable : Disposable anchor before name) (project : String) :
    Confined group anchor wanted before
      (Service.handler (.service project (.deleteFirewall name)) now).state := by
  rcases Service.handler_cases now project (.deleteFirewall name) with ⟨_, _, same⟩ | ⟨_, same⟩
  · exact confined.of_stock same
  · have stocked : Confined group anchor wanted before now.stock := confined.of_stock rfl
    rcases Service.carryOut_deleteFirewall now.stock name with unchanged | ⟨firewall, found, gone⟩
    · exact confined.of_stock (same.trans unchanged)
    · obtain ⟨_, rfl⟩ := Service.mem_of_firewall? found
      exact (stocked.without disposable).of_stock (same.trans gone)

theorem createRule (confined : Confined group anchor wanted before now) {rule : Rule}
    (wants : wanted rule) : Confined group anchor wanted before
      ((account.createRule group rule).run Service.handler now).state := by
  refine run_bind_keeps (Confined group anchor wanted before)
    (confined.run_of_makes (account.methodical_anchor False group).steady)
    fun found read anchored still => ?_
  obtain ⟨held, _⟩ := returns_anchor anchored
  obtain rfl := Option.some.inj (held.symm.trans confined.held)
  refine run_bind_keeps (Confined group found wanted before)
    (still.run_of_makes (account.methodical_destinations rule fun _ _ => trivial).steady)
    fun destinations led _ located => ?_
  refine run_bind_keeps (Confined group found wanted before) ?_ fun _ inserted _ made =>
    made.run_of_makes (makes_perform trivial)
  unfold service
  rw [state_perform]
  exact located.insertFirewall wants account.project destinations

theorem revokeRule (confined : Confined group anchor wanted before now) {rule : Rule}
    (disposable : ∀ name ∈ rule.handle, Disposable anchor before name) :
    Confined group anchor wanted before
      ((account.revokeRule rule).run Service.handler now).state := by
  unfold Account.revokeRule
  cases named : present rule.handle with
  | none => exact confined
  | some name =>
    have disposed := disposable name (Option.filter_eq_some_iff.1 named).1
    refine run_bind_keeps (Confined group anchor wanted before) ?_ fun _ deleted _ gone =>
      gone.run_of_makes (makes_perform trivial)
    unfold service
    rw [state_perform]
    exact confined.deleteFirewall disposed account.project

/-- Whatever a description says of a rule, it is revoked under a name that the group may dispose of. -/
theorem disposable (confined : Confined group anchor wanted before now) {direction : Direction}
    {rule : Rule} (told : rule ∈ rulesOf anchor direction now.firewalls) :
    ∀ name ∈ rule.handle, Disposable anchor before name := by
  intro name handled
  obtain ⟨firewall, member, fits, read⟩ := mem_rulesOf.1 told
  obtain ⟨different, tagged, _⟩ := isRuleOf_iff.1 fits
  obtain rfl : firewall.name = name := Option.some.inj ((handle_of_readBack? read).symm.trans handled)
  refine ⟨different, fun other stood same => ?_⟩
  by_contra untagged
  -- The other one would still stand, and names are unique.
  have stands := confined.kept other stood (.inr untagged)
  obtain rfl := List.inj_on_of_nodup_map confined.distinct stands member same
  exact untagged tagged

end Confined

/-- A call of a pass leaves of the service what carrying it out does. -/
theorem world_cloud (call : Cloud.Call) (operation resource : String) (site : Site Service) :
    (((Pass.cloud call).during operation resource).run (Site.handler account.serve) site).state.world =
      ((account.carryOut call).run Service.handler site.world).state := by
  rw [state_during]
  unfold Pass.cloud
  rw [state_perform]
  rfl

theorem makes_carryOut_of_reads {call : Cloud.Call} (reads : Pass.Reads group call) :
    (account.carryOut call).Makes Service.Steady := by
  cases reads with
  | describe direction =>
    exact makes_bind (account.methodical_describeRules False group direction).steady fun _ => trivial
  | findGroup name => exact (account.methodical_lookupGroup False name).steady
  | findInstance name =>
    exact makes_bind (account.methodical_findMachine False _).steady fun _ => trivial

theorem stock_of_reads {α : Type} {program : Pass.PassProgram α}
    (made : program.Makes (Pass.OnCloud (Pass.Reads group))) (site : Site Service) :
    (program.run (Site.handler account.serve) site).state.world.stock = site.world.stock := by
  refine run_preserves (fun left : Site Service => left.world.stock = site.world.stock) ?_ made rfl
  rintro _ left ⟨call, reads, rfl⟩ same
  exact (stock_of_makes (makes_carryOut_of_reads reads) left.world).trans same

namespace Confined

variable {site : Site Service}

theorem run_of_reads (confined : Confined group anchor wanted before site.world) (account : Account)
    {α : Type} {program : Pass.PassProgram α}
    (made : program.Makes (Pass.OnCloud (Pass.Reads group))) :
    Confined group anchor wanted before
      (program.run (Site.handler account.serve) site).state.world :=
  confined.of_stock (stock_of_reads made site)

theorem addRules (confined : Confined group anchor wanted before site.world) (direction : Direction)
    {rules : List Rule} (wants : ∀ rule ∈ rules, wanted rule) :
    Confined group anchor wanted before ((Pass.addRules direction group rules).run
      (Site.handler account.serve) site).state.world := by
  induction rules generalizing site with
  | nil => exact confined
  | cons rule rest ih =>
    refine run_bind_keeps (fun left : Site Service => Confined group anchor wanted before left.world)
      ?_ fun _ between _ still =>
        ih still fun other member => wants other (List.mem_cons_of_mem rule member)
    unfold Pass.createRule
    rw [world_cloud]
    unfold carryOut
    rw [state_map]
    exact confined.createRule (wants rule List.mem_cons_self)

theorem revokeRules (confined : Confined group anchor wanted before site.world)
    (direction : Direction) {rules : List Rule}
    (disposable : ∀ rule ∈ rules, ∀ name ∈ rule.handle, Disposable anchor before name) :
    Confined group anchor wanted before ((Pass.revokeRules direction group rules).run
      (Site.handler account.serve) site).state.world := by
  induction rules generalizing site with
  | nil => exact confined
  | cons rule rest ih =>
    refine run_bind_keeps (fun left : Site Service => Confined group anchor wanted before left.world)
      ?_ fun _ between _ still =>
        ih still fun other member => disposable other (List.mem_cons_of_mem rule member)
    unfold Pass.revokeRule
    rw [world_cloud]
    unfold carryOut
    rw [state_map]
    exact confined.revokeRule (disposable rule List.mem_cons_self)

theorem settle (confined : Confined group anchor wanted before site.world) (account : Account)
    (direction : Direction) {rules : List Rule} (wants : ∀ rule ∈ rules, wanted rule) :
    Confined group anchor wanted before ((Pass.settle direction group rules).run
      (Site.handler account.serve) site).state.world := by
  refine run_bind_keeps (fun left : Site Service => Confined group anchor wanted before left.world)
    (confined.run_of_reads account (Pass.makes_currentRules group direction))
    fun current listed told still => ?_
  obtain ⟨found, held, rfl, _⟩ := returns_current told
  obtain rfl := Option.some.inj (held.symm.trans confined.held)
  refine run_bind_keeps (fun left : Site Service => Confined group found wanted before left.world)
    (still.addRules direction fun rule member => wants rule (Rule.mem_of_mem_added member).1)
    fun _ between _ more => more.revokeRules direction fun rule member => ?_
  -- What is revoked was read of the firewalls that stood before any was added.
  exact confined.disposable (Rule.mem_removed.1 member).1

end Confined

/-- The rules that a run wants of the group. Those that lead out go by the address of the bastion and by a
workload group that was there before or was made on the way in. -/
inductive WantedOf (request : Request) (anchor : Firewall) (before : Service) (rule : Rule) : Prop where
  | ingress (member : rule ∈ Rule.wantedIngress request.ingress)
  | egress (workload : Firewall) (address : String)
    (named : workload.name = request.options.workloadGroupName)
    (origin : workload ∈ before.firewalls ∨
      ∃ entry ∈ Rule.wantedIngress request.ingress, MadeFor anchor entry workload)
    (located : (instanceOf? before request.options.instanceName).bind
      Cloud.Instance.privateAddress = some address)
    (member : rule ∈ Rule.wantedEgress (some address) (some (groupOf workload).id))

variable {request : Request} {site : Site Service}

theorem instanceOf?_of_machines {one other : Service} (same : one.machines = other.machines)
    (name : String) : instanceOf? one name = instanceOf? other name := by
  unfold instanceOf?
  rw [same]

theorem confined_reconcileRules (account : Account) (request : Request)
    (distinct : (site.world.firewalls.map (·.name)).Nodup)
    (held : anchorIn? site.world.firewalls group = some anchor) :
    Confined group anchor (WantedOf request anchor site.world) site.world
      ((Pass.reconcileRules request group).run (Site.handler account.serve) site).state.world := by
  let entries := Rule.wantedIngress request.ingress
  let confined (left : Site Service) : Prop :=
    Confined group anchor (WantedOf request anchor site.world) site.world left.world
  -- Up to the second look-up only rules that lead in were made.
  have start : Confined group anchor (· ∈ entries) site.world site.world :=
    confined_refl distinct held
  have settled : Confined group anchor (· ∈ entries) site.world
      ((Pass.settle .ingress group entries).run (Site.handler account.serve) site).state.world :=
    start.settle account .ingress fun _ member => member
  rw [Pass.reconcileRules_eq]
  refine run_bind_ends confined (settled.mono .ingress) fun _ between returned => ?_
  rw [(outcome_of_returns returned).2] at settled
  have grouped := settled.run_of_reads account
    (Pass.makes_workloadGroup group request.options.workloadGroupName)
  refine run_bind_ends confined (grouped.mono .ingress) fun workload found told => ?_
  rw [(outcome_of_returns told).2] at grouped
  have addressed := grouped.run_of_reads account
    (Pass.makes_privateAddress group request.options.instanceName)
  refine run_bind_ends confined (addressed.mono .ingress) fun address located answered => ?_
  rw [(outcome_of_returns answered).2] at addressed
  obtain ⟨firewall, present, rfl, _⟩ := returns_workload told
  obtain ⟨member, named⟩ := Service.mem_of_firewall? present
  have origin : firewall ∈ site.world.firewalls ∨
      ∃ entry ∈ entries, MadeFor anchor entry firewall := by
    by_cases stood : firewall ∈ site.world.firewalls
    · exact .inl stood
    · exact .inr (settled.new firewall member stood)
  have resides := (returns_address answered).1
  rw [instanceOf?_of_machines grouped.machines] at resides
  refine (addressed.mono .ingress).settle account .egress fun rule inside => ?_
  exact .egress firewall address named origin resides inside

theorem stock_of_unheld (missing : anchorIn? site.world.firewalls group = none) :
    ((Pass.reconcileRules request group).run (Site.handler account.serve) site).state.world.stock =
      site.world.stock := by
  refine run_bind_ends (fun left : Site Service => left.world.stock = site.world.stock)
    (stock_of_reads (Pass.makes_currentRules group .ingress) site) fun current listed told => ?_
  obtain ⟨anchor, held, _⟩ := returns_current told
  cases missing.symm.trans held

/-- A firewall that carries a rule of the group: it is for the tag of the group, lies in the network of the
group, and is read back as the rule. -/
structure Carries (anchor : Firewall) (rule : Rule) (firewall : Firewall) : Prop where
  tagged : firewall.targetTags = [anchor.name]
  network : firewall.network = anchor.network
  read : readRule firewall = pure { rule with handle := some firewall.name }

theorem carries_of_madeFor {rule : Rule} {firewall : Firewall}
    (made : MadeFor anchor rule firewall) : Carries anchor rule firewall := by
  obtain ⟨destinations, fields⟩ := made
  have told : firewall.description = ruleDescription rule := congrArg FirewallSpec.description fields
  have ranked : firewall.priority = rule.priority := congrArg FirewallSpec.priority fields
  constructor
  case tagged | network =>
    rw [fields]
    rfl
  case read => rw [readRule_of_ruleDescription told, ranked]

theorem state_reconcile (account : Account) (request : Request) (group : String)
    (site : Site Service) :
    ((account.reconcile request group).run (Site.handler Service.handler) site).state =
      ((Pass.reconcileRules request group).run (Site.handler account.serve) site).state := by
  have same := outcome_callsBesideStatusBy account.carryOut Service.handler
    (Pass.reconcileRules request group) site
  exact congrArg Prod.snd same

/-- Wherever a run of `reconcile_security_group_rules` ends, with whatever calls refused: what holds the
group and what is not for it stands as it stood, what is new carries a rule that was wanted of the group,
and of machines, networks and subnetworks nothing is changed. -/
theorem run_keeps_to_group (account : Account) (request : Request) (group : String)
    {before after : Site Service} (distinct : (before.world.firewalls.map (·.name)).Nodup)
    (ended : ((account.reconcile request group).run (Site.handler Service.handler) before).state =
      after) :
    (∀ anchor, anchorIn? before.world.firewalls group = some anchor →
      (∀ firewall ∈ before.world.firewalls, Bystander anchor firewall →
        firewall ∈ after.world.firewalls) ∧
      ∀ firewall ∈ after.world.firewalls, firewall ∉ before.world.firewalls →
        ∃ rule, WantedOf request anchor before.world rule ∧ Carries anchor rule firewall) ∧
    (anchorIn? before.world.firewalls group = none →
      after.world.firewalls = before.world.firewalls) ∧
    after.world.machines = before.world.machines ∧
    after.world.landscape = before.world.landscape := by
  obtain rfl := (state_reconcile account request group before).symm.trans ended
  refine ⟨fun anchor held => ?_, fun missing => ?_, ?_, ?_⟩
  · have confined := confined_reconcileRules account request distinct held
    refine ⟨confined.kept, fun firewall member new => ?_⟩
    obtain ⟨rule, wanted, made⟩ := confined.new firewall member new
    exact ⟨rule, wanted, carries_of_madeFor made⟩
  · exact Service.firewalls_of_stock (stock_of_unheld missing)
  · cases held : anchorIn? before.world.firewalls group with
    | none => exact Service.machines_of_stock (stock_of_unheld held)
    | some anchor =>
      exact (confined_reconcileRules account request distinct held).machines
  · exact site_keeps (fun now => now.landscape = before.world.landscape)
      (fun call _ same => (landscape_run (account.carryOut call) _).trans same) _ rfl

/-- A firewall for the office's bastion whose description goes by the name of the workload group. -/
def officeDecoy : Firewall :=
  let posing := [("handle", .string "shoot-sg"), ("direction", .string "ingress"),
    ("ip_protocol", .string "tcp"), ("port_range", .string "22/22")]
  { officeFirewall "decoy" 21 (Rule.allowSsh Pass.annexBlock) with
    description := Json.print .dense (.object posing) }

/-- The office with the decoy. What came of deleting it is not answered. -/
def decoyOffice : Site Service :=
  let site := officeSite [officeDecoy]
  let lost := some (.api .serviceUnavailable "no answer")
  { site with world := { site.world with faults := [(.operationResult, [none, lost])] } }

def decoyRun : Run signature.withStatus (Site Service) Unit :=
  (officeAccount.reconcile Pass.officeRequest officeGroup).run (Site.handler Service.handler)
    decoyOffice

theorem run_keeps_to_group_office :
    decoyRun.result.toOption = none ∧ officeDecoy ∉ decoyRun.state.world.firewalls ∧
    officeAnchor ∈ decoyRun.state.world.firewalls ∧
    officeWorkload ∈ decoyRun.state.world.firewalls ∧
    (∃ made ∈ decoyRun.state.world.firewalls, made ∉ decoyOffice.world.firewalls ∧
      ∃ rule, WantedOf Pass.officeRequest officeAnchor decoyOffice.world rule ∧
        Carries officeAnchor rule made) ∧
    decoyRun.state.world.machines = decoyOffice.world.machines ∧
    decoyRun.state.world.landscape = decoyOffice.world.landscape := by
  have distinct : (decoyOffice.world.firewalls.map (·.name)).Nodup := by decide
  obtain ⟨around, -, machines, landscape⟩ :=
    run_keeps_to_group officeAccount Pass.officeRequest officeGroup distinct
      (rfl : decoyRun.state = decoyRun.state)
  obtain ⟨kept, new⟩ := around officeAnchor (office_held _)
  have ends : decoyRun.result.toOption = none ∧ officeDecoy ∉ decoyRun.state.world.firewalls ∧
      ∃ made ∈ decoyRun.state.world.firewalls, made ∉ decoyOffice.world.firewalls := by
    decide +kernel
  obtain ⟨stops, gone, made, member, fresh⟩ := ends
  have anchor : officeAnchor ∈ decoyRun.state.world.firewalls :=
    kept officeAnchor (by decide) (.inl rfl)
  have workload : officeWorkload ∈ decoyRun.state.world.firewalls :=
    kept officeWorkload (by decide) (.inr (by decide))
  refine ⟨stops, gone, anchor, workload, ?_, machines, landscape⟩
  exact ⟨made, member, fresh, new made member fresh⟩

end Account

end Bastion.Compute
