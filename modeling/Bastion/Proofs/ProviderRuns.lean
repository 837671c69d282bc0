import Bastion.Proofs.FirewallRules
import Bastion.Proofs.ServiceRuns

set_option autoImplicit false

namespace Bastion.Compute

open Program

def Service.inserted (service : Service) (spec : FirewallSpec) : Service :=
  { service with
    firewalls := service.firewalls ++ [{ spec with id := service.lastId + 1 }]
    lastId := service.lastId + 1 }

def Service.without (service : Service) (firewall : Firewall) : Service :=
  { service with firewalls := service.firewalls.erase firewall }

namespace Account

/-- The rules that are told of a group, by the firewall that holds it. -/
def rulesOf (anchor : Firewall) (direction : Direction) (firewalls : List Firewall) : List Rule :=
  (firewalls.filter (isRuleOf anchor direction)).filterMap readBack?

def subnetsOf (service : Service) (network : String) : List Subnetwork :=
  service.subnetworks.filter fun subnet => subnet.network = network

/-- The address ranges of the network that a group lies in, if there are any. -/
def rangesOf? (service : Service) (group : String) : Option (List String) :=
  (anchorIn? service.firewalls group).bind fun anchor =>
    let subnets := subnetsOf service anchor.network
    if subnets.isEmpty then none else some (subnets.map (·.range))

def destinationsOf? (service : Service) (rule : Rule) : Option (List String) :=
  match rule.direction, present rule.destinationGroup with
  | .ingress, _ => some []
  | .egress, some group => rangesOf? service group
  | .egress, none => some (present rule.destination).toList

def groupOf (firewall : Firewall) : Cloud.Group :=
  ⟨toString firewall.id, firewall.name, some firewall.network⟩

def instanceOf? (service : Service) (name : String) : Option Cloud.Instance :=
  (service.machines.filter (InstanceFilter.named name).admits).head?.map Machine.toInstance

variable {account : Account} {before after : Service}

theorem returns_listFirewalls {firewalls : List Firewall}
    (returned : account.listFirewalls.Returns Service.handler before firewalls after) :
    firewalls = before.firewalls ∧ after.stock = before.stock := by
  obtain ⟨between, same, found⟩ := Service.still_stock.returns_retrying (makes_service rfl) returned
  obtain ⟨told, left⟩ := returns_service found
  rw [same] at told left
  exact ⟨(Except.ok.inj told).symm, left⟩

theorem listFirewalls_of_faultless (account : Account) (faultless : before.Faultless) :
    ∃ after, account.listFirewalls.Returns Service.handler before before.firewalls after := by
  have told : (before.stock.carryOut .listFirewalls).1 = .ok before.firewalls := rfl
  obtain ⟨after, returned⟩ := service_of_faultless account faultless told
  exact ⟨after, retried_of_returns returned⟩

theorem returns_anchorIn {firewalls : List Firewall} {group : String} {found : Firewall} :
    (anchorIn firewalls group).Returns Service.handler before found after ↔
      anchorIn? firewalls group = some found ∧ before = after := by
  unfold anchorIn
  cases anchorIn? firewalls group with
  | some anchor => simp only [returns_pure, Option.some.injEq]
  | none => simp only [refuse, returns_fail, reduceCtorEq, false_and]

theorem returns_anchor {group : String} {found : Firewall}
    (returned : (account.anchor group).Returns Service.handler before found after) :
    anchorIn? before.firewalls group = some found ∧ after.stock = before.stock := by
  obtain ⟨firewalls, between, listed, chosen⟩ := returns_bind.1 returned
  obtain ⟨rfl, same⟩ := returns_listFirewalls listed
  obtain ⟨held, rfl⟩ := returns_anchorIn.1 chosen
  exact ⟨held, same⟩

theorem anchor_of_faultless (account : Account) (faultless : before.Faultless) {group : String}
    {found : Firewall} (held : anchorIn? before.firewalls group = some found) :
    ∃ after, (account.anchor group).Returns Service.handler before found after := by
  obtain ⟨between, listed⟩ := listFirewalls_of_faultless account faultless
  exact ⟨between, listed.bind (returns_anchorIn.2 ⟨held, rfl⟩)⟩

theorem returns_groupRanges {group : String} {ranges : List String}
    (returned : (account.groupRanges group).Returns Service.handler before ranges after) :
    rangesOf? before group = some ranges ∧ after.stock = before.stock := by
  obtain ⟨anchor, between, anchored, rest⟩ := returns_bind.1 returned
  obtain ⟨held, same⟩ := returns_anchor anchored
  obtain ⟨subnets, listed, found, chosen⟩ := returns_bind.1 rest
  obtain ⟨told, left⟩ := returns_service found
  rw [same] at told left
  obtain rfl := Except.ok.inj told
  change (if (subnetsOf before anchor.network).isEmpty then _ else _ : ComputeProgram _).Returns
    Service.handler listed ranges after at chosen
  unfold rangesOf?
  simp only [held, Option.bind_some]
  by_cases empty : (subnetsOf before anchor.network).isEmpty = true
  · rw [if_pos empty] at chosen
    exact (returns_fail.1 chosen).elim
  · rw [if_neg empty] at chosen ⊢
    obtain ⟨rfl, rfl⟩ := returns_pure.1 chosen
    exact ⟨rfl, left⟩

theorem groupRanges_of_faultless (account : Account) (faultless : before.Faultless)
    {group : String} {ranges : List String} (told : rangesOf? before group = some ranges) :
    ∃ after, (account.groupRanges group).Returns Service.handler before ranges after := by
  obtain ⟨anchor, held, chosen⟩ := Option.bind_eq_some_iff.1 told
  obtain ⟨between, anchored⟩ := anchor_of_faultless account faultless held
  have clear := faultless_of_returns faultless anchored
  have same := (returns_anchor anchored).2
  have listed : (between.stock.carryOut (.listSubnetworks account.region anchor.network)).1 =
      .ok (subnetsOf before anchor.network) := by
    rw [same]
    rfl
  obtain ⟨after, found⟩ := service_of_faultless account clear listed
  refine ⟨after, anchored.bind (found.bind ?_)⟩
  by_cases empty : (subnetsOf before anchor.network).isEmpty = true
  · rw [if_pos empty] at chosen
    cases chosen
  · rw [if_neg empty] at chosen ⊢
    exact returns_pure.2 ⟨Option.some.inj chosen, rfl⟩

theorem returns_destinations {rule : Rule} {ranges : List String}
    (returned : (account.destinations rule).Returns Service.handler before ranges after) :
    destinationsOf? before rule = some ranges ∧ after.stock = before.stock := by
  unfold destinations at returned
  unfold destinationsOf?
  cases directed : rule.direction with
  | ingress =>
    simp only [directed] at returned ⊢
    obtain ⟨rfl, rfl⟩ := returns_pure.1 returned
    exact ⟨rfl, rfl⟩
  | egress =>
    cases grouped : present rule.destinationGroup with
    | some group =>
      simp only [directed, grouped] at returned ⊢
      exact returns_groupRanges returned
    | none =>
      simp only [directed, grouped] at returned ⊢
      obtain ⟨rfl, rfl⟩ := returns_pure.1 returned
      exact ⟨rfl, rfl⟩

theorem destinations_of_faultless (account : Account) (faultless : before.Faultless) {rule : Rule}
    {ranges : List String} (told : destinationsOf? before rule = some ranges) :
    ∃ after, (account.destinations rule).Returns Service.handler before ranges after := by
  unfold destinationsOf? at told
  unfold destinations
  cases directed : rule.direction with
  | ingress =>
    simp only [directed, Option.some.injEq] at told ⊢
    exact ⟨before, returns_pure.2 ⟨told, rfl⟩⟩
  | egress =>
    cases grouped : present rule.destinationGroup with
    | some group =>
      simp only [directed, grouped] at told ⊢
      exact groupRanges_of_faultless account faultless told
    | none =>
      simp only [directed, grouped, Option.some.injEq] at told ⊢
      exact ⟨before, returns_pure.2 ⟨told, rfl⟩⟩

theorem returns_insertFirewall {spec : FirewallSpec} (keeps : before.losesInserts = false)
    (returned : (account.service (.insertFirewall spec)).Returns Service.handler before () after) :
    before.firewall? spec.name = none ∧ after.stock = (before.inserted spec).stock := by
  obtain ⟨told, left⟩ := returns_service returned
  change (before.stock.change (before.stock.insertFirewall spec)).1 = _ at told
  change _ = (before.stock.change (before.stock.insertFirewall spec)).2 at left
  unfold Service.insertFirewall at told left
  have unlost : ¬before.stock.losesInserts = true := fun lost => by
    cases keeps.symm.trans lost
  cases found : before.firewall? spec.name with
  | some firewall =>
    have taken : (before.stock.firewall? spec.name).isSome = true := by
      change (before.firewall? spec.name).isSome = true
      rw [found]
      rfl
    rw [if_pos taken] at told
    cases told
  | none =>
    have free : ¬(before.stock.firewall? spec.name).isSome = true := by
      change ¬(before.firewall? spec.name).isSome = true
      rw [found]
      decide
    rw [if_neg free, if_neg unlost] at left
    exact ⟨rfl, left⟩

theorem insertFirewall_of_faultless (account : Account) (faultless : before.Faultless)
    {spec : FirewallSpec} (free : before.firewall? spec.name = none) :
    ∃ after, (account.service (.insertFirewall spec)).Returns Service.handler before () after := by
  apply service_of_faultless account faultless
  change (before.stock.change (before.stock.insertFirewall spec)).1 = _
  unfold Service.insertFirewall
  have untaken : ¬(before.stock.firewall? spec.name).isSome = true := by
    change ¬(before.firewall? spec.name).isSome = true
    rw [free]
    decide
  rw [if_neg untaken]
  split <;> rfl

theorem returns_deleteFirewall {name : String}
    (returned : (account.service (.deleteFirewall name)).Returns Service.handler before () after) :
    ∃ firewall, before.firewall? name = some firewall ∧
      after.stock = (before.without firewall).stock := by
  obtain ⟨told, left⟩ := returns_service returned
  change (before.stock.change (before.stock.deleteFirewall name)).1 = _ at told
  change _ = (before.stock.change (before.stock.deleteFirewall name)).2 at left
  rw [Service.deleteFirewall_stock] at told left
  unfold Service.deleteFirewall at told left
  cases found : before.firewall? name with
  | some firewall =>
    rw [found] at left
    exact ⟨firewall, rfl, left⟩
  | none =>
    rw [found] at told
    cases told

theorem deleteFirewall_of_faultless (account : Account) (faultless : before.Faultless)
    {name : String} {firewall : Firewall} (found : before.firewall? name = some firewall) :
    ∃ after, (account.service (.deleteFirewall name)).Returns Service.handler before () after := by
  apply service_of_faultless account faultless
  change (before.stock.change (before.stock.deleteFirewall name)).1 = _
  rw [Service.deleteFirewall_stock]
  unfold Service.deleteFirewall
  rw [found]
  rfl

/-- A rule that was created has a firewall more, under a name that was free. -/
theorem returns_createRule {group : String} {rule : Rule} (keeps : before.losesInserts = false)
    (returned : (account.createRule group rule).Returns Service.handler before () after) :
    ∃ anchor destinations, anchorIn? before.firewalls group = some anchor ∧
      destinationsOf? before rule = some destinations ∧
      before.firewall? (ruleName anchor.name rule) = none ∧
      after.stock =
        (before.inserted (ruleSpec anchor.name anchor.network rule destinations)).stock := by
  obtain ⟨anchor, found, anchored, rest⟩ := returns_bind.1 returned
  obtain ⟨held, same⟩ := returns_anchor anchored
  obtain ⟨destinations, located, led, rest⟩ := returns_bind.1 rest
  obtain ⟨told, still⟩ := returns_destinations led
  obtain ⟨_, inserted, asked, waited⟩ := returns_bind.1 rest
  have unchanged : located.stock = before.stock := still.trans same
  have unlost : located.losesInserts = false :=
    (congrArg Service.losesInserts unchanged).trans keeps
  obtain ⟨free, left⟩ := returns_insertFirewall unlost asked
  refine ⟨anchor, destinations, held, ?_, ?_, ?_⟩
  · rw [← told]
    change destinationsOf? before.stock rule = destinationsOf? found.stock rule
    rw [same]
  · change before.stock.firewall? _ = none
    rw [← unchanged]
    exact free
  · rw [returns_awaitOperation waited, left]
    change located.stock.inserted _ = before.stock.inserted _
    rw [unchanged]

theorem createRule_of_faultless (account : Account) (faultless : before.Faultless)
    {group : String} {rule : Rule} {anchor : Firewall} {destinations : List String}
    (held : anchorIn? before.firewalls group = some anchor)
    (led : destinationsOf? before rule = some destinations)
    (free : before.firewall? (ruleName anchor.name rule) = none) :
    ∃ after, (account.createRule group rule).Returns Service.handler before () after := by
  obtain ⟨found, anchored⟩ := anchor_of_faultless account faultless held
  have clearFound := faultless_of_returns faultless anchored
  have same := (returns_anchor anchored).2
  change destinationsOf? before.stock rule = _ at led
  rw [← same] at led
  obtain ⟨located, leads⟩ := destinations_of_faultless account clearFound led
  have clearLocated := faultless_of_returns clearFound leads
  have unchanged := (returns_destinations leads).2.trans same
  have untaken : located.stock.firewall?
      (ruleSpec anchor.name anchor.network rule destinations).name = none := by
    rw [unchanged]
    exact free
  obtain ⟨inserted, asked⟩ := insertFirewall_of_faultless account clearLocated untaken
  obtain ⟨after, waited⟩ := await_of_faultless (faultless_of_returns clearLocated asked)
  refine ⟨after, ?_⟩
  apply anchored.bind
  apply leads.bind
  exact asked.bind waited

theorem returns_revokeRule {rule : Rule}
    (returned : (account.revokeRule rule).Returns Service.handler before () after) :
    ∃ name firewall, present rule.handle = some name ∧ before.firewall? name = some firewall ∧
      after.stock = (before.without firewall).stock := by
  unfold revokeRule at returned
  cases named : present rule.handle with
  | none =>
    simp only [named] at returned
    exact (returns_fail.1 returned).elim
  | some name =>
    simp only [named] at returned
    obtain ⟨_, deleted, asked, waited⟩ := returns_bind.1 returned
    obtain ⟨firewall, found, left⟩ := returns_deleteFirewall asked
    exact ⟨name, firewall, rfl, found, (returns_awaitOperation waited).trans left⟩

theorem revokeRule_of_faultless (account : Account) (faultless : before.Faultless) {rule : Rule}
    {name : String} {firewall : Firewall} (named : present rule.handle = some name)
    (found : before.firewall? name = some firewall) :
    ∃ after, (account.revokeRule rule).Returns Service.handler before () after := by
  obtain ⟨deleted, asked⟩ := deleteFirewall_of_faultless account faultless found
  obtain ⟨after, waited⟩ := await_of_faultless (faultless_of_returns faultless asked)
  unfold revokeRule
  simp only [named]
  exact ⟨after, asked.bind waited⟩

theorem returns_readRules {firewalls : List Firewall} {rules : List Rule} :
    (readRules firewalls).Returns Service.handler before rules after ↔
      firewalls.map readBack? = rules.map some ∧ before = after := by
  induction firewalls generalizing rules with
  | nil =>
    unfold readRules
    rw [returns_pure, List.map_nil, eq_comm (b := List.map some rules), List.map_eq_nil_iff,
      eq_comm (b := rules)]
  | cons firewall rest ih =>
    unfold readRules
    rw [returns_bind]
    constructor
    · rintro ⟨rule, _, first, later⟩
      obtain ⟨read, rfl⟩ := returns_readRule.1 first
      obtain ⟨others, _, listed, last⟩ := returns_bind.1 later
      obtain ⟨rfl, rfl⟩ := returns_pure.1 last
      obtain ⟨told, rfl⟩ := ih.1 listed
      rw [List.map_cons, List.map_cons, read, told]
      exact ⟨rfl, rfl⟩
    · rintro ⟨told, rfl⟩
      cases rules with
      | nil => cases told
      | cons rule others =>
        obtain ⟨read, later⟩ := List.cons.inj told
        have first : (readRule firewall).Returns Service.handler before rule before :=
          returns_readRule.2 ⟨read, rfl⟩
        have listed : (readRules rest).Returns Service.handler before others before :=
          ih.2 ⟨later, rfl⟩
        exact ⟨rule, before, first, listed.bind (returns_done _ before)⟩

theorem isRuleOf_iff {anchor firewall : Firewall} {direction : Direction} :
    isRuleOf anchor direction firewall = true ↔ firewall.name ≠ anchor.name ∧
      anchor.name ∈ firewall.targetTags ∧
      Text.lowerCase firewall.direction = direction.text := by
  unfold isRuleOf
  simp only [Bool.and_eq_true, decide_eq_true_eq, List.contains_iff_mem, and_assoc]

theorem map_readBack? (anchor : Firewall) (direction : Direction) (firewalls : List Firewall) :
    (firewalls.filter (isRuleOf anchor direction)).map readBack? =
      (rulesOf anchor direction firewalls).map some := by
  unfold rulesOf
  induction firewalls with
  | nil => rfl
  | cons firewall rest ih =>
    rw [List.filter_cons]
    split
    · rename_i fits
      obtain ⟨rule, read⟩ := readBack?_isSome (isRuleOf_iff.1 fits).2.2
      rw [List.map_cons, List.filterMap_cons_some read, List.map_cons, ih, read]
    · exact ih

theorem returns_describeRules {group : String} {direction : Direction} {rules : List Rule}
    (returned : (account.describeRules group direction).Returns Service.handler before rules after) :
    ∃ anchor, anchorIn? before.firewalls group = some anchor ∧
      rules = rulesOf anchor direction before.firewalls ∧ after.stock = before.stock := by
  obtain ⟨firewalls, between, listed, rest⟩ := returns_bind.1 returned
  obtain ⟨rfl, same⟩ := returns_listFirewalls listed
  obtain ⟨anchor, _, chosen, rest⟩ := returns_bind.1 rest
  obtain ⟨held, rfl⟩ := returns_anchorIn.1 chosen
  obtain ⟨told, rfl⟩ := returns_readRules.1 rest
  rw [map_readBack?] at told
  exact ⟨anchor, held, ((List.map_inj_right fun _ _ => Option.some.inj).1 told).symm, same⟩

theorem describeRules_of_faultless (account : Account) (faultless : before.Faultless)
    {group : String} {anchor : Firewall} (held : anchorIn? before.firewalls group = some anchor)
    (direction : Direction) :
    ∃ after, (account.describeRules group direction).Returns Service.handler before
      (rulesOf anchor direction before.firewalls) after := by
  obtain ⟨after, listed⟩ := listFirewalls_of_faultless account faultless
  refine ⟨after, ?_⟩
  apply listed.bind
  apply Returns.bind (returns_anchorIn.2 ⟨held, rfl⟩)
  exact returns_readRules.2 ⟨map_readBack? anchor direction before.firewalls, rfl⟩

theorem makes_getGroup (name : String) : (account.getGroup name).Makes Service.Steady := by
  refine makes_bind (makes_service rfl) fun firewall => ?_
  trivial

/-- A name that no firewall has is that of no group; any other failure stays one. -/
theorem makes_findGroup (account : Account) (name : String) :
    ((account.getGroup name).recover fun failure =>
      match failure with
      | .api .notFound _ => return none
      | failure => .fail failure).Makes Service.Steady := by
  refine makes_recover (makes_getGroup name) fun failure => ?_
  split <;> trivial

theorem returns_getGroup {name : String} {found : Option Cloud.Group}
    (returned : (account.getGroup name).Returns Service.handler before found after) :
    found = (before.firewall? name).map groupOf ∧ found ≠ none := by
  obtain ⟨firewall, between, asked, last⟩ := returns_bind.1 returned
  obtain ⟨told, _⟩ := returns_service asked
  obtain ⟨rfl, _⟩ := returns_pure.1 last
  change Service.found (before.firewall? name) "firewall" name = _ at told
  cases held : before.firewall? name with
  | some other =>
    rw [held] at told
    obtain rfl := Except.ok.inj told
    exact ⟨rfl, Option.some_ne_none _⟩
  | none =>
    rw [held] at told
    cases told

theorem returns_lookupGroup {name : String} {found : Option Cloud.Group}
    (returned : (account.lookupGroup name).Returns Service.handler before found after) :
    (found = none ∨ found = (before.firewall? name).map groupOf) ∧ after.stock = before.stock := by
  have asks := makes_findGroup account name
  obtain ⟨between, same, once⟩ := Service.still_stock.returns_retrying asks returned
  have left := Service.still_stock.of_returns asks once
  refine ⟨?_, left.trans same⟩
  rcases returns_recover.1 once with got | ⟨failure, failed, _, handled⟩
  · have told := (returns_getGroup got).1
    change found = (between.stock.firewall? name).map groupOf at told
    rw [same] at told
    exact .inr told
  · split at handled
    · exact .inl (returns_pure.1 handled).1.symm
    · exact (returns_fail.1 handled).elim

theorem lookupGroup_of_faultless (account : Account) (faultless : before.Faultless)
    (name : String) :
    ∃ after, (account.lookupGroup name).Returns Service.handler before
      ((before.firewall? name).map groupOf) after := by
  have answered := faultless.answer account.project (.getFirewall name)
  change _ = Service.found (before.firewall? name) "firewall" name at answered
  refine ⟨(Service.handler (.service account.project (.getFirewall name)) before).state,
    retried_of_returns ?_⟩
  apply returns_recover.2
  cases held : before.firewall? name with
  | some firewall =>
    rw [held] at answered
    have got : (account.service (.getFirewall name)).Returns Service.handler before firewall _ :=
      returns_perform.2 ⟨answered, rfl⟩
    left
    exact got.bind (returns_done _ _)
  | none =>
    rw [held] at answered
    have asked : ((account.service (.getFirewall name)).run Service.handler before).outcome =
        (.error (Service.notFound "firewall" name),
          (Service.handler (.service account.project (.getFirewall name)) before).state) := by
      rw [outcome_service, answered]
      rfl
    right
    refine ⟨Service.notFound "firewall" name, _, ?_, returns_done none _⟩
    unfold getGroup
    rw [outcome_bind, asked]

theorem returns_findMachine {filter : InstanceFilter} {found : Option Machine}
    (returned : (account.findMachine filter).Returns Service.handler before found after) :
    found = (before.machines.filter filter.admits).head? ∧ after.stock = before.stock := by
  have steady : (do
      let machines ← account.service (.listInstances account.zone filter)
      return machines.head? : ComputeProgram (Option Machine)).Makes Service.Steady := by
    refine makes_bind (makes_service rfl) fun machines => ?_
    trivial
  obtain ⟨between, same, once⟩ := Service.still_stock.returns_retrying steady returned
  obtain ⟨machines, _, asked, last⟩ := returns_bind.1 once
  obtain ⟨told, left⟩ := returns_service asked
  rw [same] at told left
  obtain rfl := Except.ok.inj told
  obtain ⟨rfl, rfl⟩ := returns_pure.1 last
  exact ⟨rfl, left⟩

theorem findMachine_of_faultless (account : Account) (faultless : before.Faultless)
    (filter : InstanceFilter) :
    ∃ after, (account.findMachine filter).Returns Service.handler before
      (before.machines.filter filter.admits).head? after := by
  have told : (before.stock.carryOut (.listInstances account.zone filter)).1 =
    .ok (before.machines.filter filter.admits) := rfl
  obtain ⟨after, asked⟩ := service_of_faultless account faultless told
  exact ⟨after, retried_of_returns (asked.bind (returns_done _ after))⟩

theorem returns_lookupInstance {name : String} {found : Option Cloud.Instance}
    (returned : (account.lookupInstance name).Returns Service.handler before found after) :
    found = instanceOf? before name ∧ after.stock = before.stock := by
  obtain ⟨machine, _, searched, last⟩ := returns_bind.1 returned
  obtain ⟨rfl, left⟩ := returns_findMachine searched
  obtain ⟨rfl, rfl⟩ := returns_pure.1 last
  exact ⟨rfl, left⟩

theorem lookupInstance_of_faultless (account : Account) (faultless : before.Faultless)
    (name : String) :
    ∃ after, (account.lookupInstance name).Returns Service.handler before
      (instanceOf? before name) after := by
  obtain ⟨after, searched⟩ := findMachine_of_faultless account faultless (.named name)
  exact ⟨after, searched.bind (returns_done _ after)⟩

end Account

end Bastion.Compute
