import Bastion.Proofs.ServiceReconciliation

set_option autoImplicit false

namespace Bastion.Compute.Account

open Program

/-- A rule of the group under another description, and any other firewall as it is. -/
def describedAnew (anchor : Firewall) (redescribe : Firewall → String) (firewall : Firewall) :
    Firewall :=
  if isRuleOf anchor .ingress firewall || isRuleOf anchor .egress firewall then
    { firewall with description := redescribe firewall }
  else firewall

/-- The site where descriptions of the rules of a group were replaced. -/
def redescribed (anchor : Firewall) (redescribe : Firewall → String) (site : Site Service) :
    Site Service :=
  { site with
    world := { site.world with
      firewalls := site.world.firewalls.map (describedAnew anchor redescribe) } }

/-- What is told of one direction of the group has the keys of these rules and no others. -/
def Tells (account : Account) (group : String) (direction : Direction) (service : Service)
    (wanted : List Rule) : Prop :=
  ∃ rules after,
    (account.describeRules group direction).Returns Service.handler service rules after ∧
      Rule.keySet rules = Rule.keySet wanted

/-- A run returns, and what is told of the group afterwards are the wanted rules. -/
def Heals (account : Account) (request : Request) (group : String) (anchor : Firewall)
    (site : Site Service) : Prop :=
  ∃ healed,
    (account.reconcile request group).Returns (Site.handler Service.handler) site () healed ∧
      ∀ direction, ∃ wanted,
        wantedIn? request (midway anchor request site.world) direction = some wanted ∧
          account.Tells group direction healed.world wanted

@[simp] theorem name_describedAnew (anchor : Firewall) (redescribe : Firewall → String)
    (firewall : Firewall) : (describedAnew anchor redescribe firewall).name = firewall.name := by
  unfold describedAnew
  split <;> rfl

@[simp] theorem id_describedAnew (anchor : Firewall) (redescribe : Firewall → String)
    (firewall : Firewall) : (describedAnew anchor redescribe firewall).id = firewall.id := by
  unfold describedAnew
  split <;> rfl

@[simp] theorem describedAnew_anchor (anchor : Firewall) (redescribe : Firewall → String) :
    describedAnew anchor redescribe anchor = anchor := by
  have noRule : ∀ direction, ¬isRuleOf anchor direction anchor = true := fun direction fits =>
    (isRuleOf_iff.1 fits).1 rfl
  unfold describedAnew
  simp only [noRule, Bool.or_false, Bool.false_eq_true, ↓reduceIte]

variable {account : Account} {request : Request} {group : String} {anchor : Firewall}
  {site finished : Site Service}

theorem anchorIn?_redescribed (held : anchorIn? site.world.firewalls group = some anchor)
    (redescribe : Firewall → String) :
    anchorIn? (redescribed anchor redescribe site).world.firewalls group = some anchor := by
  unfold anchorIn? at *
  have untouched : (fun firewall : Firewall => decide (toString firewall.id = group)) ∘
      describedAnew anchor redescribe = fun firewall => decide (toString firewall.id = group) := by
    funext firewall
    simp only [Function.comp_apply, id_describedAnew]
  change (site.world.firewalls.map (describedAnew anchor redescribe)).find? _ = some anchor
  rw [List.find?_map, untouched, held, Option.map_some, describedAnew_anchor]

theorem redescribed_orderly (orderly : site.world.Orderly) (redescribe : Firewall → String) :
    (redescribed anchor redescribe site).world.Orderly := by
  refine ⟨?_, orderly.keeps⟩
  change ((site.world.firewalls.map (describedAnew anchor redescribe)).map (·.name)).Nodup
  have same : (fun firewall : Firewall => firewall.name) ∘ describedAnew anchor redescribe =
      fun firewall => firewall.name := funext (name_describedAnew anchor redescribe)
  rw [List.map_map, same]
  exact orderly.distinct

theorem heals_iff (faultless : site.world.Faultless) (orderly : site.world.Orderly)
    (held : anchorIn? site.world.firewalls group = some anchor) :
    account.Heals request group anchor site ↔ Clear anchor request site.world := by
  rw [← run_returns_iff account faultless orderly held]
  constructor
  · rintro ⟨healed, returned, _⟩
    exact ⟨healed, returns_reconcile.1 returned⟩
  · rintro ⟨healed, returned⟩
    refine ⟨healed, returns_reconcile.2 returned, fun direction => ?_⟩
    obtain ⟨heldHealed, wanted, completes⟩ := completes_of_returns orderly held returned
    have faultlessHealed := faultless_site faultless returned
    obtain ⟨after, described⟩ :=
      describeRules_of_faultless account faultlessHealed heldHealed direction
    cases direction with
    | ingress => exact ⟨_, rfl, _, after, described, completes.ingress⟩
    | egress => exact ⟨wanted, completes.told, _, after, described, completes.egress⟩

/-- After a run of `reconcile_security_group_rules` that returned, and whatever the rules of the group are
described as then, the next run heals what was lost exactly if nothing is in its way: above all, if no
firewall has the name of a lost rule. -/
theorem redescribed_rules_heal_iff (account : Account) (request : Request) (group : String)
    (faultless : site.world.Faultless) (orderly : site.world.Orderly)
    (completed : (account.reconcile request group).Returns (Site.handler Service.handler) site ()
      finished) :
    ∃ anchor, anchorIn? finished.world.firewalls group = some anchor ∧
      ∀ redescribe : Firewall → String,
        account.Heals request group anchor (redescribed anchor redescribe finished) ↔
          Clear anchor request (redescribed anchor redescribe finished).world := by
  have returned := returns_reconcile.1 completed
  obtain ⟨anchor, _, _, held, _⟩ := returns_run orderly returned
  have faultlessAfter := faultless_site faultless returned
  have orderlyAfter := orderly_site orderly returned
  refine ⟨anchor, held, fun redescribe => ?_⟩
  exact heals_iff faultlessAfter (redescribed_orderly orderlyAfter redescribe)
    (anchorIn?_redescribed held redescribe)

/-- A wanted rule that is lost while its name is in use is in the way of any run. -/
theorem not_clear_of_taken {service : Service} {wanted : Rule}
    (member : wanted ∈ Rule.wantedIngress request.ingress)
    (lost : wanted.key ∉ Rule.keySet (rulesOf anchor .ingress service.firewalls))
    (taken : ∃ owner ∈ service.firewalls, owner.name = ruleName anchor.name wanted) :
    ¬Clear anchor request service := by
  intro clear
  obtain ⟨owner, present, owned⟩ := taken
  have added : wanted.key ∈ Rule.keySet
      (diffOf anchor .ingress (Rule.wantedIngress request.ingress) service).added := by
    unfold diffOf
    rw [Rule.keySet_added]
    exact ⟨Rule.mem_keySet.2 ⟨wanted, member, rfl⟩, lost⟩
  obtain ⟨rule, inside, same⟩ := Rule.mem_keySet.1 added
  have directed : rule.direction = wanted.direction := congrArg Rule.Key.direction same
  have named : ruleName anchor.name rule = ruleName anchor.name wanted := by
    unfold ruleName
    rw [same, directed]
  have free := clear.ingress.creatable.free rule inside
  exact Service.firewall?_eq_none.1 free owner present (owned.trans named.symm)

/-- The firewall that the provider itself makes to let in SSH from the office. -/
def officeEntry : Firewall :=
  officeFirewall (ruleName "bastion-1" (Rule.allowSsh Pass.officeBlock)) 10
    (Rule.allowSsh Pass.officeBlock)

/-- One firewall under a description that is no rule. -/
def edited (name : String) (firewall : Firewall) : String :=
  if firewall.name = name then "edited" else firewall.description

def officeRules : List Firewall := officeEntry :: officeExits

theorem officeRules_ingress : Rule.keySet (rulesOf officeAnchor .ingress officeRules) =
    Rule.keySet (Rule.wantedIngress Pass.officeRequest.ingress) := by
  unfold officeRules
  rw [rulesOf_cons (by decide +kernel) (readBack?_of_ruleDescription rfl), officeExits_ingress]
  rfl

theorem officeRules_egress : Rule.keySet (rulesOf officeAnchor .egress officeRules) =
    Rule.keySet officeEgress := by
  have outside : ¬isRuleOf officeAnchor .egress officeEntry = true := by decide +kernel
  unfold officeRules
  rw [rulesOf_cons_of_not outside]
  exact officeExits_egress

theorem officeRules_orderly : (officeService officeRules).Orderly := ⟨by decide +kernel, rfl⟩

theorem describedAnew_other {name : String} {firewall : Firewall} (other : firewall.name ≠ name) :
    describedAnew anchor (edited name) firewall = firewall := by
  unfold describedAnew edited
  rw [if_neg other]
  split <;> rfl

theorem office_redescribed (redescribe : Firewall → String) (rules : List Firewall) :
    (officeService rules).firewalls.map (describedAnew officeAnchor redescribe) =
      (officeService (rules.map (describedAnew officeAnchor redescribe))).firewalls := by
  have workload : describedAnew officeAnchor redescribe officeWorkload = officeWorkload :=
    if_neg (by decide)
  unfold officeService
  simp only [List.map_cons, describedAnew_anchor, workload]

/-- With another description, the firewall that the provider made is no longer the rule. -/
theorem entry_obstructs : ¬Clear officeAnchor Pass.officeRequest
    (officeService (officeRules.map (describedAnew officeAnchor (edited officeEntry.name)))) := by
  refine not_clear_of_taken (List.mem_singleton_self _) ?_
    ⟨describedAnew officeAnchor (edited officeEntry.name) officeEntry, ?_, name_describedAnew _ _ _⟩
  · rw [rulesOf_office]
    change _ ∉ List.map Rule.key _
    decide +kernel
  · exact List.mem_cons_of_mem _ (List.mem_cons_of_mem _ List.mem_cons_self)

/-- The last rule of the office's bastion under another description, and what is read of it. -/
def strayExit : Firewall :=
  { officeFirewall "no-way-out" 12 Rule.denyEgress with description := "edited" }

def strayRule : Rule :=
  { Rule.denyEgress with
    description := some "edited", destination := none, handle := some "no-way-out" }

theorem officeRules_redescribed :
    officeRules.map (describedAnew officeAnchor (edited "no-way-out")) =
      [officeEntry, officeFirewall "way-out" 11 officeWay, strayExit] := by
  have entry : officeEntry.name ≠ "no-way-out" := by decide +kernel
  have exit : describedAnew officeAnchor (edited "no-way-out")
      (officeFirewall "no-way-out" 12 Rule.denyEgress) = strayExit := if_pos (by decide)
  unfold officeRules officeExits
  rw [List.map_cons, List.map_cons, List.map_cons, List.map_nil, describedAnew_other entry,
    describedAnew_other (by decide), exit]

/-- Not so with a firewall of another name, as the name of the lost rule is free. -/
theorem exit_obstructs_nothing : Clear officeAnchor Pass.officeRequest
    (officeService (officeRules.map (describedAnew officeAnchor (edited "no-way-out")))) := by
  rw [officeRules_redescribed]
  have ingress : Rule.keySet (rulesOf officeAnchor .ingress (officeService
      [officeEntry, officeFirewall "way-out" 11 officeWay, strayExit]).firewalls) =
        Rule.keySet (Rule.wantedIngress Pass.officeRequest.ingress) := by
    rw [rulesOf_office, rulesOf_cons (by decide +kernel) (readBack?_of_ruleDescription rfl),
      rulesOf_cons_of_not (by decide), rulesOf_cons_of_not (by decide)]
    rfl
  have told : rulesOf officeAnchor .egress
      (officeService [officeEntry, officeFirewall "way-out" 11 officeWay, strayExit]).firewalls =
        [{ officeWay with handle := some "way-out" }, strayRule] := by
    have outside : ¬isRuleOf officeAnchor .egress officeEntry = true := by decide +kernel
    have stray : rulesOf officeAnchor .egress [strayExit] = [strayRule] := by decide
    rw [rulesOf_office, rulesOf_cons_of_not outside,
      rulesOf_cons (by decide) (readBack?_of_ruleDescription rfl), stray]
    rfl
  have unmoved : midway officeAnchor Pass.officeRequest
      (officeService [officeEntry, officeFirewall "way-out" 11 officeWay, strayExit]) =
        officeService [officeEntry, officeFirewall "way-out" 11 officeWay, strayExit] :=
    settledBy_of_keySet_eq ingress
  refine ⟨unobstructed_of_keySet_eq ingress, officeEgress, ?_⟩
  rw [unmoved]
  refine ⟨rfl, ?_⟩
  have lost : diffOf officeAnchor .egress officeEgress
      (officeService [officeEntry, officeFirewall "way-out" 11 officeWay, strayExit]) =
        ⟨[Rule.denyEgress], [strayRule]⟩ := by
    unfold diffOf
    rw [told]
    decide
  rw [lost]
  refine ⟨⟨?_, List.nodup_singleton _, ?_⟩, ?_⟩ <;> intro rule member <;>
    rw [List.mem_singleton.1 member]
  · decide +kernel
  · exact ⟨["0.0.0.0/0"], by decide⟩
  · exact ⟨"no-way-out", by decide⟩

theorem stock_office_redescribed (left : finished.world.stock = (officeService officeRules).stock)
    (redescribe : Firewall → String) :
    (redescribed officeAnchor redescribe finished).world.stock =
      (officeService (officeRules.map (describedAnew officeAnchor redescribe))).stock := by
  change { finished.world.stock with
    firewalls := finished.world.stock.firewalls.map (describedAnew officeAnchor redescribe) } = _
  rw [left]
  change { (officeService officeRules).stock with
    firewalls := (officeService officeRules).firewalls.map
      (describedAnew officeAnchor redescribe) } = _
  rw [office_redescribed]
  rfl

theorem redescribed_rules_heal_iff_office : ∃ finished,
    (officeAccount.reconcile Pass.officeRequest officeGroup).Returns (Site.handler Service.handler)
      (officeSite officeRules) () finished ∧
    ¬officeAccount.Heals Pass.officeRequest officeGroup officeAnchor
      (redescribed officeAnchor (edited officeEntry.name) finished) ∧
    officeAccount.Heals Pass.officeRequest officeGroup officeAnchor
      (redescribed officeAnchor (edited "no-way-out") finished) := by
  obtain ⟨finished, completed, left⟩ :=
    office_run officeRules_orderly officeRules_ingress officeRules_egress
  have faultless : (officeSite officeRules).world.Faultless := office_faultless officeRules
  obtain ⟨anchor, held, heals⟩ := redescribed_rules_heal_iff officeAccount Pass.officeRequest
    officeGroup faultless officeRules_orderly completed
  rw [Service.firewalls_of_stock left] at held
  obtain rfl : officeAnchor = anchor :=
    Option.some.inj ((office_held officeRules).symm.trans held)
  refine ⟨finished, completed, fun healed => ?_, ?_⟩
  · have clear := (heals (edited officeEntry.name)).1 healed
    exact entry_obstructs (clear.of_stock (stock_office_redescribed left _).symm)
  · exact (heals (edited "no-way-out")).2
      (exit_obstructs_nothing.of_stock (stock_office_redescribed left _))

end Bastion.Compute.Account
