import Bastion.Proofs.ServiceReconciliation
import Bastion.Proofs.Tidiness

set_option autoImplicit false

namespace Bastion.Compute.Account

open Program

/-- The firewall is for the instances of the group that the anchor holds, in that direction, and does not
just hold the group. -/
def ServesGroup (anchor : Firewall) (direction : Direction) (firewall : Firewall) : Prop :=
  firewall ≠ anchor ∧ anchor.name ∈ firewall.targetTags ∧
    Text.lowerCase firewall.direction = direction.text

instance (anchor : Firewall) (direction : Direction) :
    DecidablePred (ServesGroup anchor direction) := fun _ =>
  inferInstanceAs (Decidable (_ ∧ _))

def revokeEach (account : Account) : List Rule → ComputeProgram Unit
  | [] => return ()
  | rule :: rest => do
    account.revokeRule rule
    account.revokeEach rest

variable {service before : Service} {anchor : Firewall} {direction : Direction}

/-- As names are unique, the anchor is told from the others by its name. -/
theorem filter_isRuleOf (distinct : (service.firewalls.map (·.name)).Nodup)
    (anchored : anchor ∈ service.firewalls) :
    service.firewalls.filter (isRuleOf anchor direction) =
      service.firewalls.filter (ServesGroup anchor direction) := by
  refine List.filter_congr fun firewall held => ?_
  rw [Bool.eq_iff_iff, isRuleOf_iff, decide_eq_true_iff]
  have named : firewall.name = anchor.name ↔ firewall = anchor :=
    ⟨List.inj_on_of_nodup_map distinct held anchored, congrArg fun known : Firewall => known.name⟩
  exact and_congr_left fun _ => not_congr named

/-- Of every firewall of the group a rule is told, in their order. -/
theorem forall₂_rulesOf (anchor : Firewall) (direction : Direction) (firewalls : List Firewall) :
    List.Forall₂ (fun firewall rule => readBack? firewall = some rule)
      (firewalls.filter (isRuleOf anchor direction)) (rulesOf anchor direction firewalls) := by
  have read := map_readBack? anchor direction firewalls
  rw [← List.forall₂_eq_eq_eq, List.forall₂_map_left_iff, List.forall₂_map_right_iff] at read
  exact read

/-- The rules of a group are known by the firewalls that serve it. -/
theorem stamped_rulesOf (distinct : (service.firewalls.map (·.name)).Nodup)
    (anchored : anchor ∈ service.firewalls) :
    List.Forall₂
      (fun firewall rule => rule.handle = some firewall.name ∧ rule.priority = firewall.priority)
      (service.firewalls.filter (ServesGroup anchor direction))
      (rulesOf anchor direction service.firewalls) := by
  have stamped := (forall₂_rulesOf anchor direction service.firewalls).imp
    fun _ _ => stamp_of_readBack?
  rwa [filter_isRuleOf distinct anchored] at stamped

theorem held_of_mem_rulesOf {rule : Rule}
    (told : rule ∈ rulesOf anchor direction service.firewalls) :
    ∃ firewall ∈ service.firewalls, rule.handle = some firewall.name := by
  obtain ⟨firewall, stands, _, read⟩ := mem_rulesOf.1 told
  exact ⟨firewall, stands, handle_of_readBack? read⟩

theorem nodup_handles_rulesOf (distinct : (service.firewalls.map (·.name)).Nodup) :
    ((rulesOf anchor direction service.firewalls).map Rule.handle).Nodup := by
  rw [handles_rulesOf, ← Function.comp_def, ← List.map_map]
  exact (distinct.sublist (List.filter_sublist.map _)).map (Option.some_injective _)

theorem describeRules_of_unheld (account : Account) (faultless : service.Faultless) {group : String}
    (missing : anchorIn? service.firewalls group = none) (direction : Direction) :
    ((account.describeRules group direction).run Service.handler service).result =
      .error (.compute (.groupNotFound group)) := by
  obtain ⟨after, listed⟩ := listFirewalls_of_faultless account faultless
  change ((account.describeRules group direction).run Service.handler service).outcome.1 = _
  unfold describeRules
  rw [outcome_bind_of_returns listed]
  unfold anchorIn
  simp only [missing]
  rfl

/-- A group is not found exactly if no firewall has its id. -/
theorem describeRules_refused_iff (account : Account) (faultless : service.Faultless)
    (group : String) (direction : Direction) :
    ((account.describeRules group direction).run Service.handler service).result =
        .error (.compute (.groupNotFound group)) ↔
      ∀ firewall ∈ service.firewalls, toString firewall.id ≠ group := by
  constructor
  · intro refused firewall held same
    cases found : anchorIn? service.firewalls group with
    | none => exact List.find?_eq_none.1 found firewall held (decide_eq_true same)
    | some anchor =>
      obtain ⟨told, described⟩ := describeRules_of_faultless account faultless found direction
      cases refused.symm.trans (outcome_of_returns described).1
  · intro missing
    refine describeRules_of_unheld account faultless (List.find?_eq_none.2 ?_) direction
    intro firewall held same
    exact missing firewall held (of_decide_eq_true same)

theorem revokeRule_of_held (account : Account) (faultless : before.Faultless)
    (distinct : (before.firewalls.map (·.name)).Nodup) {firewall : Firewall} {rule : Rule}
    (held : firewall ∈ before.firewalls) (named : firewall.name ≠ "")
    (handled : rule.handle = some firewall.name) :
    ∃ after, (account.revokeRule rule).Returns Service.handler before () after ∧
      after.stock = (before.spared [rule.handle]).stock := by
  have given : present rule.handle = some firewall.name :=
    Option.filter_eq_some_iff.2 ⟨handled, decide_eq_true named⟩
  have found := Service.firewall?_of_mem distinct held
  obtain ⟨after, revoked⟩ := revokeRule_of_faultless account faultless given found
  obtain ⟨name, other, told, present, left⟩ := returns_revokeRule revoked
  obtain rfl := Option.some.inj (told.symm.trans given)
  obtain rfl := Option.some.inj (present.symm.trans found)
  rw [Service.without_eq_spared distinct held, ← handled] at left
  exact ⟨after, revoked, left⟩

/-- Rules that are known by firewalls with different names are revoked, each in its turn. -/
theorem revokeEach_of_held (account : Account) {rules : List Rule} (faultless : before.Faultless)
    (distinct : (before.firewalls.map (·.name)).Nodup)
    (held : ∀ rule ∈ rules, ∃ firewall ∈ before.firewalls, firewall.name ≠ "" ∧
      rule.handle = some firewall.name)
    (apart : (rules.map Rule.handle).Nodup) :
    ∃ after, (account.revokeEach rules).Returns Service.handler before () after ∧
      after.stock = (before.spared (rules.map Rule.handle)).stock := by
  induction rules generalizing before with
  | nil =>
    refine ⟨before, returns_done () before, ?_⟩
    simp [Service.spared]
  | cons rule rest ih =>
    obtain ⟨firewall, inside, named, handled⟩ := held rule List.mem_cons_self
    obtain ⟨between, revoked, left⟩ :=
      revokeRule_of_held account faultless distinct inside named handled
    rw [List.map_cons, List.nodup_cons] at apart
    have firewalls := Service.firewalls_of_stock left
    -- The firewalls of the other rules still stand, as their names differ from that of the first.
    have heldBetween : ∀ other ∈ rest, ∃ firewall ∈ between.firewalls, firewall.name ≠ "" ∧
        other.handle = some firewall.name := by
      intro other member
      obtain ⟨owner, kept, given, same⟩ := held other (List.mem_cons_of_mem rule member)
      refine ⟨owner, ?_, given, same⟩
      rw [firewalls]
      apply Service.mem_spared kept
      intro taken
      apply apart.1
      rw [← List.mem_singleton.1 taken, ← same]
      exact List.mem_map_of_mem member
    have distinctBetween : (between.firewalls.map (·.name)).Nodup := by
      rw [firewalls]
      exact distinct.sublist (List.filter_sublist.map _)
    obtain ⟨after, others, last⟩ :=
      ih (faultless_of_returns faultless revoked) distinctBetween heldBetween apart.2
    refine ⟨after, revoked.bind others, ?_⟩
    rw [last]
    change between.stock.spared _ = _
    rw [left]
    change ((before.spared [rule.handle]).spared (rest.map Rule.handle)).stock = _
    rw [Service.spared_spared]
    rfl

theorem spared_rulesOf (distinct : (service.firewalls.map (·.name)).Nodup)
    (anchored : anchor ∈ service.firewalls) {order : List Rule}
    (same : order.Perm (rulesOf anchor direction service.firewalls)) :
    (service.spared (order.map Rule.handle)).firewalls =
      service.firewalls.filter fun firewall => ¬ServesGroup anchor direction firewall := by
  refine List.filter_congr fun firewall held => ?_
  rw [decide_eq_decide, (same.map Rule.handle).mem_iff, handles_rulesOf,
    filter_isRuleOf distinct anchored]
  refine not_congr ⟨fun member => ?_, fun serves => ?_⟩
  · obtain ⟨other, inside, named⟩ := List.mem_map.1 member
    obtain ⟨stands, serves⟩ := List.mem_filter.1 inside
    obtain rfl := List.inj_on_of_nodup_map distinct stands held (Option.some.inj named)
    exact of_decide_eq_true serves
  · exact List.mem_map.2 ⟨firewall, List.mem_filter.2 ⟨held, decide_eq_true serves⟩, rfl⟩

/-- To revoke the rules of a group, in any order, leaves the firewalls that do not serve it. -/
theorem revokeEach_rulesOf (account : Account) (faultless : before.Faultless)
    (distinct : (before.firewalls.map (·.name)).Nodup)
    (named : ∀ firewall ∈ before.firewalls, firewall.name ≠ "")
    (anchored : anchor ∈ before.firewalls) {order : List Rule}
    (same : order.Perm (rulesOf anchor direction before.firewalls)) :
    ∃ after, (account.revokeEach order).Returns Service.handler before () after ∧
      after.stock = { before.stock with
        firewalls := before.firewalls.filter
          fun firewall => ¬ServesGroup anchor direction firewall } := by
  have held : ∀ rule ∈ order, ∃ firewall ∈ before.firewalls, firewall.name ≠ "" ∧
      rule.handle = some firewall.name := by
    intro rule member
    obtain ⟨firewall, stands, handled⟩ := held_of_mem_rulesOf (same.mem_iff.1 member)
    exact ⟨firewall, stands, named firewall stands, handled⟩
  have apart : (order.map Rule.handle).Nodup := by
    rw [(same.map Rule.handle).nodup_iff]
    exact nodup_handles_rulesOf distinct
  obtain ⟨after, revoked, last⟩ := revokeEach_of_held account faultless distinct held apart
  refine ⟨after, revoked, ?_⟩
  rw [last, ← spared_rulesOf distinct anchored same]
  rfl

/-- A group is not found by `describe_rules` exactly if no firewall has its id. Where one has, a rule is
told of each firewall that serves the group, in their order, under the firewall's own name and with its
priority, whatever the descriptions say; and to revoke what was told, in any order, takes these firewalls
and no others. -/
theorem group_told_and_revoked (account : Account) (group : String) (direction : Direction)
    {service : Service} (faultless : service.Faultless)
    (names : (service.firewalls.map (·.name)).Nodup)
    (named : ∀ firewall ∈ service.firewalls, firewall.name ≠ "")
    (ids : (service.firewalls.map (·.id)).Nodup) :
    (((account.describeRules group direction).run Service.handler service).result =
        .error (.compute (.groupNotFound group)) ↔
      ∀ firewall ∈ service.firewalls, toString firewall.id ≠ group) ∧
    ∀ anchor ∈ service.firewalls, toString anchor.id = group →
      ∃ rules told,
        (account.describeRules group direction).Returns Service.handler service rules told ∧
        List.Forall₂
          (fun firewall rule =>
            rule.handle = some firewall.name ∧ rule.priority = firewall.priority)
          (service.firewalls.filter (ServesGroup anchor direction)) rules ∧
        ∀ order : List Rule, order.Perm rules →
          ∃ left, (account.revokeEach order).Returns Service.handler told () left ∧
            left.stock = { service.stock with
              firewalls := service.firewalls.filter
                fun firewall => ¬ServesGroup anchor direction firewall } := by
  refine ⟨describeRules_refused_iff account faultless group direction, ?_⟩
  rintro anchor anchored rfl
  have found := Service.anchorIn?_of_mem ids anchored
  obtain ⟨told, described⟩ := describeRules_of_faultless account faultless found direction
  obtain ⟨_, _, _, same⟩ := returns_describeRules described
  refine ⟨_, told, described, stamped_rulesOf names anchored, fun order perm => ?_⟩
  rw [← Service.firewalls_of_stock same] at names named anchored perm ⊢
  rw [← same]
  exact revokeEach_rulesOf account (faultless_of_returns faultless described) names named anchored
    perm

/-- Firewalls of the office's bastion. The description of the first is a rule that gives another name and
another priority, that of the second is no rule; the third leads out. -/
def officeOddities : List Firewall :=
  let posing := [("handle", .string "shoot-sg"), ("priority", .int 7),
    ("direction", .string "egress"), ("ip_protocol", .string "tcp"), ("port_range", .string "22/22")]
  let entry := officeFirewall "posing" 21 (Rule.allowSsh Pass.annexBlock)
  [{ entry with description := Json.print .dense (.object posing) },
    { entry with name := "edited", id := 22, direction := "Ingress", description := "by hand" },
    officeFirewall "way-out" 23 officeWay]

theorem group_told_and_revoked_office :
    ∃ first second told left,
      (officeAccount.describeRules officeGroup .ingress).Returns Service.handler
        (officeService officeOddities) [first, second] told ∧
      first.handle = some "posing" ∧ first.priority = 1 ∧ second.handle = some "edited" ∧
      (officeAccount.revokeEach [second, first]).Returns Service.handler told () left ∧
      left.firewalls.map (·.name) = ["bastion-1", "shoot-sg", "way-out"] := by
  let service := officeService officeOddities
  have names : (service.firewalls.map (·.name)).Nodup := by decide
  have named : ∀ firewall ∈ service.firewalls, firewall.name ≠ "" := by decide
  have ids : (service.firewalls.map (·.id)).Nodup := by decide
  obtain ⟨rules, told, described, stamped, revoked⟩ :=
    (group_told_and_revoked officeAccount officeGroup .ingress (office_faultless officeOddities)
      names named ids).2 officeAnchor List.mem_cons_self rfl
  have serving : service.firewalls.filter (ServesGroup officeAnchor .ingress) =
      officeOddities.take 2 := by decide
  rw [serving] at stamped
  obtain ⟨first, _, ⟨posing, ranked⟩, later, rfl⟩ := List.forall₂_cons_left_iff.1 stamped
  obtain ⟨second, _, ⟨edited, _⟩, last, rfl⟩ := List.forall₂_cons_left_iff.1 later
  obtain rfl := List.forall₂_nil_left_iff.1 last
  obtain ⟨left, done, remains⟩ := revoked [second, first] (.swap first second [])
  refine ⟨first, second, told, left, described, posing, ranked, edited, done, ?_⟩
  change left.stock.firewalls.map (·.name) = _
  rw [remains]
  decide

end Bastion.Compute.Account
