import Bastion.Proofs.ServiceReconciliation
import Bastion.Proofs.Tidiness

set_option autoImplicit false

namespace Bastion.Compute

open Program

theorem eight_le_length_wordHex (word : UInt32) : 8 ≤ (Text.wordHex word).length := by
  unfold Text.wordHex
  rw [List.length_append, List.length_replicate]
  omega

theorem length_take_digest (text : String) : ((Text.digest text).take 10).length = 10 := by
  unfold Text.digest
  simp only [List.flatMap_cons, List.length_take, List.length_append]
  generalize Text.Digest.blocks _ _ _ = result
  have one := eight_le_length_wordHex result.a
  have two := eight_le_length_wordHex result.b
  omega

/-- What stands after the group in the name of a rule's firewall. -/
def ruleTail (rule : Rule) : List Char :=
  (match rule.direction with
    | .ingress => ['-', 'i', '-']
    | .egress => ['-', 'e', '-']) ++ (Text.digest rule.key.text).take 10

theorem toList_ruleName (tag : String) (rule : Rule) :
    (ruleName tag rule).toList = tag.toList.take 48 ++ ruleTail rule := by
  unfold ruleName ruleTail
  cases rule.direction <;> simp [String.toList_append]

theorem length_ruleTail (rule : Rule) : (ruleTail rule).length = 13 := by
  unfold ruleTail
  rw [List.length_append, length_take_digest]
  cases rule.direction <;> rfl

/-- The name tells the direction, the first characters of the group and those of the digest, no more. -/
theorem ruleName_eq_iff {first second : String} {rule other : Rule} :
    ruleName first rule = ruleName second other ↔
      first.toList.take 48 = second.toList.take 48 ∧ ruleTail rule = ruleTail other := by
  rw [← String.toList_inj, toList_ruleName, toList_ruleName]
  constructor
  · intro same
    exact List.append_inj' same (by rw [length_ruleTail, length_ruleTail])
  · rintro ⟨group, rest⟩
    rw [group, rest]

namespace Account

variable {account : Account} {before : Service} {rule : Rule}

theorem destinationsOf?_inserted_of_some {destinations : List String}
    (led : destinationsOf? before rule = some destinations) (spec : FirewallSpec) :
    destinationsOf? (before.inserted spec) rule = some destinations := by
  unfold destinationsOf? at led ⊢
  cases directed : rule.direction with
  | ingress =>
    simp only [directed] at led ⊢
    exact led
  | egress =>
    cases grouped : present rule.destinationGroup with
    | none =>
      simp only [directed, grouped] at led ⊢
      exact led
    | some group =>
      simp only [directed, grouped] at led ⊢
      unfold rangesOf? at led ⊢
      obtain ⟨anchor, held, ranges⟩ := Option.bind_eq_some_iff.1 led
      rw [anchorIn?_inserted held, Option.bind_some]
      exact ranges

/-- A rule is refused where its name is taken, and nothing is changed. -/
theorem createRule_of_taken (account : Account) (faultless : before.Faultless) {group : String}
    {anchor other : Firewall} {destinations : List String}
    (held : anchorIn? before.firewalls group = some anchor)
    (led : destinationsOf? before rule = some destinations)
    (taken : before.firewall? (ruleName anchor.name rule) = some other) :
    let run := (account.createRule group rule).run Service.handler before
    run.result = .error (.api .conflict
      s!"firewall {ruleName anchor.name rule} already exists") ∧
      run.state.stock = before.stock := by
  obtain ⟨found, anchored⟩ := anchor_of_faultless account faultless held
  have faultlessFound := faultless_of_returns faultless anchored
  have same := (returns_anchor anchored).2
  change destinationsOf? before.stock rule = _ at led
  rw [← same] at led
  obtain ⟨located, leads⟩ := destinations_of_faultless account faultlessFound led
  have faultlessLocated := faultless_of_returns faultlessFound leads
  have unchanged : located.stock = before.stock := (returns_destinations leads).2.trans same
  let spec := ruleSpec anchor.name anchor.network rule destinations
  let conflict : Failure := .api .conflict s!"firewall {spec.name} already exists"
  have refused : located.stock.carryOut (.insertFirewall spec) = (.error conflict, before.stock) := by
    have inUse : (before.stock.firewall? spec.name).isSome = true := by
      change (before.firewall? (ruleName anchor.name rule)).isSome = true
      rw [taken]
      rfl
    rw [unchanged]
    change before.stock.change (before.stock.insertFirewall spec) = _
    unfold Service.insertFirewall
    rw [if_pos inUse]
    rfl
  have asked := faultlessLocated.carries account.project (.insertFirewall spec)
  rw [refused] at asked
  have ended : ((account.createRule group rule).run Service.handler before).outcome =
      (.error conflict,
        (Service.handler (.service account.project (.insertFirewall spec)) located).state) := by
    unfold createRule
    rw [outcome_bind_of_returns anchored, outcome_bind_of_returns leads, outcome_bind,
      outcome_service, asked.1]
  obtain ⟨result, left⟩ := Prod.mk.inj ended
  exact ⟨result, left ▸ asked.2⟩

theorem firewall?_inserted_self (spec : FirewallSpec) (free : before.firewall? spec.name = none) :
    (before.inserted spec).firewall? spec.name = some { spec with id := before.lastId + 1 } := by
  unfold Service.firewall? at free
  unfold Service.firewall? Service.inserted
  rw [List.find?_append, free, Option.none_or]
  exact List.find?_cons_of_pos (decide_eq_true rfl)

/-- A rule has one `_rule_firewall_name` in two groups exactly if the names of the groups agree in their
first 48 characters. When it has been created in the one group, it can be created in the other if they
differ there; if they agree it never can, as its name is taken, and the attempt changes nothing. -/
theorem same_rule_in_two_groups (account : Account) (rule : Rule) {before between : Service}
    {first second : Firewall} (faultless : before.Faultless) (tidy : before.Tidy)
    (one : first ∈ before.firewalls) (two : second ∈ before.firewalls)
    (free : before.firewall? (ruleName second.name rule) = none)
    (created : (account.createRule (toString first.id) rule).Returns Service.handler before ()
      between) :
    let again := (account.createRule (toString second.id) rule).run Service.handler between
    (ruleName first.name rule = ruleName second.name rule ↔
      first.name.toList.take 48 = second.name.toList.take 48) ∧
    (first.name.toList.take 48 ≠ second.name.toList.take 48 → again.result = .ok ()) ∧
    (first.name.toList.take 48 = second.name.toList.take 48 →
      again.result = .error (.api .conflict
        s!"firewall {ruleName second.name rule} already exists") ∧
      again.state.stock = between.stock) := by
  have named : ruleName first.name rule = ruleName second.name rule ↔
      first.name.toList.take 48 = second.name.toList.take 48 :=
    ruleName_eq_iff.trans (and_iff_left rfl)
  obtain ⟨anchor, destinations, held, led, vacant, left⟩ := returns_createRule tidy.keeps created
  obtain rfl := Option.some.inj (held.symm.trans (tidy.anchorIn?_of_mem one))
  have faultlessBetween := faultless_of_returns faultless created
  -- The second group stands as it stood, and the rule leads where it led.
  have heldBetween : anchorIn? between.firewalls (toString second.id) = some second :=
    anchorIn?_of_stock (anchorIn?_inserted (tidy.anchorIn?_of_mem two) _) left
  have ledBetween : destinationsOf? between rule = some destinations := by
    change destinationsOf? between.stock rule = _
    rw [left]
    exact destinationsOf?_inserted_of_some led _
  refine ⟨named, fun differ => ?_, fun agree => ?_⟩
  · have freeBetween : between.firewall? (ruleName second.name rule) = none := by
      change between.stock.firewall? _ = none
      rw [left]
      exact firewall?_inserted.2 ⟨free, fun same => differ (named.1 same)⟩
    obtain ⟨after, returned⟩ := createRule_of_faultless account faultlessBetween heldBetween
      ledBetween freeBetween
    exact (outcome_of_returns returned).1
  · obtain ⟨other, taken⟩ : ∃ other, between.firewall? (ruleName second.name rule) = some other := by
      change ∃ other, between.stock.firewall? _ = some other
      rw [left, ← named.2 agree]
      exact ⟨_, firewall?_inserted_self (ruleSpec anchor.name anchor.network rule destinations) vacant⟩
    exact createRule_of_taken account faultlessBetween heldBetween ledBetween taken

/-- The groups of two bastions of a cluster, by the names that are derived for them. -/
def shiftGroup (bastion : String) (id : Nat) : Firewall :=
  let options := Options.ofNames "shoot--payments--production-eu" bastion "region-1" "" none
  { anchorSpec "shoot-vpc" options.groupName with id := id }

def shiftService : Service :=
  { Service.empty with
    firewalls := [shiftGroup "engineer-on-call-01" 1, shiftGroup "engineer-on-call-02" 2] }

theorem same_rule_in_two_groups_shift :
    let first := shiftGroup "engineer-on-call-01" 1
    let second := shiftGroup "engineer-on-call-02" 2
    let rule := Rule.allowSsh Pass.annexBlock
    first.name ≠ second.name ∧ second.name.length ≤ 63 ∧
    ruleName first.name rule = ruleName second.name rule ∧
    ∃ between,
      (officeAccount.createRule (toString first.id) rule).Returns Service.handler shiftService ()
        between ∧
      ((officeAccount.createRule (toString second.id) rule).run Service.handler between).result =
        .error (.api .conflict s!"firewall {ruleName second.name rule} already exists") := by
  intro first second rule
  have faultless : shiftService.Faultless := by
    intro method queue held
    cases held
  have tidy : shiftService.Tidy :=
    ⟨⟨by decide, rfl⟩, ⟨by decide, by decide⟩, ⟨by decide, by decide⟩⟩
  have one : first ∈ shiftService.firewalls := List.mem_cons_self
  have two : second ∈ shiftService.firewalls := List.mem_cons_of_mem _ List.mem_cons_self
  have agree : first.name.toList.take 48 = second.name.toList.take 48 := by decide +kernel
  have free : shiftService.firewall? (ruleName second.name rule) = none := by decide +kernel
  have freeFirst : shiftService.firewall? (ruleName first.name rule) = none := by decide +kernel
  have held := tidy.anchorIn?_of_mem one
  have led : destinationsOf? shiftService rule = some [] := rfl
  obtain ⟨between, created⟩ :=
    createRule_of_faultless officeAccount faultless held led freeFirst
  obtain ⟨named, _, refuses⟩ :=
    same_rule_in_two_groups officeAccount rule faultless tidy one two free created
  exact ⟨by decide +kernel, by decide +kernel, named.2 agree, between, created, (refuses agree).1⟩

end Account

end Bastion.Compute
