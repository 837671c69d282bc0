import Bastion.Compute.Firewall
import Bastion.Proofs.Runs
import Bastion.Proofs.Shapes

set_option autoImplicit false

namespace Bastion.Compute

open Program
open Json.Shape (model choice_valid required_valid withDefault_valid withDefault_text documentOfText_print)

/-- The rule that a firewall is read back as, if its description or its fields amount to one. -/
def readBack? (firewall : Firewall) : Option Rule :=
  (describedRule? firewall).or (rawRule firewall).toOption

theorem returns_readRule {σ : Type} {handler : Handler signature σ} {firewall : Firewall}
    {before after : σ} {rule : Rule} :
    (readRule firewall).Returns handler before rule after ↔
      readBack? firewall = some rule ∧ before = after := by
  unfold readRule readBack?
  cases described : describedRule? firewall with
  | some found => simp only [returns_pure, Option.some_or, Option.some.injEq]
  | none =>
    refine returns_debug_bind.trans ?_
    cases rawRule firewall with
    | ok found => simp only [returns_pure, Option.none_or, Except.toOption, Option.some.injEq]
    | error error => simp only [returns_fail, Option.none_or, Except.toOption, reduceCtorEq, false_and]

/-- What says what a rule means holds no containers and no numbers. -/
theorem meaning_fits (rule : Rule) (room : Nat) :
    Json.obstacleWithin? (room + 1) (.object rule.meaning) = none := by
  simp [Rule.meaning, Json.obstacle_object]

theorem check_meaning (rule : Rule) :
    Rule.check (.object rule.meaning) = .valid { rule with priority := 1, handle := none } := by
  simp only [Rule.check, model,
    required_valid rule.meaning "direction" rfl
      (choice_valid .notChoice rule.direction.get?_choices),
    withDefault_valid rule.meaning "policy" .accept rfl
      (choice_valid .notLiteral rule.policy.get?_choices),
    withDefault_text rule.meaning "description" rfl,
    withDefault_text rule.meaning "source_cidr_ip" rfl,
    withDefault_text rule.meaning "ipv6_source_cidr_ip" rfl,
    withDefault_text rule.meaning "dest_cidr_ip" rfl,
    withDefault_text rule.meaning "dest_group_id" rfl]
  rfl

theorem describedRule?_of_ruleDescription {firewall : Firewall} {rule : Rule}
    (told : firewall.description = ruleDescription rule) :
    describedRule? firewall =
      some { rule with priority := firewall.priority, handle := some firewall.name } := by
  have checked := documentOfText_print Json.legible_dense 1 (by decide) (meaning_fits rule) Rule.check
  unfold describedRule?
  rw [told, ruleDescription, checked, check_meaning]
  rfl

theorem readBack?_of_ruleDescription {firewall : Firewall} {rule : Rule}
    (told : firewall.description = ruleDescription rule) :
    readBack? firewall =
      some { rule with priority := firewall.priority, handle := some firewall.name } := by
  unfold readBack?
  rw [describedRule?_of_ruleDescription told]
  rfl

theorem readBack?_of_ruleSpec {firewall : Firewall} {tag network : String} {rule : Rule}
    {destinations : List String}
    (made : firewall.toFirewallSpec = ruleSpec tag network rule destinations) :
    readBack? firewall = some { rule with handle := some (ruleName tag rule) } := by
  have told : firewall.description = ruleDescription rule :=
    congrArg FirewallSpec.description made
  have named : firewall.name = ruleName tag rule := congrArg FirewallSpec.name made
  have ranked : firewall.priority = rule.priority := congrArg FirewallSpec.priority made
  rw [readBack?_of_ruleDescription told, named, ranked]

/-- Whatever it is read from, a rule has the name and the priority of the firewall. -/
theorem stamp_of_readBack? {firewall : Firewall} {rule : Rule}
    (read : readBack? firewall = some rule) :
    rule.handle = some firewall.name ∧ rule.priority = firewall.priority := by
  unfold readBack? at read
  cases described : describedRule? firewall with
  | some found =>
    rw [described] at read
    obtain rfl := Option.some.inj read
    unfold describedRule? at described
    obtain ⟨document, _, rfl⟩ := Option.map_eq_some_iff.1 described
    exact ⟨rfl, rfl⟩
  | none =>
    rw [described, Option.none_or] at read
    unfold rawRule at read
    cases directed : Keyed.get? Direction.choices (Text.lowerCase firewall.direction) with
    | none =>
      simp only [directed] at read
      cases read
    | some direction =>
      simp only [directed] at read
      cases read
      exact ⟨rfl, rfl⟩

theorem handle_of_readBack? {firewall : Firewall} {rule : Rule}
    (read : readBack? firewall = some rule) : rule.handle = some firewall.name :=
  (stamp_of_readBack? read).1

theorem readBack?_isSome {firewall : Firewall} {direction : Direction}
    (directed : Text.lowerCase firewall.direction = direction.text) :
    ∃ rule, readBack? firewall = some rule := by
  unfold readBack?
  cases described : describedRule? firewall with
  | some found => exact ⟨found, rfl⟩
  | none =>
    unfold rawRule
    rw [directed]
    cases direction <;> exact ⟨_, rfl⟩

end Bastion.Compute
