import Bastion.Proofs.Inquiries
import Bastion.Proofs.PortText
import Bastion.Proofs.ServiceReconciliation

set_option autoImplicit false

namespace Bastion.Compute

open Program

/-- What a rule leads from and to has a field of its own: each range is given, and is of the version that
it is told for. -/
def EndsInFields (rule : Rule) : Prop :=
  match rule.direction with
  | .ingress =>
    (∀ range ∈ rule.sourceV4, range ≠ "" ∧ isV6Range range = false) ∧
      (∀ range ∈ rule.sourceV6, isV6Range range = true) ∧ rule.destination = none
  | .egress =>
    rule.sourceV4 = none ∧ rule.sourceV6 = none ∧ rule.destination ≠ some "" ∧
      present rule.destinationGroup = none

/-- The fields of its firewall have room for all of the rule but its description. -/
structure FitsFields (rule : Rule) : Prop where
  ports : TwoEnded rule.ports
  ends : EndsInFields rule

/-- Of the ranges that a rule leads from, the first one of each version is the one it was told for. -/
theorem find?_sources {sourceV4 sourceV6 : Option String}
    (older : ∀ range ∈ sourceV4, range ≠ "" ∧ isV6Range range = false)
    (newer : ∀ range ∈ sourceV6, isV6Range range = true) :
    (([present sourceV4, present sourceV6].filterMap id).find? fun range => !isV6Range range) =
        sourceV4 ∧
      ([present sourceV4, present sourceV6].filterMap id).find? isV6Range = sourceV6 := by
  have first : present sourceV4 = sourceV4 := present_eq_self fun empty => (older "" empty).1 rfl
  have second : present sourceV6 = sourceV6 := by
    refine present_eq_self fun empty => ?_
    cases newer "" empty
  rw [first, second]
  cases sourceV4 with
  | none =>
    cases sourceV6 with
    | none => exact ⟨rfl, rfl⟩
    | some range => simp [newer range rfl]
  | some old =>
    cases sourceV6 with
    | none => simp [(older old rfl).2]
    | some range => simp [(older old rfl).2, newer range rfl]

theorem get?_directionWord (direction : Direction) :
    Keyed.get? Direction.choices (Text.lowerCase (directionWord direction)) = some direction := by
  cases direction <;> decide

def Leads (rule : Rule) (destinations : List String) : Prop :=
  match rule.direction, present rule.destinationGroup with
  | .ingress, _ => destinations = []
  | .egress, some _ => True
  | .egress, none => destinations = (present rule.destination).toList

/-- What a firewall that was made for a rule lets through or holds back is the rule's. -/
theorem traffic_ruleSpec (tag network : String) (rule : Rule) (destinations : List String) :
    let spec := ruleSpec tag network rule destinations
    (if spec.allowed.isEmpty then spec.denied else spec.allowed).head? =
        some ⟨rule.protocol, portEntries rule.ports⟩ ∧
      (if spec.allowed.isEmpty then Policy.drop else .accept) = rule.policy := by
  unfold ruleSpec
  cases rule.policy <;> exact ⟨rfl, rfl⟩

section Fields

variable {rule : Rule} (tag network : String) {destinations : List String}

theorem ranges_ruleSpec (ends : EndsInFields rule) (leads : Leads rule destinations) :
    let spec := ruleSpec tag network rule destinations
    (spec.sourceRanges.find? fun range => !isV6Range range) = rule.sourceV4 ∧
      spec.sourceRanges.find? isV6Range = rule.sourceV6 ∧
      spec.destinationRanges.head? = rule.destination := by
  unfold EndsInFields at ends
  unfold Leads at leads
  unfold ruleSpec
  cases directed : rule.direction with
  | ingress =>
    simp only [directed] at ends leads
    obtain ⟨older, newer, nowhere⟩ := ends
    obtain ⟨first, second⟩ := find?_sources older newer
    exact ⟨first, second, by rw [leads, nowhere]; rfl⟩
  | egress =>
    simp only [directed] at ends leads
    obtain ⟨older, newer, given, groupless⟩ := ends
    simp only [groupless, present_eq_self given] at leads
    exact ⟨older.symm, newer.symm, by rw [leads, Option.head?_toList]⟩

theorem rawRule_of_ruleSpec (fits : FitsFields rule) (leads : Leads rule destinations)
    (text : String) (id : Nat) :
    rawRule { ruleSpec tag network rule destinations with description := text, id := id } =
      .ok { rule with
        description := present (some text)
        destinationGroup := none
        handle := some (ruleName tag rule) } := by
  obtain ⟨traffic, policy⟩ := traffic_ruleSpec tag network rule destinations
  obtain ⟨sourceV4, sourceV6, destination⟩ := ranges_ruleSpec tag network fits.ends leads
  have directed : (ruleSpec tag network rule destinations).direction = directionWord rule.direction :=
    rfl
  unfold rawRule
  simp only [directed, get?_directionWord, traffic, policy, sourceV4, sourceV6, destination,
    Option.map_some, Option.getD_some, portRange_portEntries fits.ports]
  rfl

end Fields

theorem readRule_of_ruleDescription {firewall : Firewall} {rule : Rule}
    (told : firewall.description = ruleDescription rule) :
    readRule firewall =
      pure { rule with priority := firewall.priority, handle := some firewall.name } := by
  unfold readRule
  rw [describedRule?_of_ruleDescription told]

def Foreign (text : String) : Prop :=
  (Json.Shape.documentOfText Rule.check text).toOption = none

theorem readRule_of_foreign {firewall : Firewall} {rule : Rule}
    (foreign : Foreign firewall.description) (told : rawRule firewall = .ok rule) :
    readRule firewall = (do
      Program.debug s!"Firewall {firewall.name} has a foreign description"
      return rule) := by
  have undescribed : describedRule? firewall = none := by
    unfold describedRule?
    rw [foreign, Option.map_none]
  unfold readRule
  simp only [undescribed, told]

namespace Account

variable {account : Account} {group : String} {rule : Rule}

/-- Of the firewalls that the call inserts this is said, whatever id they get. -/
def Inserting (said : Firewall → Prop) : Call → Prop
  | .service _ (.insertFirewall spec) => ∀ id, said { spec with id := id }
  | _ => True

theorem inserting_of_steady {said : Firewall → Prop} {op : Call} (steady : Service.Steady op) :
    Inserting said op := by
  cases op with
  | service project asked => cases asked <;> trivial
  | _ => trivial

/-- This is said of every firewall that a rule is made into: of what is asked for, whatever the service
answers, and of what is new there when the rule has been created. -/
structure Builds (account : Account) (group : String) (rule : Rule) (said : Firewall → Prop) :
    Prop where
  asked : (account.createRule group rule).Makes (Inserting said)
  left : ∀ {before after : Service}, before.losesInserts = false →
    (account.createRule group rule).Returns Service.handler before () after →
      ∃ made, after.firewalls = before.firewalls ++ [made] ∧ said made

theorem makes_destinations_bind {α : Type} {allowed : Call → Prop}
    {next : List String → ComputeProgram α} (asks : ∀ {op}, Service.Steady op → allowed op)
    (later : ∀ destinations, Leads rule destinations → (next destinations).Makes allowed) :
    (account.destinations rule >>= next).Makes allowed := by
  unfold Leads at later
  unfold destinations
  cases directed : rule.direction with
  | ingress =>
    simp only [directed] at later ⊢
    exact later [] rfl
  | egress =>
    cases grouped : present rule.destinationGroup with
    | some other =>
      simp only [directed, grouped] at later ⊢
      exact makes_bind ((account.methodical_groupRanges trivial other).steady.mono asks)
        fun ranges => later ranges trivial
    | none =>
      simp only [directed, grouped] at later ⊢
      exact later _ rfl

theorem leads_of_destinationsOf? {service : Service} {destinations : List String}
    (told : destinationsOf? service rule = some destinations) : Leads rule destinations := by
  unfold destinationsOf? at told
  unfold Leads
  cases directed : rule.direction with
  | ingress =>
    simp only [directed, Option.some.injEq] at told ⊢
    exact told.symm
  | egress =>
    cases grouped : present rule.destinationGroup with
    | some other => trivial
    | none =>
      simp only [directed, grouped, Option.some.injEq] at told ⊢
      exact told.symm

/-- A rule is made into the firewall that was thought out for it, and into no other one. -/
theorem builds_of_ruleSpec {said : Firewall → Prop}
    (each : ∀ (anchor : Firewall) destinations id, Leads rule destinations →
      said { ruleSpec anchor.name anchor.network rule destinations with id := id }) :
    account.Builds group rule said where
  asked := by
    refine makes_bind ((account.methodical_anchor False group).steady.mono inserting_of_steady)
      fun anchor => ?_
    refine makes_destinations_bind inserting_of_steady fun destinations leads => ?_
    refine makes_bind (makes_perform (S := signature) ?_) fun _ =>
      makes_perform (S := signature) trivial
    exact fun id => each anchor destinations id leads
  left keeps returned := by
    obtain ⟨anchor, destinations, _, led, _, stocked⟩ := returns_createRule keeps returned
    have leads := leads_of_destinationsOf? led
    exact ⟨_, Service.firewalls_of_stock stocked, each anchor destinations _ leads⟩

/-- The firewall that `_insert_rule` makes for a rule is read back by `_rule_from_firewall` as the rule,
under the firewall's name. -/
theorem created_rule_read_back (account : Account) (group : String) (rule : Rule) :
    account.Builds group rule fun made =>
      readRule made = pure { rule with handle := some made.name } ∧
        ({ rule with handle := some made.name } : Rule).key = rule.key := by
  refine builds_of_ruleSpec fun anchor destinations id _ => ⟨?_, rfl⟩
  exact readRule_of_ruleDescription rfl

/-- What holds of a firewall that a rule is made into holds of the one that is new at the office, where
its name is free. -/
theorem Builds.office {rule : Rule} {said : Firewall → Prop}
    (builds : officeAccount.Builds officeGroup rule said) (destinations : List String)
    (led : destinationsOf? (officeService []) rule = some destinations)
    (free : (officeService []).firewall? (ruleName officeAnchor.name rule) = none) :
    ∃ after made, (officeAccount.createRule officeGroup rule).Returns Service.handler
        (officeService []) () after ∧
      after.firewalls = (officeService []).firewalls ++ [made] ∧ said made := by
  obtain ⟨after, returned⟩ :=
    createRule_of_faultless officeAccount (office_faultless []) (office_held []) led free
  obtain ⟨made, new, holds⟩ := builds.left rfl returned
  exact ⟨after, made, returned, new, holds⟩

/-- No way out to the workload, told in a text of quotes, strokes, controls and far characters. -/
def officeBarrier : Rule where
  direction := .egress
  description := some "\"no\" \\ way\n\t\x00\x7f out: ü😀"
  protocol := "udp"
  ports := "1/1024"
  sourceV4 := some ""
  sourceV6 := none
  destination := some "nowhere"
  destinationGroup := some (groupOf officeWorkload).id
  policy := .drop
  priority := -7
  handle := some "barrier"

theorem created_rule_read_back_office : ∃ after made,
    (officeAccount.createRule officeGroup officeBarrier).Returns Service.handler (officeService [])
      () after ∧
    after.firewalls = (officeService []).firewalls ++ [made] ∧
    readRule made = pure { officeBarrier with handle := some made.name } ∧
      ({ officeBarrier with handle := some made.name } : Rule).key = officeBarrier.key :=
  (created_rule_read_back officeAccount officeGroup officeBarrier).office
    ["10.0.0.0/16"] (by decide) (by decide +kernel)

/-- Whatever takes the place of the description and is no rule itself, `_rule_from_firewall` reads back
all but the description of a rule that the fields have room for. -/
theorem created_fields_tell_rule (account : Account) (group : String) {rule : Rule}
    (fits : FitsFields rule) :
    account.Builds group rule fun made => ∀ text, Foreign text →
      readRule { made with description := text } = (do
        Program.debug s!"Firewall {made.name} has a foreign description"
        return { rule with
          description := present (some text)
          destinationGroup := none
          handle := some made.name }) := by
  refine builds_of_ruleSpec fun anchor destinations id leads text foreign => ?_
  exact readRule_of_foreign foreign (rawRule_of_ruleSpec anchor.name anchor.network fits leads text id)

/-- Two blocks, one of each version, that a range of ports is closed to. -/
def officeBlockade : Rule where
  direction := .ingress
  description := some "no web"
  protocol := "tcp"
  ports := "80/443"
  sourceV4 := some "198.51.100.0/24"
  sourceV6 := some "2001:db8::/32"
  destination := none
  destinationGroup := none
  policy := .drop
  priority := 1000
  handle := none

theorem created_fields_tell_rule_office : ∃ after made,
    (officeAccount.createRule officeGroup officeBlockade).Returns Service.handler (officeService [])
      () after ∧
    after.firewalls = (officeService []).firewalls ++ [made] ∧
    Foreign "edited by hand" ∧
    readRule { made with description := "edited by hand" } = (do
      Program.debug s!"Firewall {made.name} has a foreign description"
      return { officeBlockade with
        description := some "edited by hand"
        handle := some made.name }) := by
  have ports : TwoEnded officeBlockade.ports :=
    .inr ⟨"80".toList, "443".toList, by decide, by decide, by decide, rfl⟩
  have fits : FitsFields officeBlockade := ⟨ports, by decide, by decide, rfl⟩
  have foreign : Foreign "edited by hand" := rfl
  obtain ⟨after, made, returned, new, told⟩ :=
    (created_fields_tell_rule officeAccount officeGroup fits).office [] (by decide)
      (by decide +kernel)
  exact ⟨after, made, returned, new, foreign, told "edited by hand" foreign⟩

end Account

end Bastion.Compute
