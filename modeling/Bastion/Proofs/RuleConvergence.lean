import Bastion.Proofs.MemoryKeeper

set_option autoImplicit false

namespace Bastion.Pass

open Program

variable {σ : Type} {handler : Handler signature σ} {group : String} {admitted : σ → Prop}
  {view : σ → RuleStore} {first before after : σ}

theorem Keeps.sound_run (keeps : Keeps handler group admitted view)
    (atomic : Atomic handler group admitted view) (request : Request) (fits : admitted before)
    (sound : (view before).Sound) :
    (view ((reconcileRules request group).run handler before).state).Sound := by
  rw [reconcileRules_eq]
  refine run_bind_ends (fun now => (view now).Sound)
    (keeps.sound_settle atomic (Rule.wantedIngress_directed _) fits sound) ?_
  rintro ⟨⟩ settled ingress
  replace sound := (keeps.settles_of_settle (Rule.wantedIngress_directed _) fits sound ingress).sound
  replace fits := keeps.admitted_of_returns (makes_settle _ _ _) fits ingress
  apply keeps.reads_then atomic RuleStore.Sound (makes_workloadGroup group _) fits sound
  intro workload found _ fits same
  rw [← same] at sound
  apply keeps.reads_then atomic RuleStore.Sound (makes_privateAddress group _) fits sound
  intro address located _ fits same
  rw [← same] at sound
  exact keeps.sound_settle atomic (Rule.wantedEgress_directed _ _) fits sound

/-- Runs on one group, each by a cloud that keeps its rules and may fail at any call. What is no rule of
the group may change between them. -/
inductive History (group : String) (admitted : σ → Prop) (view : σ → RuleStore) : σ → σ → Prop
  | start {state : σ} : History group admitted view state state
  | run {first last : σ} {handler : Handler signature σ}
      (earlier : History group admitted view first last)
      (keeps : Keeps handler group admitted view) (atomic : Atomic handler group admitted view)
      (request : Request) :
      History group admitted view first ((reconcileRules request group).run handler last).state
  | elsewhere {first last next : σ} (earlier : History group admitted view first last)
      (fits : admitted next) (same : view next = view last) :
      History group admitted view first next

theorem History.sound (history : History group admitted view first before) (fits : admitted first)
    (sound : (view first).Sound) : admitted before ∧ (view before).Sound := by
  induction history with
  | start => exact ⟨fits, sound⟩
  | run _ keeps atomic request ih =>
    obtain ⟨fitting, soundLast⟩ := ih
    exact ⟨keeps.admitted_run (makes_reconcileRules request group) fitting,
      keeps.sound_run atomic request fitting soundLast⟩
  | elsewhere _ fitting same ih => exact ⟨fitting, same ▸ ih.2⟩

theorem Finds.directory_of_returns {directory : σ → Directory}
    (finds : Finds handler group admitted directory) (keeps : Keeps handler group admitted view)
    {α : Type} {program : PassProgram α} {value : α}
    (made : program.Makes (OnCloud (RuleCall group))) (fits : admitted before)
    (returned : program.Returns handler before value after) : directory after = directory before := by
  rw [← (outcome_of_returns returned).2]
  refine (run_preserves (fun now => admitted now ∧ directory now = directory before) ?_ made
    ⟨fits, rfl⟩).2
  rintro op now ⟨call, ofRules, rfl⟩ ⟨fitting, same⟩
  exact ⟨keeps.admits ofRules fitting, (finds.steady ofRules fitting).trans same⟩

/-- What reads leaves an admitted state with the rules and the names that were there. -/
theorem Finds.carries {directory : σ → Directory}
    (finds : Finds handler group admitted directory) (keeps : Keeps handler group admitted view)
    (atomic : Atomic handler group admitted view) {α : Type} {program : PassProgram α} {value : α}
    (made : program.Makes (OnCloud (Reads group))) (fits : admitted before)
    (returned : program.Returns handler before value after) :
    admitted after ∧ view after = view before ∧ directory after = directory before := by
  have ofRules := made.mono onCloud_of_reads
  refine ⟨keeps.admitted_of_returns ofRules fits returned, ?_,
    finds.directory_of_returns keeps ofRules fits returned⟩
  rw [← (outcome_of_returns returned).2]
  exact keeps.view_of_reads atomic made fits

theorem quiet_workloadGroup {directory : σ → Directory}
    (finds : Finds handler group admitted directory) (fits : admitted before) {name : String}
    {workload : Cloud.Group} (present : (directory before).groups name = some workload)
    (quiet : (workloadGroup name).Quiet handler before) :
    ∃ after, (workloadGroup name).Returns handler before workload after := by
  obtain ⟨answer, found⟩ := returns_of_quiet_call (quiet_bind.1 quiet).1
  obtain rfl := (finds.groups fits (returns_during.1 found)).trans present
  exact ⟨_, found.bind (returns_done _ _)⟩

theorem quiet_privateAddress {directory : σ → Directory}
    (finds : Finds handler group admitted directory) (fits : admitted before)
    {name address : String}
    (present : ((directory before).instances name).bind Cloud.Instance.privateAddress =
      some address)
    (quiet : (privateAddress name).Quiet handler before) :
    ∃ after, (privateAddress name).Returns handler before address after := by
  obtain ⟨answer, found⟩ := returns_of_quiet_call (quiet_bind.1 quiet).1
  obtain rfl := finds.instances fits (returns_during.1 found)
  refine ⟨(handler (.other (.lookupInstance name)) before).state, found.bind ?_⟩
  rw [present]
  exact returns_done _ _

/-- Whatever was done to the rules before, a run of `reconcile_security_group_rules` in which no call
fails returns, and leaves the wanted keys in each direction and no others. -/
theorem rules_converge {directory : σ → Directory} (keeps : Keeps handler group admitted view)
    (atomic : Atomic handler group admitted view)
    (finds : Finds handler group admitted directory) (fits : admitted first)
    (sound : (view first).Sound) (history : History group admitted view first before)
    (request : Request) {workload : Cloud.Group} {address : String}
    (groupPresent :
      (directory before).groups request.options.workloadGroupName = some workload)
    (instancePresent :
      ((directory before).instances request.options.instanceName).bind
        Cloud.Instance.privateAddress = some address)
    (quiet : (reconcileRules request group).Quiet handler before) :
    ((reconcileRules request group).run handler before).result = .ok () ∧
      Rule.keySet ((view ((reconcileRules request group).run handler before).state).rules
        .ingress) = Rule.keySet (Rule.wantedIngress request.ingress) ∧
      Rule.keySet ((view ((reconcileRules request group).run handler before).state).rules
        .egress) = Rule.keySet (Rule.wantedEgress (some address) (some workload.id)) := by
  obtain ⟨fits₀, sound₀⟩ := history.sound fits sound
  rw [reconcileRules_eq] at quiet
  obtain ⟨quiet₁, quiet⟩ := quiet_bind.1 quiet
  obtain ⟨settled, ingress⟩ := keeps.quiet_settle fits₀ quiet₁
  have settles := keeps.settles_of_settle (Rule.wantedIngress_directed _) fits₀ sound₀ ingress
  have fits₁ := keeps.admitted_of_returns (makes_settle _ _ _) fits₀ ingress
  have names₁ := finds.directory_of_returns keeps (makes_settle _ _ _) fits₀ ingress
  rw [← names₁] at groupPresent instancePresent
  obtain ⟨quiet₂, quiet⟩ := quiet_bind.1 (quiet _ _ ingress)
  obtain ⟨found, grouped⟩ := quiet_workloadGroup finds fits₁ groupPresent quiet₂
  obtain ⟨fits₂, _, names₂⟩ :=
    finds.carries keeps atomic (makes_workloadGroup group _) fits₁ grouped
  rw [← names₂] at instancePresent
  obtain ⟨quiet₃, quiet⟩ := quiet_bind.1 (quiet _ _ grouped)
  obtain ⟨located, addressed⟩ := quiet_privateAddress finds fits₂ instancePresent quiet₃
  obtain ⟨fits₃, _, _⟩ :=
    finds.carries keeps atomic (makes_privateAddress group _) fits₂ addressed
  obtain ⟨after, egress⟩ := keeps.quiet_settle fits₃ (quiet _ _ addressed)
  obtain ⟨success, left⟩ := outcome_of_returns (returns_reconcileRules.2
    ⟨settled, workload, found, address, located, ingress, grouped, addressed, egress⟩)
  rw [left]
  exact ⟨success, keeps.keySets_of_returns fits₀ sound₀ ingress grouped addressed egress⟩

/-- The addresses of an office, from which a bastion is reached. -/
def officeBlock : Cidr := .v4 ⟨0xCB007100, 24, by decide, by decide, by decide⟩

def annexBlock : Cidr := .v4 ⟨0xC6336400, 24, by decide, by decide, by decide⟩

def officeRequest : Request where
  bastionName := "bastion-1"
  options := ⟨"region-1", "bastion-1", "bastion-1", "shoot-sg", "shoot-vpc", some "img-1", ""⟩
  cluster := ⟨[], []⟩
  ingress := [officeBlock]

/-- SSH from the office, let in or not, as a provider holds it. -/
def officeRule (policy : Policy) : Rule :=
  { Rule.allowSsh officeBlock with policy := policy, handle := some "rule-0" }

/-- A site with a running bastion, whose group has these rules and whose cloud follows the script. -/
def officeSite (script : Cloud.Script) (rules : List Rule) : Site Cloud.Memory where
  world :=
    { Cloud.Memory.empty with
      script := script
      groups := [("shoot-sg", ⟨"sg-shoot", "shoot-sg", none⟩)]
      instances := [("bastion-1", ⟨"i-1", "bastion-1", .running, ["10.0.0.5"], none⟩)]
      rules := [("sg-1", rules)] }
  disk := .ofTree .empty
  statusPath := .ofString "status.json"
  writerFaults := []

theorem officeSite_sound {script : Cloud.Script} {rule : Rule}
    (held : (Cloud.Memory.storeAt "sg-1" (officeSite script [rule])).handles =
      [some (Cloud.Memory.handleOf 0)]) :
    (Cloud.Memory.storeAt "sg-1" (officeSite script [rule])).Sound := by
  refine ⟨?_, ?_, ?_⟩ <;> rw [held]
  · decide
  · exact List.nodup_singleton _
  · rintro handle ⟨number, later, rfl⟩ member
    have first : number = 0 :=
      Cloud.Memory.handleOf_injective (Option.some.inj (List.mem_singleton.1 member))
    subst first
    exact absurd later (Nat.not_lt_zero _)

/-- A script by which the first rule to let someone in cannot be created. -/
def refusingScript : Cloud.Script :=
  Cloud.Script.empty.set (.createRule .ingress) [some (.error (.foreign .runtime "exploded"))]

/-- A group that lets everyone in, before a run that cannot create the wanted rule. -/
def openSite : Site Cloud.Memory :=
  officeSite refusingScript [{ Rule.allowSsh Cidr.anyV4 with handle := some "rule-0" }]

def refusedRun : Run signature (Site Cloud.Memory) Unit :=
  (reconcileRules officeRequest "sg-1").run (Site.handler Cloud.Memory.handler) openSite

/-- What that run left, where calls are answered again. -/
def mendedSite : Site Cloud.Memory :=
  { refusedRun.state with world := { refusedRun.state.world with script := .empty } }

theorem rules_converge_after_refusal :
    (∃ failure, refusedRun.result = .error failure) ∧
      ((reconcileRules officeRequest "sg-1").run (Site.handler Cloud.Memory.handler)
        mendedSite).result = .ok () ∧
      Rule.keySet ((Cloud.Memory.storeAt "sg-1" ((reconcileRules officeRequest "sg-1").run
        (Site.handler Cloud.Memory.handler) mendedSite).state).rules .ingress) =
          Rule.keySet (Rule.wantedIngress [officeBlock]) ∧
      Rule.keySet ((Cloud.Memory.storeAt "sg-1" ((reconcileRules officeRequest "sg-1").run
        (Site.handler Cloud.Memory.handler) mendedSite).state).rules .egress) =
          Rule.keySet (Rule.wantedEgress (some "10.0.0.5") (some "sg-shoot")) := by
  have scripted : Cloud.Memory.Scripted openSite :=
    Cloud.onlyFails_empty.set fun value member => by
      cases List.mem_singleton.1 member
  have history : History "sg-1" Cloud.Memory.Scripted (Cloud.Memory.storeAt "sg-1")
      openSite mendedSite :=
    .elsewhere (.run .start (Cloud.Memory.keeps "sg-1") (Cloud.Memory.atomic "sg-1")
      officeRequest) Cloud.onlyFails_empty rfl
  have present : (Cloud.Memory.directoryAt mendedSite).groups "shoot-sg" =
    some ⟨"sg-shoot", "shoot-sg", none⟩ := rfl
  have quiet : (reconcileRules officeRequest "sg-1").Quiet (Site.handler Cloud.Memory.handler)
      mendedSite :=
    Cloud.Memory.quiet_of_unscripted (fun _ => rfl) (makes_reconcileRules officeRequest "sg-1")
  constructor
  · exact ⟨_, rfl⟩
  · exact rules_converge (Cloud.Memory.keeps "sg-1") (Cloud.Memory.atomic "sg-1")
      (Cloud.Memory.finds "sg-1") scripted (officeSite_sound rfl) history officeRequest present rfl
      quiet

/-- What a quiet run leaves of the ingress rules, even where it stops for want of the workload group. -/
theorem Keeps.ingress_of_quiet (keeps : Keeps handler group admitted view)
    (atomic : Atomic handler group admitted view) (fits : admitted before)
    (sound : (view before).Sound) (request : Request)
    (quiet : (reconcileRules request group).Quiet handler before) :
    ∃ settled, (view before).Settles .ingress (Rule.wantedIngress request.ingress) settled ∧
      (view ((reconcileRules request group).run handler before).state).rules .ingress =
        settled.rules .ingress := by
  rw [reconcileRules_eq] at quiet
  obtain ⟨quiet₁, quiet⟩ := quiet_bind.1 quiet
  obtain ⟨settled, ingress⟩ := keeps.quiet_settle fits quiet₁
  have settles := keeps.settles_of_settle (Rule.wantedIngress_directed _) fits sound ingress
  have fits₁ := keeps.admitted_of_returns (makes_settle _ _ _) fits ingress
  replace quiet := quiet _ _ ingress
  refine ⟨view settled, settles, ?_⟩
  change (view ((reconcileRules request group).run handler before).outcome.2).rules .ingress = _
  rw [reconcileRules_eq, outcome_bind_of_returns ingress]
  let held (store : RuleStore) : Prop := store.rules .ingress = (view settled).rules .ingress
  apply keeps.reads_then atomic held (makes_workloadGroup group _) fits₁ rfl
  intro workload found grouped fits₂ same₂
  replace quiet := (quiet_bind.1 quiet).2 _ _ grouped
  apply keeps.reads_then atomic held (makes_privateAddress group _) fits₂ (same₂ ▸ rfl)
  intro address located addressed fits₃ same₃
  obtain ⟨after, egress⟩ := keeps.quiet_settle fits₃ ((quiet_bind.1 quiet).2 _ _ addressed)
  have unchanged := same₃.trans same₂
  have settlesAfter := keeps.settles_of_settle (Rule.wantedEgress_directed _ _) fits₃
    (unchanged ▸ settles.sound) egress
  change (view (Program.run handler _ located).state).rules .ingress = _
  rw [(outcome_of_returns egress).2, settlesAfter.frame .ingress (by decide), unchanged]

/-- The rule lets in what the wanted rule does. -/
def Grants (rule wanted : Rule) : Prop :=
  rule.protocol = wanted.protocol ∧ rule.ports = wanted.ports ∧
    rule.sourceV4 = wanted.sourceV4 ∧ rule.sourceV6 = wanted.sourceV6 ∧ rule.policy = .accept

theorem grants_of_key_eq {rule wanted : Rule} (same : rule.key = wanted.key)
    (accepts : rule.policy = .accept) : Grants rule wanted :=
  ⟨congrArg Rule.Key.protocol same, congrArg Rule.Key.ports same,
    congrArg Rule.Key.sourceV4 same, congrArg Rule.Key.sourceV6 same, accepts⟩

theorem key_eq_of_grants {sources : List Cidr} {rule wanted : Rule}
    (member : wanted ∈ Rule.wantedIngress sources)
    (held : rule.key ∈ Rule.keySet (Rule.wantedIngress sources)) (grants : Grants rule wanted) :
    rule.key = wanted.key := by
  obtain ⟨source, _, rfl⟩ := List.mem_map.1 member
  obtain ⟨other, inside, same⟩ := Rule.mem_keySet.1 held
  obtain ⟨block, _, rfl⟩ := List.mem_map.1 inside
  obtain ⟨_, _, sourceV4, sourceV6, _⟩ := grants
  rw [← show _ = rule.sourceV4 from congrArg Rule.Key.sourceV4 same] at sourceV4
  rw [← show _ = rule.sourceV6 from congrArg Rule.Key.sourceV6 same] at sourceV6
  rw [← same]
  simp only [Rule.key, Rule.allowSsh] at sourceV4 sourceV6 ⊢
  rw [sourceV4, sourceV6]

theorem wantedIngress_accept (sources : List Cidr) :
    ∀ rule ∈ Rule.wantedIngress sources, rule.policy = .accept := by
  intro rule member
  obtain ⟨source, _, rfl⟩ := List.mem_map.1 member
  rfl

/-- A wanted ingress rule is granted after a diff, unless rules of its key stood there before and all of
them drop what it lets in. -/
theorem granted_of_settles {before after : RuleStore} {sources : List Cidr}
    (settles : before.Settles .ingress (Rule.wantedIngress sources) after) {wanted : Rule}
    (member : wanted ∈ Rule.wantedIngress sources) :
    (∃ rule ∈ after.rules .ingress, Grants rule wanted) ↔
      ((∃ rule ∈ before.rules .ingress, rule.key = wanted.key) →
        ∃ rule ∈ before.rules .ingress, rule.key = wanted.key ∧ rule.policy = .accept) := by
  obtain ⟨copies, copied, rules⟩ := settles.settled
  constructor
  · rintro ⟨rule, inside, grants⟩ ⟨former, stood, sameFormer⟩
    have same := key_eq_of_grants member
      (settles.keySet ▸ Rule.mem_keySet.2 ⟨rule, inside, rfl⟩) grants
    rw [rules, List.mem_append] at inside
    rcases inside with kept | copy
    · exact ⟨rule, (Rule.mem_kept.1 kept).1, same, grants.2.2.2.2⟩
    · have added : rule.key ∈ Rule.keySet (Rule.diff (Rule.wantedIngress sources)
          (before.rules .ingress)).added := by
        rw [← RuleStore.keySet_copies copied]
        exact Rule.mem_keySet.2 ⟨rule, copy, rfl⟩
      rw [Rule.keySet_added] at added
      exact absurd (Rule.mem_keySet.2 ⟨former, stood, sameFormer.trans same.symm⟩) added.2
  · intro unlessDropped
    by_cases stood : ∃ rule ∈ before.rules .ingress, rule.key = wanted.key
    · obtain ⟨rule, inside, same, accepts⟩ := unlessDropped stood
      have kept : rule ∈ Rule.kept (Rule.wantedIngress sources) (before.rules .ingress) :=
        Rule.mem_kept.2 ⟨inside, Rule.mem_keySet.2 ⟨wanted, member, same.symm⟩⟩
      exact ⟨rule, rules ▸ List.mem_append_left copies kept, grants_of_key_eq same accepts⟩
    · have added : wanted.key ∈ Rule.keySet (Rule.diff (Rule.wantedIngress sources)
          (before.rules .ingress)).added := by
        rw [Rule.keySet_added]
        exact ⟨Rule.mem_keySet.2 ⟨wanted, member, rfl⟩, fun held => stood (Rule.mem_keySet.1 held)⟩
      obtain ⟨rule, inside, same⟩ := Rule.mem_keySet.1 added
      obtain ⟨copy, copyMember, handle, _, rfl⟩ := RuleStore.copy_of_mem copied inside
      have accepts := wantedIngress_accept sources rule (Rule.mem_of_mem_added inside).1
      refine ⟨{ rule with handle := some handle }, ?_, grants_of_key_eq same accepts⟩
      rw [rules]
      exact List.mem_append_right _ copyMember

/-- After a run of `reconcile_security_group_rules` in which no call fails, every wanted ingress rule has
a rule of its key. One lets in what the wanted rule does, unless rules of its key stood there before and
all of them were to drop it. -/
theorem wanted_ingress_granted_iff (keeps : Keeps handler group admitted view)
    (atomic : Atomic handler group admitted view) (fits : admitted before)
    (sound : (view before).Sound) (request : Request)
    (quiet : (reconcileRules request group).Quiet handler before) :
    ∀ wanted ∈ Rule.wantedIngress request.ingress,
      (∃ rule ∈ (view ((reconcileRules request group).run handler before).state).rules .ingress,
        rule.key = wanted.key) ∧
      ((∃ rule ∈ (view ((reconcileRules request group).run handler before).state).rules .ingress,
          Grants rule wanted) ↔
        ((∃ rule ∈ (view before).rules .ingress, rule.key = wanted.key) →
          ∃ rule ∈ (view before).rules .ingress,
            rule.key = wanted.key ∧ rule.policy = .accept)) := by
  intro wanted member
  obtain ⟨settled, settles, left⟩ := keeps.ingress_of_quiet atomic fits sound request quiet
  rw [left]
  refine ⟨?_, granted_of_settles settles member⟩
  have held : wanted.key ∈ Rule.keySet (settled.rules .ingress) := by
    rw [settles.keySet]
    exact Rule.mem_keySet.2 ⟨wanted, member, rfl⟩
  exact Rule.mem_keySet.1 held

instance (rule wanted : Rule) : Decidable (Grants rule wanted) :=
  inferInstanceAs (Decidable (_ ∧ _))

theorem officeRule_sound (policy : Policy) :
    (Cloud.Memory.storeAt "sg-1" (officeSite .empty [officeRule policy])).Sound := by
  apply officeSite_sound
  cases policy <;> rfl

theorem quiet_officeSite (rules : List Rule) :
    (reconcileRules officeRequest "sg-1").Quiet (Site.handler Cloud.Memory.handler)
      (officeSite .empty rules) :=
  Cloud.Memory.quiet_of_unscripted (fun _ => rfl) (makes_reconcileRules officeRequest "sg-1")

/-- The rules that let someone in after a run on a group with these rules. -/
def ingressLeft (rules : List Rule) : List Rule :=
  (Cloud.Memory.storeAt "sg-1" ((reconcileRules officeRequest "sg-1").run
    (Site.handler Cloud.Memory.handler) (officeSite .empty rules)).state).rules .ingress

theorem wanted_ingress_granted_office :
    (∃ rule ∈ ingressLeft [officeRule .accept], rule.key = (Rule.allowSsh officeBlock).key) ∧
      ∃ rule ∈ ingressLeft [officeRule .accept], Grants rule (Rule.allowSsh officeBlock) := by
  have scripted : Cloud.Memory.Scripted (officeSite .empty [officeRule .accept]) :=
    Cloud.onlyFails_empty
  have wanted : Rule.allowSsh officeBlock ∈ Rule.wantedIngress officeRequest.ingress :=
    List.mem_singleton_self _
  obtain ⟨held, granted⟩ := wanted_ingress_granted_iff (Cloud.Memory.keeps "sg-1")
    (Cloud.Memory.atomic "sg-1") scripted (officeRule_sound .accept) officeRequest
    (quiet_officeSite _) _ wanted
  exact ⟨held, granted.2 fun _ => ⟨officeRule .accept, List.mem_singleton_self _, rfl, rfl⟩⟩

/-- A rule that drops what the wanted one lets in has its key, and so is taken for it. -/
theorem wanted_ingress_dropped :
    (Cloud.Memory.storeAt "sg-1" (officeSite .empty [officeRule .drop])).Sound ∧
      (reconcileRules officeRequest "sg-1").Quiet (Site.handler Cloud.Memory.handler)
        (officeSite .empty [officeRule .drop]) ∧
      ¬∀ wanted ∈ Rule.wantedIngress officeRequest.ingress,
        ∃ rule ∈ ingressLeft [officeRule .drop], Grants rule wanted := by
  refine ⟨officeRule_sound .drop, quiet_officeSite _, ?_⟩
  decide

end Bastion.Pass
