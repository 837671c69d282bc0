import Bastion.Proofs.FailStop
import Bastion.Proofs.MemoryKeeper
import Bastion.Proofs.Proceedings

set_option autoImplicit false

/- Rules changed one by one, and cut short anywhere. At every moment the wanted rules that were stored
still are, and nothing is revoked before everything wanted is stored. Where a call fails, what was done
before it is done, and nothing else. -/
namespace Bastion

namespace RuleStore

variable {origin now after : RuleStore} {direction : Direction} {wanted : List Rule} {rule : Rule}

/-- What the way to the wanted rules of a direction leaves alone. -/
structure Safe (origin : RuleStore) (direction : Direction) (wanted : List Rule)
    (now : RuleStore) : Prop where
  kept : ∀ rule ∈ origin.rules direction, rule.key ∈ Rule.keySet wanted →
    rule ∈ now.rules direction
  frame : ∀ other, other ≠ direction → now.rules other = origin.rules other
  keys : Rule.keySet (now.rules direction) ⊆
    Rule.keySet (origin.rules direction) ∪ Rule.keySet wanted
  sound : now.Sound

/-- A rule is stored for every key that is wanted. -/
def Covers (store : RuleStore) (direction : Direction) (wanted : List Rule) : Prop :=
  Rule.keySet wanted ⊆ Rule.keySet (store.rules direction)

theorem Sound.safe (sound : origin.Sound) : origin.Safe direction wanted origin where
  kept := fun _ inside _ => inside
  frame := fun _ _ => rfl
  keys := Set.subset_union_left
  sound := sound

theorem Safe.create (safe : origin.Safe direction wanted now) (created : now.Creates rule after)
    (directed : rule.direction = direction) (wantedKey : rule.key ∈ Rule.keySet wanted) :
    origin.Safe direction wanted after := by
  have sound := safe.sound.create created
  obtain ⟨handle, _, filed, _⟩ := created
  have here : after.rules direction = now.rules direction ++ [{ rule with handle := some handle }] := by
    rw [filed]
    simp [RuleStore.filed, directed]
  constructor
  case kept =>
    intro stored inside key
    rw [here]
    exact List.mem_append_left _ (safe.kept stored inside key)
  case frame =>
    intro other different
    rw [filed, ← safe.frame other different]
    simp [RuleStore.filed, directed, different]
  case keys =>
    intro key member
    obtain ⟨stored, inside, rfl⟩ := Rule.mem_keySet.1 member
    rw [here, List.mem_append, List.mem_singleton] at inside
    rcases inside with former | rfl
    · exact safe.keys (Rule.mem_keySet.2 ⟨stored, former, rfl⟩)
    · exact .inr wantedKey
  case sound => exact sound

theorem mem_revoked (sound : now.Sound) (revoked : now.Revokes rule after)
    (stored : rule ∈ now.rules direction) {side : Direction} {other : Rule} :
    other ∈ after.rules side ↔ other ∈ now.rules side ∧ other ≠ rule := by
  rw [revoked.rules, List.mem_filter, decide_eq_true_iff]
  apply and_congr_right
  intro inside
  constructor
  · intro apart same
    rw [same] at apart
    exact apart rfl
  · intro different same
    exact different (sound.eq_of_handle_eq inside stored same).2

theorem Safe.revoke (safe : origin.Safe direction wanted now) (revoked : now.Revokes rule after)
    (stored : rule ∈ now.rules direction) (unwanted : rule.key ∉ Rule.keySet wanted) :
    origin.Safe direction wanted after := by
  constructor
  case kept =>
    intro other inside key
    rw [mem_revoked safe.sound revoked stored]
    constructor
    · exact safe.kept other inside key
    · rintro rfl
      exact unwanted key
  case frame =>
    intro side different
    rw [revoked.rules, ← safe.frame side different]
    apply List.filter_eq_self.2
    intro other inside
    apply decide_eq_true
    intro same
    exact different (safe.sound.eq_of_handle_eq inside stored same).1
  case keys =>
    intro key member
    obtain ⟨other, inside, rfl⟩ := Rule.mem_keySet.1 member
    rw [mem_revoked safe.sound revoked stored] at inside
    exact safe.keys (Rule.mem_keySet.2 ⟨other, inside.1, rfl⟩)
  case sound => exact safe.sound.revoke revoked

theorem Covers.revoke (covers : now.Covers direction wanted) (sound : now.Sound)
    (revoked : now.Revokes rule after) (stored : rule ∈ now.rules direction)
    (unwanted : rule.key ∉ Rule.keySet wanted) : after.Covers direction wanted := by
  intro key member
  obtain ⟨other, inside, same⟩ := Rule.mem_keySet.1 (covers member)
  refine Rule.mem_keySet.2 ⟨other, ?_, same⟩
  rw [mem_revoked sound revoked stored]
  constructor
  · exact inside
  · rintro rfl
    rw [same] at unwanted
    exact unwanted member

end RuleStore

namespace Cloud.Memory

/-- The memory when it has carried out these calls itself, one after the other. -/
def after (memory : Memory) (calls : List Call) : Memory :=
  calls.foldl (fun memory call => (memory.carryOut call).2) memory

theorem carryOut_withScript (memory : Memory) (script : Script) (call : Call) :
    ({ memory with script := script }.carryOut call).2 =
      { (memory.carryOut call).2 with script := script } := by
  cases call <;> rfl

theorem after_withScript (memory : Memory) (script : Script) (calls : List Call) :
    { memory with script := script }.after calls =
      { memory.after calls with script := script } := by
  induction calls generalizing memory with
  | nil => rfl
  | cons call rest ih =>
    change after ({ memory with script := script }.carryOut call).2 rest = _
    rw [carryOut_withScript, ih]
    rfl

end Cloud.Memory

namespace Pass

open Program

def Revoking : signature.Op → Prop
  | .other (.revokeRule ..) => True
  | _ => False

variable {σ : Type} {handler : Handler signature σ} {group : String} {admitted : σ → Prop}
  {view : σ → RuleStore} {before : σ} {origin : RuleStore} {direction : Direction}
  {wanted rules : List Rule}

theorem Keeps.safe_addRules (keeps : Keeps handler group admitted view)
    (atomic : Atomic handler group admitted view)
    (directed : ∀ rule ∈ rules, rule.direction = direction)
    (wantedKeys : ∀ rule ∈ rules, rule.key ∈ Rule.keySet wanted) (fits : admitted before)
    (safe : origin.Safe direction wanted (view before)) :
    (addRules direction group rules).Throughout handler
      (fun now => origin.Safe direction wanted (view now)) before := by
  induction rules generalizing before with
  | nil => exact safe
  | cons rule rest ih =>
    rw [addRules_cons]
    apply proceeds_call.2
    constructor
    · exact safe
    cases answered : (handler (.other (.createRule direction group rule)) before).answer with
    | error failure =>
      rw [← atomic (.create direction rule) fits answered] at safe
      exact safe
    | ok answer =>
      have creates := keeps.creates fits (returns_perform.2 ⟨answered, rfl⟩)
      apply ih
      · intro other inside
        exact directed other (List.mem_cons_of_mem rule inside)
      · intro other inside
        exact wantedKeys other (List.mem_cons_of_mem rule inside)
      · exact keeps.admits (.create direction rule) fits
      · exact safe.create creates (directed rule List.mem_cons_self)
          (wantedKeys rule List.mem_cons_self)

theorem Keeps.safe_revokeRules (keeps : Keeps handler group admitted view)
    (atomic : Atomic handler group admitted view)
    (stored : ∀ rule ∈ rules, rule ∈ (view before).rules direction)
    (unwanted : ∀ rule ∈ rules, rule.key ∉ Rule.keySet wanted)
    (distinct : (rules.map Rule.handle).Nodup) (fits : admitted before)
    (safe : origin.Safe direction wanted (view before))
    (covers : (view before).Covers direction wanted) :
    (revokeRules direction group rules).Throughout handler
      (fun now => origin.Safe direction wanted (view now) ∧ (view now).Covers direction wanted)
      before := by
  induction rules generalizing before with
  | nil => exact ⟨safe, covers⟩
  | cons rule rest ih =>
    rw [revokeRules_cons]
    apply proceeds_call.2
    constructor
    · exact ⟨safe, covers⟩
    cases answered : (handler (.other (.revokeRule direction group rule)) before).answer with
    | error failure =>
      rw [← atomic (.revoke direction rule) fits answered] at safe covers
      exact ⟨safe, covers⟩
    | ok answer =>
      have here := stored rule List.mem_cons_self
      have apart := unwanted rule List.mem_cons_self
      have revokes := keeps.revokes fits (RuleStore.handle_mem_handles direction here)
        (returns_perform.2 ⟨answered, rfl⟩)
      rw [List.map_cons, List.nodup_cons] at distinct
      apply ih
      · intro other inside
        rw [RuleStore.mem_revoked safe.sound revokes here]
        constructor
        · exact stored other (List.mem_cons_of_mem rule inside)
        · rintro rfl
          exact distinct.1 (List.mem_map_of_mem inside)
      · intro other inside
        exact unwanted other (List.mem_cons_of_mem rule inside)
      · exact distinct.2
      · exact keeps.admits (.revoke direction rule) fits
      · exact safe.revoke revokes here apart
      · exact covers.revoke safe.sound revokes here apart

/-- When the missing rules have been added, everything wanted is stored, beside what was there. -/
theorem Keeps.covers_of_added (keeps : Keeps handler group admitted view) {after : σ}
    (directed : ∀ rule ∈ wanted, rule.direction = direction) (fits : admitted before)
    (sound : (view before).Sound)
    (returned : (addRules direction group
      (Rule.diff wanted ((view before).rules direction)).added).Returns handler before () after) :
    (view after).Covers direction wanted ∧
      ∀ rule ∈ (view before).rules direction, rule ∈ (view after).rules direction := by
  obtain ⟨⟨copies, copied, here⟩, _, _⟩ := keeps.returns_addRules
    (fun rule member => directed rule (Rule.mem_of_mem_added member).1) fits sound returned
  constructor
  · intro key member
    rw [← Rule.keySet_kept_union_added wanted ((view before).rules direction),
      ← RuleStore.keySet_copies copied] at member
    rw [here]
    rcases member with kept | added
    · obtain ⟨rule, inside, rfl⟩ := Rule.mem_keySet.1 kept
      exact Rule.mem_keySet.2
        ⟨rule, List.mem_append_left _ (Rule.mem_kept.1 inside).1, rfl⟩
    · obtain ⟨copy, inside, rfl⟩ := Rule.mem_keySet.1 added
      exact Rule.mem_keySet.2 ⟨copy, List.mem_append_right _ inside, rfl⟩
  · intro rule inside
    rw [here]
    exact List.mem_append_left _ inside

theorem not_revoking_addRules (direction : Direction) (group : String) (rules : List Rule) :
    (addRules direction group rules).Makes fun op => ¬Revoking op := by
  induction rules with
  | nil => trivial
  | cons rule rest ih =>
    rw [addRules_cons]
    exact makes_bind (makes_during (makes_perform id)) fun _ => makes_bind (makes_info _) fun _ => ih

/-- At every moment of a diff of the stored rules, what is left alone still is; and from the first call
to revoke a rule on, everything wanted is stored. -/
theorem Keeps.safe_applyDiff (keeps : Keeps handler group admitted view)
    (atomic : Atomic handler group admitted view)
    (directed : ∀ rule ∈ wanted, rule.direction = direction) (fits : admitted before)
    (sound : (view before).Sound) {early later : List (Exchange signature)}
    (said : (applyDiff direction group wanted ((view before).rules direction)).transcript handler
      before = early ++ later) :
    (view before).Safe direction wanted (view (handler.follow before early)) ∧
      ((∃ exchange ∈ early, Revoking exchange.op) →
        (view (handler.follow before early)).Covers direction wanted) := by
  let diff := Rule.diff wanted ((view before).rules direction)
  have adding : (addRules direction group diff.added).Throughout handler
      (fun now => (view before).Safe direction wanted (view now)) before := by
    apply keeps.safe_addRules atomic
    · exact fun rule member => directed rule (Rule.mem_of_mem_added member).1
    · exact fun rule member => Rule.mem_keySet.2 ⟨rule, (Rule.mem_of_mem_added member).1, rfl⟩
    · exact fits
    · exact sound.safe
  rcases moment_bind said with ⟨rest, told⟩ | ⟨⟨⟩, between, own, added, told, rfl, same⟩
  · constructor
    · exact adding.moment told
    · rintro ⟨exchange, inside, revoking⟩
      have member : exchange ∈ (addRules direction group diff.added).transcript handler before := by
        rw [told]
        exact List.mem_append_left rest inside
      exact absurd revoking ((not_revoking_addRules _ _ _).fits_of_mem member)
  · have fitting := keeps.admitted_of_returns (makes_addRules _ _ _) fits added
    obtain ⟨covers, stays⟩ := keeps.covers_of_added directed fits sound added
    have revoking : (revokeRules direction group diff.removed).Throughout handler
        (fun now => (view before).Safe direction wanted (view now) ∧
          (view now).Covers direction wanted) between := by
      apply keeps.safe_revokeRules atomic
      · exact fun rule member => stays rule (Rule.mem_removed.1 member).1
      · exact fun rule member => (Rule.mem_removed.1 member).2
      · exact removed_distinct sound direction wanted
      · exact fitting
      · exact adding.done_of_returns added
      · exact covers
    rw [same]
    obtain ⟨safe, covers⟩ := revoking.moment told
    exact ⟨safe, fun _ => covers⟩

inductive Change where
  | create (rule : Rule)
  | revoke (rule : Rule)

namespace Change

def asked (direction : Direction) (group : String) : Change → Cloud.Call
  | create rule => .createRule direction group rule
  | revoke rule => .revokeRule direction group rule

def op (direction : Direction) (group : String) (change : Change) : signature.Op :=
  StatusOr.other (change.asked direction group)

/-- What a failure tells of a change: the rule is named by its label. -/
def subject : Change → Subject
  | create rule => ⟨s!"add security group {rule.direction.text} rule", rule.label⟩
  | revoke rule => ⟨s!"delete security group {rule.direction.text} rule", rule.label⟩

def note (group : String) : Change → String
  | create rule => s!"Added {rule.direction.text} rule {rule.label} to {group}"
  | revoke rule => s!"Revoked {rule.direction.text} rule {rule.label} from {group}"

end Change

/-- The changes that a diff asks for: all that it adds in their order, then all that it removes. -/
def changes (diff : Rule.Diff) : List Change :=
  diff.added.map .create ++ diff.removed.map .revoke

def makeChanges (direction : Direction) (group : String) : List Change → PassProgram Unit
  | [] => return ()
  | change :: rest => do
    let _ ← (cloud (change.asked direction group)).during change.subject.operation
      change.subject.resource
    .info (change.note group)
    makeChanges direction group rest

theorem addRules_eq (direction : Direction) (group : String) (rules : List Rule) :
    addRules direction group rules = makeChanges direction group (rules.map .create) := by
  induction rules with
  | nil => rfl
  | cons rule rest ih =>
    rw [addRules_cons, ih]
    rfl

theorem revokeRules_eq (direction : Direction) (group : String) (rules : List Rule) :
    revokeRules direction group rules = makeChanges direction group (rules.map .revoke) := by
  induction rules with
  | nil => rfl
  | cons rule rest ih =>
    rw [revokeRules_cons, ih]
    rfl

theorem makeChanges_append (direction : Direction) (group : String) (first second : List Change) :
    makeChanges direction group (first ++ second) =
      makeChanges direction group first >>= fun _ => makeChanges direction group second := by
  induction first with
  | nil => rfl
  | cons change rest ih =>
    simp only [List.cons_append, makeChanges, ih, bind_assoc]

theorem applyDiff_eq (direction : Direction) (group : String) (wanted current : List Rule) :
    applyDiff direction group wanted current =
      makeChanges direction group (changes (Rule.diff wanted current)) := by
  unfold changes
  rw [makeChanges_append, ← addRules_eq, ← revokeRules_eq]
  rfl

variable {site : Site Cloud.Memory} {change : Change}

theorem makeChanges_of_error (later : List Change) {raised : Failure}
    (refused : (Cloud.Memory.handler (change.asked direction group) site.world).answer =
      .error raised) :
    (makeChanges direction group (change :: later)).transcript (Site.handler Cloud.Memory.handler)
        site = [⟨change.op direction group, .error raised⟩] ∧
      ((makeChanges direction group (change :: later)).run (Site.handler Cloud.Memory.handler)
        site).outcome =
        (.error (raised.during change.subject.operation change.subject.resource),
          { site with world := site.world.used (change.asked direction group).method }) := by
  let asked := change.asked direction group
  have refusing : (Site.handler Cloud.Memory.handler (.other asked) site).answer =
    .error raised := refused
  have left : (Site.handler Cloud.Memory.handler (.other asked) site).state =
      { site with world := site.world.used asked.method } :=
    congrArg (fun world => { site with world := world }) (Cloud.Memory.handler_of_error refused)
  constructor
  · rw [makeChanges]
    unfold cloud
    rw [transcript_call, refusing]
    rfl
  · rw [makeChanges, outcome_call_bind, refusing, left]

theorem makeChanges_of_ok (later : List Change) (scripted : Cloud.Memory.Scripted site)
    {answer : (change.asked direction group).method.Answer}
    (answered : (Cloud.Memory.handler (change.asked direction group) site.world).answer =
      .ok answer) :
    ∃ script, ∃ next : Site Cloud.Memory, Cloud.Memory.Scripted next ∧
      next = { site with world :=
        { (site.world.carryOut (change.asked direction group)).2 with script := script } } ∧
      (makeChanges direction group (change :: later)).transcript
          (Site.handler Cloud.Memory.handler) site =
        ⟨change.op direction group, .ok answer⟩ ::
          (makeChanges direction group later).transcript (Site.handler Cloud.Memory.handler) next ∧
      ((makeChanges direction group (change :: later)).run (Site.handler Cloud.Memory.handler)
        site).outcome =
          ((makeChanges direction group later).run (Site.handler Cloud.Memory.handler)
            next).outcome := by
  let asked := change.asked direction group
  let script := (site.world.used asked.method).script
  let next : Site Cloud.Memory :=
    { site with world := { (site.world.carryOut asked).2 with script := script } }
  have goes : (Site.handler Cloud.Memory.handler (.other asked) site).answer =
    .ok answer := answered
  have left : (Site.handler Cloud.Memory.handler (.other asked) site).state = next := by
    unfold next
    rw [← Cloud.Memory.carryOut_withScript]
    exact congrArg (fun world => { site with world := world })
      (Cloud.Memory.handler_of_ok scripted answered).2
  have scriptedNext : Cloud.Memory.Scripted next := Cloud.Memory.onlyFails_used scripted _
  refine ⟨script, next, scriptedNext, rfl, ?_, ?_⟩
  · rw [makeChanges]
    unfold cloud
    rw [transcript_call, goes, left]
    rfl
  · rw [makeChanges, outcome_call_bind, goes, left]
    rfl

/-- Where changes are cut short by a call that fails, that was the last call; those before it have been
carried out in their order, and nothing else has been done. -/
theorem cut_short (scripted : Cloud.Memory.Scripted site)
    {changes : List Change} {early later : List (Exchange signature)}
    {exchange : Exchange signature}
    (said : (makeChanges direction group changes).transcript (Site.handler Cloud.Memory.handler)
      site = early ++ exchange :: later)
    {raised : Failure} (failed : exchange.answer = .error raised) :
    later = [] ∧ ∃ made change rest, changes = made ++ change :: rest ∧
      early.map Exchange.op = made.map (Change.op direction group) ∧
      exchange.op = change.op direction group ∧
      ∃ script, ((makeChanges direction group changes).run (Site.handler Cloud.Memory.handler)
        site).outcome =
          (.error (raised.during change.subject.operation change.subject.resource),
            { site with world :=
              { site.world.after (made.map (Change.asked direction group)) with
                script := script } }) := by
  -- The first change either fails, and is the last call, or leaves a site from which the rest goes on.
  induction changes generalizing site early with
  | nil => cases early <;> cases said
  | cons change rest ih =>
    let asked := change.asked direction group
    cases answered : (Cloud.Memory.handler asked site.world).answer with
    | error refusal =>
      obtain ⟨alone, outcome⟩ := makeChanges_of_error rest answered
      rw [alone] at said
      cases early with
      | cons first between => cases between <;> cases said
      | nil =>
        obtain ⟨rfl, rfl⟩ := List.cons.inj said
        obtain rfl := Except.error.inj failed
        exact ⟨rfl, [], change, rest, rfl, rfl, rfl, _, outcome⟩
    | ok answer =>
      obtain ⟨script, next, scriptedNext, there, told, outcome⟩ :=
        makeChanges_of_ok rest scripted answered
      rw [told] at said
      cases early with
      | nil =>
        obtain ⟨rfl, _⟩ := List.cons.inj said
        cases failed
      | cons first between =>
        obtain ⟨rfl, followed⟩ := List.cons.inj said
        obtain ⟨last, made, other, more, rfl, same, here, final, ended⟩ :=
          ih scriptedNext followed
        refine ⟨last, change :: made, other, more, rfl, ?_, here, final, ?_⟩
        · rw [List.map_cons, List.map_cons, same]
        · rw [outcome, ended, there, Cloud.Memory.after_withScript]
          rfl

/-- What `_apply_rule_diff` does to the rules of a group in memory, wherever it is cut short. At every
moment the wanted rules that were stored still are, the rules of the other direction are as they were, no
key has come that is not wanted, and nothing was revoked unless everything wanted is stored. A call that
fails is the last one: those before it have been carried out, additions before removals, and what comes
out names the rule of that call, unless the call failed with a terminal error of its own. -/
theorem partial_diff_safe {site : Site Cloud.Memory} {group : String} {direction : Direction}
    {wanted : List Rule} (directed : ∀ rule ∈ wanted, rule.direction = direction)
    (scripted : Cloud.Memory.Scripted site) (sound : (Cloud.Memory.storeAt group site).Sound) :
    let stored := Cloud.Memory.storeAt group site
    let handler := Site.handler Cloud.Memory.handler
    let diff := Rule.diff wanted (stored.rules direction)
    let program := applyDiff direction group wanted (stored.rules direction)
    (∀ early later, program.transcript handler site = early ++ later →
      let now := Cloud.Memory.storeAt group (handler.follow site early)
      stored.Safe direction wanted now ∧
        ((∃ exchange ∈ early, Revoking exchange.op) → now.Covers direction wanted)) ∧
    ∀ early exchange later, program.transcript handler site = early ++ exchange :: later →
      ∀ raised, exchange.answer = .error raised →
        later = [] ∧ ∃ made change rest, changes diff = made ++ change :: rest ∧
          early.map Exchange.op = made.map (Change.op direction group) ∧
          exchange.op = change.op direction group ∧
          (∃ script, (program.run handler site).state = { site with world :=
            { site.world.after (made.map (Change.asked direction group)) with
              script := script } }) ∧
          change.subject.Surfaces raised (program.run handler site).result := by
  constructor
  · intro early later said
    exact (Cloud.Memory.keeps group).safe_applyDiff (Cloud.Memory.atomic group) directed scripted
      sound said
  · intro early exchange later said raised failed
    rw [applyDiff_eq] at said ⊢
    obtain ⟨last, made, change, rest, split, asked, here, script, outcome⟩ :=
      cut_short scripted said failed
    obtain ⟨result, state⟩ := Prod.mk.inj outcome
    refine ⟨last, made, change, rest, split, asked, here, ⟨script, state⟩, ?_⟩
    rw [result]
    exact change.subject.surfaces_during raised

/-- A group that lets in one block, before a run that is to let in two more; the call for the second of
them fails. -/
def annexSite (failure : Failure) : Site Cloud.Memory :=
  officeSite (Cloud.Script.empty.set (.createRule .ingress) [none, some (.error failure)])
    [{ Rule.allowSsh Cidr.anyV4 with handle := some "rule-0" }]

def annexWanted : List Rule :=
  [Rule.allowSsh Cidr.anyV4, Rule.allowSsh officeBlock, Rule.allowSsh annexBlock]

def annexRun (failure : Failure) : Run signature (Site Cloud.Memory) Unit :=
  let site := annexSite failure
  (applyDiff .ingress "sg-1" annexWanted ((Cloud.Memory.storeAt "sg-1" site).rules .ingress)).run
    (Site.handler Cloud.Memory.handler) site

theorem annexSite_scripted (failure : Failure) : Cloud.Memory.Scripted (annexSite failure) := by
  apply Cloud.onlyFails_empty.set
  intro value member
  simp at member

theorem partial_diff_safe_annex :
    (∀ rule ∈ annexWanted, rule.direction = .ingress) ∧
      (Cloud.Memory.storeAt "sg-1" (annexSite (.foreign .runtime "exploded"))).Sound ∧
      { Rule.allowSsh Cidr.anyV4 with handle := some "rule-0" } ∈
        (Cloud.Memory.storeAt "sg-1" (annexRun (.foreign .runtime "exploded")).state).rules
          .ingress ∧
      ∃ error, (annexRun (.foreign .runtime "exploded")).result = .error (.terminal error) ∧
        error.family = .provider ∧
        error.message = "failed to add security group ingress rule " ++
          "'SSH access for Bastion' (tcp 22/22 from 198.51.100.0/24): exploded" := by
  have directed : ∀ rule ∈ annexWanted, rule.direction = .ingress :=
    Rule.wantedIngress_directed [Cidr.anyV4, officeBlock, annexBlock]
  have sound : (Cloud.Memory.storeAt "sg-1" (annexSite (.foreign .runtime "exploded"))).Sound :=
    officeSite_sound rfl
  obtain ⟨safe, cut⟩ := partial_diff_safe directed (annexSite_scripted _) sound
  have kept := (safe _ [] (List.append_nil _).symm).1.kept _ (List.mem_singleton_self _)
    (Rule.mem_keySet.2 ⟨_, List.mem_cons_self, rfl⟩)
  rw [follow_transcript] at kept
  have said : (applyDiff .ingress "sg-1" annexWanted ((Cloud.Memory.storeAt "sg-1"
      (annexSite (.foreign .runtime "exploded"))).rules .ingress)).transcript
        (Site.handler Cloud.Memory.handler) (annexSite (.foreign .runtime "exploded")) =
      [told (.createRule .ingress "sg-1" (Rule.allowSsh officeBlock)) .null] ++
        ⟨StatusOr.other (.createRule .ingress "sg-1" (Rule.allowSsh annexBlock)),
          .error (.foreign .runtime "exploded")⟩ :: [] := rfl
  obtain ⟨_, made, change, rest, split, asked, here, _, surfaces⟩ := cut _ _ _ said _ rfl
  cases change with
  | revoke rule => cases here
  | create rule =>
    obtain rfl : Rule.allowSsh annexBlock = rule := by
      injection here with same
      injection same
    exact ⟨directed, sound, kept, surfaces⟩

/-- A call that fails with a terminal error of the provider's own: what comes out does not name the rule. -/
theorem failed_change_unnamed :
    let site := annexSite (.terminal (.reported .configuration "quota exceeded"))
    let stored := (Cloud.Memory.storeAt "sg-1" site).rules .ingress
    let program := applyDiff .ingress "sg-1" annexWanted stored
    Cloud.Memory.Scripted site ∧ (Cloud.Memory.storeAt "sg-1" site).Sound ∧
      ¬∀ early exchange later, program.transcript (Site.handler Cloud.Memory.handler) site =
          early ++ exchange :: later →
        ∀ raised, exchange.answer = .error raised →
          ∃ made change rest, changes (Rule.diff annexWanted stored) = made ++ change :: rest ∧
            made.length = early.length ∧
            ∃ failure, (program.run (Site.handler Cloud.Memory.handler) site).result =
                .error failure ∧
              change.subject.resource.toList <:+: failure.message.toList := by
  intro site stored program
  refine ⟨annexSite_scripted _, officeSite_sound rfl, ?_⟩
  intro names
  have said : program.transcript (Site.handler Cloud.Memory.handler) site =
      [told (.createRule .ingress "sg-1" (Rule.allowSsh officeBlock)) .null] ++
        ⟨StatusOr.other (.createRule .ingress "sg-1" (Rule.allowSsh annexBlock)),
          .error (.terminal (.reported .configuration "quota exceeded"))⟩ :: [] := rfl
  obtain ⟨made, change, rest, split, count, failure, ended, named⟩ := names _ _ _ said _ rfl
  have all : changes (Rule.diff annexWanted stored) =
    [.create (Rule.allowSsh officeBlock), .create (Rule.allowSsh annexBlock)] := rfl
  have result : (program.run (Site.handler Cloud.Memory.handler) site).result =
    .error (.terminal (.reported .configuration "quota exceeded")) := rfl
  rw [all] at split
  rw [result] at ended
  obtain ⟨first, rfl⟩ := List.length_eq_one_iff.1 count
  obtain ⟨rfl, follows⟩ := List.cons.inj split
  obtain ⟨rfl, _⟩ := List.cons.inj follows
  obtain rfl := Except.error.inj ended
  have shorter : "quota exceeded".toList.length <
    (Rule.allowSsh annexBlock).label.toList.length := by decide
  exact Nat.not_le.2 shorter named.length_le

end Pass

end Bastion
