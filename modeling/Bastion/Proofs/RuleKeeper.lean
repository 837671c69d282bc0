import Bastion.Proofs.RuleStore
import Bastion.Proofs.Runs

set_option autoImplicit false

namespace Bastion.Pass

open Program

variable {σ : Type} {handler : Handler signature σ} {group : String} {admitted : σ → Prop}
  {view : σ → RuleStore} {before after : σ}

inductive Reads (group : String) : Cloud.Call → Prop where
  | describe (direction : Direction) : Reads group (.describeRules group direction)
  | findGroup (name : String) : Reads group (.lookupGroup name)
  | findInstance (name : String) : Reads group (.lookupInstance name)

/-- The calls that are made to reconcile the rules of a group. -/
inductive RuleCall (group : String) : Cloud.Call → Prop where
  | read {call : Cloud.Call} (reads : Reads group call) : RuleCall group call
  | create (direction : Direction) (rule : Rule) :
      RuleCall group (.createRule direction group rule)
  | revoke (direction : Direction) (rule : Rule) :
      RuleCall group (.revokeRule direction group rule)

/-- The cloud keeps the rules of the group, in states that are admitted. What is told of a direction are
its rules; a rule that is created is stored, and one that is stored is revoked by its handle; looking
up changes no rules. -/
structure Keeps (handler : Handler signature σ) (group : String) (admitted : σ → Prop)
    (view : σ → RuleStore) : Prop where
  admits : ∀ {call state}, RuleCall group call → admitted state →
    admitted (handler (.other call) state).state
  describes : ∀ {before after direction answer}, admitted before →
    (describeRules group direction).Returns handler before answer after →
      answer = some ((view before).rules direction) ∧ view after = view before
  creates : ∀ {before after direction rule answer}, admitted before →
    (createRule direction group rule).Returns handler before answer after →
      (view before).Creates rule (view after)
  revokes : ∀ {before after direction rule answer}, admitted before →
    rule.handle ∈ (view before).handles →
    (revokeRule direction group rule).Returns handler before answer after →
      (view before).Revokes rule (view after)
  looksUpGroup : ∀ {before after name answer}, admitted before →
    (lookupGroup name).Returns handler before answer after → view after = view before
  looksUpInstance : ∀ {before after name answer}, admitted before →
    (lookupInstance name).Returns handler before answer after → view after = view before

def Atomic (handler : Handler signature σ) (group : String) (admitted : σ → Prop)
    (view : σ → RuleStore) : Prop :=
  ∀ {call state failure}, RuleCall group call → admitted state →
    (handler (.other call) state).answer = .error failure →
      view (handler (.other call) state).state = view state

structure Directory where
  groups : String → Option Cloud.Group
  instances : String → Option Cloud.Instance

/-- A look-up is answered from the directory, which no change of the rules changes. -/
structure Finds (handler : Handler signature σ) (group : String) (admitted : σ → Prop)
    (directory : σ → Directory) : Prop where
  steady : ∀ {call state}, RuleCall group call → admitted state →
    directory (handler (.other call) state).state = directory state
  groups : ∀ {before after name answer}, admitted before →
    (lookupGroup name).Returns handler before answer after →
      answer = (directory before).groups name
  instances : ∀ {before after name answer}, admitted before →
    (lookupInstance name).Returns handler before answer after →
      answer = (directory before).instances name

def OnCloud (kind : Cloud.Call → Prop) (op : signature.Op) : Prop :=
  ∃ call, kind call ∧ op = .other call

theorem makes_cloud {kind : Cloud.Call → Prop} {call : Cloud.Call} (fits : kind call) :
    (cloud call).Makes (OnCloud kind) :=
  makes_perform ⟨call, fits, rfl⟩

theorem makes_currentRules (group : String) (direction : Direction) :
    (currentRules group direction).Makes (OnCloud (Reads group)) := by
  refine makes_bind (makes_during (makes_cloud (.describe direction))) fun answer => ?_
  cases answer <;> trivial

theorem makes_workloadGroup (group name : String) :
    (workloadGroup name).Makes (OnCloud (Reads group)) := by
  refine makes_bind (makes_during (makes_cloud (.findGroup name))) fun answer => ?_
  cases answer <;> trivial

theorem makes_privateAddress (group name : String) :
    (privateAddress name).Makes (OnCloud (Reads group)) := by
  refine makes_bind (makes_during (makes_cloud (.findInstance name))) fun answer => ?_
  cases answer.bind Cloud.Instance.privateAddress <;> trivial

theorem makes_addRules (direction : Direction) (group : String) (rules : List Rule) :
    (addRules direction group rules).Makes (OnCloud (RuleCall group)) := by
  induction rules with
  | nil => trivial
  | cons rule rest ih =>
    exact makes_bind (makes_during (makes_cloud (.create direction rule))) fun _ =>
      makes_bind (makes_info _) fun _ => ih

theorem makes_revokeRules (direction : Direction) (group : String) (rules : List Rule) :
    (revokeRules direction group rules).Makes (OnCloud (RuleCall group)) := by
  induction rules with
  | nil => trivial
  | cons rule rest ih =>
    exact makes_bind (makes_during (makes_cloud (.revoke direction rule))) fun _ =>
      makes_bind (makes_info _) fun _ => ih

theorem makes_applyDiff (direction : Direction) (group : String) (wanted current : List Rule) :
    (applyDiff direction group wanted current).Makes (OnCloud (RuleCall group)) :=
  makes_bind (makes_addRules direction group _) fun _ => makes_revokeRules direction group _

theorem onCloud_of_reads {op : signature.Op} (reads : OnCloud (Reads group) op) :
    OnCloud (RuleCall group) op := by
  obtain ⟨call, fits, rfl⟩ := reads
  exact ⟨call, .read fits, rfl⟩

/-- Makes the rules of one direction those that are wanted. -/
def settle (direction : Direction) (group : String) (wanted : List Rule) : PassProgram Unit := do
  let current ← currentRules group direction
  applyDiff direction group wanted current

/-- Rules are settled for one direction after the other, with two look-ups between. -/
theorem reconcileRules_eq (request : Request) (group : String) :
    reconcileRules request group =
      settle .ingress group (Rule.wantedIngress request.ingress) >>= fun _ =>
        workloadGroup request.options.workloadGroupName >>= fun workload =>
          privateAddress request.options.instanceName >>= fun address =>
            settle .egress group (Rule.wantedEgress (some address) (some workload.id)) := by
  unfold settle
  rw [bind_assoc]
  rfl

theorem returns_reconcileRules {request : Request} :
    (reconcileRules request group).Returns handler before () after ↔
      ∃ settled workload found address located,
        (settle .ingress group (Rule.wantedIngress request.ingress)).Returns handler before ()
          settled ∧
        (workloadGroup request.options.workloadGroupName).Returns handler settled workload found ∧
        (privateAddress request.options.instanceName).Returns handler found address located ∧
        (settle .egress group (Rule.wantedEgress (some address) (some workload.id))).Returns
          handler located () after := by
  rw [reconcileRules_eq]
  constructor
  · intro returned
    obtain ⟨_, settled, ingress, rest⟩ := returns_bind.1 returned
    obtain ⟨workload, found, grouped, rest⟩ := returns_bind.1 rest
    obtain ⟨address, located, addressed, egress⟩ := returns_bind.1 rest
    exact ⟨settled, workload, found, address, located, ingress, grouped, addressed, egress⟩
  · rintro ⟨settled, workload, found, address, located, ingress, grouped, addressed, egress⟩
    apply ingress.bind
    apply grouped.bind
    exact addressed.bind egress

theorem makes_settle (direction : Direction) (group : String) (wanted : List Rule) :
    (settle direction group wanted).Makes (OnCloud (RuleCall group)) :=
  makes_bind ((makes_currentRules _ _).mono onCloud_of_reads) fun _ => makes_applyDiff _ _ _ _

theorem makes_reconcileRules (request : Request) (group : String) :
    (reconcileRules request group).Makes (OnCloud (RuleCall group)) := by
  rw [reconcileRules_eq]
  exact makes_bind (makes_settle _ _ _) fun _ =>
    makes_bind ((makes_workloadGroup _ _).mono onCloud_of_reads) fun _ =>
      makes_bind ((makes_privateAddress _ _).mono onCloud_of_reads) fun _ => makes_settle _ _ _

/-- Reconciling rules leaves an admitted state, wherever it ends. -/
theorem Keeps.admitted_run (keeps : Keeps handler group admitted view) {α : Type}
    {program : PassProgram α} (made : program.Makes (OnCloud (RuleCall group))) {state : σ}
    (fits : admitted state) : admitted (program.run handler state).state := by
  refine run_preserves admitted ?_ made fits
  rintro op state ⟨call, ofRules, rfl⟩
  exact keeps.admits ofRules

theorem Keeps.admitted_of_returns (keeps : Keeps handler group admitted view) {α : Type}
    {program : PassProgram α} {value : α} (made : program.Makes (OnCloud (RuleCall group)))
    (fits : admitted before) (returned : program.Returns handler before value after) :
    admitted after := by
  rw [← (outcome_of_returns returned).2]
  exact keeps.admitted_run made fits

theorem Keeps.view_of_read (keeps : Keeps handler group admitted view) {call : Cloud.Call}
    {answer : call.method.Answer} (reads : Reads group call) (fits : admitted before)
    (returned : (cloud call).Returns handler before answer after) : view after = view before := by
  cases reads with
  | describe direction => exact (keeps.describes fits returned).2
  | findGroup name => exact keeps.looksUpGroup fits returned
  | findInstance name => exact keeps.looksUpInstance fits returned

/-- What only reads leaves the rules as they are, wherever it ends. -/
theorem Keeps.view_of_reads (keeps : Keeps handler group admitted view)
    (atomic : Atomic handler group admitted view) {α : Type} {program : PassProgram α}
    (made : program.Makes (OnCloud (Reads group))) {state : σ} (fits : admitted state) :
    view (program.run handler state).state = view state := by
  refine (run_preserves (fun now => admitted now ∧ view now = view state) ?_ made ⟨fits, rfl⟩).2
  rintro op now ⟨call, reads, rfl⟩ ⟨fitting, same⟩
  refine ⟨keeps.admits (.read reads) fitting, ?_⟩
  rw [← same]
  cases answered : (handler (.other call) now).answer with
  | error failure => exact atomic (.read reads) fitting answered
  | ok answer => exact keeps.view_of_read reads fitting (returns_perform.2 ⟨answered, rfl⟩)

/-- What holds of the rules before a reading program, and after all that may follow its return, holds
wherever both end. -/
theorem Keeps.reads_then (keeps : Keeps handler group admitted view)
    (atomic : Atomic handler group admitted view) {α β : Type} {program : PassProgram α}
    {next : α → PassProgram β} (holds : RuleStore → Prop)
    (made : program.Makes (OnCloud (Reads group))) (fits : admitted before)
    (start : holds (view before))
    (later : ∀ value between, program.Returns handler before value between → admitted between →
      view between = view before → holds (view ((next value).run handler between).state)) :
    holds (view ((program >>= next).run handler before).state) := by
  have unchanged := keeps.view_of_reads atomic made fits
  refine run_bind_ends (fun now => holds (view now)) (unchanged ▸ start) ?_
  intro value between returned
  rw [(outcome_of_returns returned).2] at unchanged
  exact later value between returned
    (keeps.admitted_of_returns (made.mono onCloud_of_reads) fits returned) unchanged

theorem Keeps.returns_currentRules (keeps : Keeps handler group admitted view)
    (fits : admitted before) {direction : Direction} {rules : List Rule}
    (returned : (currentRules group direction).Returns handler before rules after) :
    rules = (view before).rules direction ∧ view after = view before := by
  obtain ⟨answer, between, described, rest⟩ := returns_bind.1 returned
  obtain ⟨rfl, same⟩ := keeps.describes fits (returns_during.1 described)
  obtain ⟨rfl, rfl⟩ := returns_pure.1 rest
  exact ⟨rfl, same⟩

/-- The fate of a program that starts with a call, by the answer to the call. -/
theorem outcome_call_bind {α : Type} (call : Cloud.Call) (operation resource : String)
    (next : call.method.Answer → PassProgram α) (state : σ) :
    (((cloud call).during operation resource >>= next).run handler state).outcome =
      match (handler (.other call) state).answer with
      | .ok answer => ((next answer).run handler (handler (.other call) state).state).outcome
      | .error failure =>
        (.error (failure.during operation resource), (handler (.other call) state).state) := by
  rw [outcome_bind, outcome_during]
  have performed : ((cloud call).run handler state).outcome = _ :=
    outcome_perform (S := signature) (.other call) state
  obtain ⟨result, left⟩ := Prod.mk.inj performed
  rw [result, left]
  cases (handler (.other call) state).answer <;> rfl

theorem addRules_cons (direction : Direction) (group : String) (rule : Rule) (rest : List Rule) :
    addRules direction group (rule :: rest) =
      (cloud (.createRule direction group rule)).during
        s!"add security group {rule.direction.text} rule" rule.label >>= fun _ =>
          .info s!"Added {rule.direction.text} rule {rule.label} to {group}" >>= fun _ =>
            addRules direction group rest := rfl

theorem revokeRules_cons (direction : Direction) (group : String) (rule : Rule)
    (rest : List Rule) :
    revokeRules direction group (rule :: rest) =
      (cloud (.revokeRule direction group rule)).during
        s!"delete security group {rule.direction.text} rule" rule.label >>= fun _ =>
          .info s!"Revoked {rule.direction.text} rule {rule.label} from {group}" >>= fun _ =>
            revokeRules direction group rest := rfl

theorem Keeps.returns_addRules (keeps : Keeps handler group admitted view) {direction : Direction}
    {rules : List Rule} (directed : ∀ rule ∈ rules, rule.direction = direction)
    (fits : admitted before) (sound : (view before).Sound)
    (returned : (addRules direction group rules).Returns handler before () after) :
    (∃ copies, List.Forall₂ (view before).IsCopy rules copies ∧
      (view after).rules direction = (view before).rules direction ++ copies) ∧
    (∀ other, other ≠ direction → (view after).rules other = (view before).rules other) ∧
    (view after).Sound := by
  induction rules generalizing before with
  | nil =>
    obtain ⟨_, rfl⟩ := returns_pure.1 returned
    exact ⟨⟨[], .nil, (List.append_nil _).symm⟩, fun _ _ => rfl, sound⟩
  | cons rule rest ih =>
    obtain ⟨answer, between, created, logged⟩ := returns_bind.1 returned
    obtain ⟨_, _, told, later⟩ := returns_bind.1 logged
    obtain rfl := returns_info.1 told
    have creates := keeps.creates fits (returns_during.1 created)
    have fitting := keeps.admitted_of_returns
      (makes_during (makes_cloud (.create direction rule))) fits created
    obtain ⟨⟨copies, copied, last⟩, frame, soundAfter⟩ :=
      ih (fun other inside => directed other (List.mem_cons_of_mem rule inside)) fitting
        (sound.create creates) later
    obtain ⟨handle, unissued, filed, fewer⟩ := creates
    have first : rule.direction = direction := directed rule List.mem_cons_self
    let made : Rule := { rule with handle := some handle }
    have copiedAll : List.Forall₂ (view before).IsCopy (rule :: rest) (made :: copies) := by
      apply List.Forall₂.cons ⟨handle, unissued, rfl⟩
      refine copied.imp fun wanted copy => ?_
      rintro ⟨given, remaining, rfl⟩
      exact ⟨given, (fewer remaining).1, rfl⟩
    refine ⟨⟨made :: copies, copiedAll, ?_⟩, ?_, soundAfter⟩
    · rw [last, filed]
      simp only [made, RuleStore.filed, first, ↓reduceIte, List.append_assoc, List.singleton_append]
    · intro other different
      rw [frame other different, filed]
      simp only [RuleStore.filed, first, different, ↓reduceIte]

theorem Keeps.returns_revokeRules (keeps : Keeps handler group admitted view)
    {direction : Direction} {rules : List Rule}
    (stored : ∀ rule ∈ rules, rule.handle ∈ (view before).handles)
    (distinct : (rules.map Rule.handle).Nodup) (fits : admitted before)
    (sound : (view before).Sound)
    (returned : (revokeRules direction group rules).Returns handler before () after) :
    (∀ side, (view after).rules side =
      ((view before).rules side).filter fun rule => rule.handle ∉ rules.map Rule.handle) ∧
    (view after).Sound := by
  induction rules generalizing before with
  | nil =>
    obtain ⟨_, rfl⟩ := returns_pure.1 returned
    exact ⟨fun side => by simp, sound⟩
  | cons rule rest ih =>
    obtain ⟨answer, between, called, logged⟩ := returns_bind.1 returned
    obtain ⟨_, _, told, later⟩ := returns_bind.1 logged
    obtain rfl := returns_info.1 told
    have revokes := keeps.revokes fits (stored rule List.mem_cons_self) (returns_during.1 called)
    have fitting := keeps.admitted_of_returns
      (makes_during (makes_cloud (.revoke direction rule))) fits called
    rw [List.map_cons, List.nodup_cons] at distinct
    have remaining := revokes.stored
      (fun other inside => stored other (List.mem_cons_of_mem rule inside)) distinct.1
    obtain ⟨left, soundAfter⟩ := ih remaining distinct.2 fitting (sound.revoke revokes) later
    refine ⟨fun side => ?_, soundAfter⟩
    rw [left side, revokes.rules side, List.filter_filter]
    simp only [List.map_cons, List.mem_cons, not_or, Bool.decide_and, Bool.and_comm]

/-- The rules that a diff removes are still stored when the others have been added. -/
theorem Keeps.removed_stored (keeps : Keeps handler group admitted view) {direction : Direction}
    {wanted : List Rule} (directed : ∀ rule ∈ wanted, rule.direction = direction)
    (fits : admitted before) (sound : (view before).Sound)
    (returned : (addRules direction group
      (Rule.diff wanted ((view before).rules direction)).added).Returns handler before () after) :
    ∀ rule ∈ (Rule.diff wanted ((view before).rules direction)).removed,
      rule.handle ∈ (view after).handles := by
  obtain ⟨⟨copies, _, last⟩, _, _⟩ := keeps.returns_addRules
    (fun rule member => directed rule (Rule.mem_of_mem_added member).1) fits sound returned
  intro rule member
  apply RuleStore.handle_mem_handles direction
  rw [last]
  exact List.mem_append_left copies (Rule.mem_removed.1 member).1

theorem removed_distinct {store : RuleStore} (sound : store.Sound) (direction : Direction)
    (wanted : List Rule) :
    ((Rule.diff wanted (store.rules direction)).removed.map Rule.handle).Nodup :=
  (sound.nodup_side direction).sublist (List.filter_sublist.map Rule.handle)

theorem Keeps.settles (keeps : Keeps handler group admitted view) {direction : Direction}
    {wanted : List Rule} (directed : ∀ rule ∈ wanted, rule.direction = direction)
    (fits : admitted before) (sound : (view before).Sound)
    (returned : (applyDiff direction group wanted ((view before).rules direction)).Returns
      handler before () after) :
    (view before).Settles direction wanted (view after) := by
  obtain ⟨_, between, added, revoked⟩ := returns_bind.1 returned
  have fitting := keeps.admitted_of_returns (makes_addRules _ _ _) fits added
  obtain ⟨⟨copies, copied, last⟩, frame, soundBetween⟩ := keeps.returns_addRules
    (fun rule member => directed rule (Rule.mem_of_mem_added member).1) fits sound added
  obtain ⟨left, soundAfter⟩ := keeps.returns_revokeRules
    (keeps.removed_stored directed fits sound added) (removed_distinct sound direction wanted)
    fitting soundBetween revoked
  -- Handles tell rules apart, so revoking by handle takes exactly the rules that were removed.
  have taken : ∀ {side : Direction} {rule : Rule}, rule ∈ (view before).rules side →
      rule.handle ∈ (Rule.diff wanted ((view before).rules direction)).removed.map Rule.handle →
      side = direction ∧ rule.key ∉ Rule.keySet wanted := by
    intro side rule inside member
    obtain ⟨other, removed, same⟩ := List.mem_map.1 member
    obtain ⟨rfl, rfl⟩ := sound.eq_of_handle_eq (Rule.mem_removed.1 removed).1 inside same
    exact ⟨rfl, (Rule.mem_removed.1 removed).2⟩
  refine ⟨⟨copies, copied, ?_⟩, ?_, soundAfter⟩
  · rw [left direction, last, List.filter_append]
    congr 1
    · refine List.filter_congr fun rule inside => decide_eq_decide.2 ⟨fun free => ?_, ?_⟩
      · by_contra unwanted
        exact free (List.mem_map_of_mem (Rule.mem_removed.2 ⟨inside, unwanted⟩))
      · exact fun wantedKey member => (taken inside member).2 wantedKey
    · refine List.filter_eq_self.2 fun copy member => decide_eq_true fun held => ?_
      obtain ⟨handle, unissued, given⟩ := RuleStore.handle_of_mem_copies copied member
      obtain ⟨rule, removed, same⟩ := List.mem_map.1 held
      apply sound.fresh handle unissued
      rw [← given, ← same]
      exact RuleStore.handle_mem_handles direction (Rule.mem_removed.1 removed).1
  · intro other different
    rw [left other, frame other different]
    exact List.filter_eq_self.2 fun rule inside =>
      decide_eq_true fun member => different (taken inside member).1

theorem Keeps.sound_addRules (keeps : Keeps handler group admitted view)
    (atomic : Atomic handler group admitted view) (direction : Direction) (rules : List Rule)
    {state : σ} (fits : admitted state) (sound : (view state).Sound) :
    (view ((addRules direction group rules).run handler state).state).Sound := by
  induction rules generalizing state with
  | nil => exact sound
  | cons rule rest ih =>
    change (view ((addRules direction group (rule :: rest)).run handler state).outcome.2).Sound
    rw [addRules_cons, outcome_call_bind]
    cases answered : (handler (.other (.createRule direction group rule)) state).answer with
    | error failure =>
      rw [← atomic (.create direction rule) fits answered] at sound
      exact sound
    | ok answer =>
      have creates := keeps.creates fits (returns_perform.2 ⟨answered, rfl⟩)
      exact ih (keeps.admits (.create direction rule) fits) (sound.create creates)

/-- Wherever the revoking of stored rules ends, the store is sound. -/
theorem Keeps.sound_revokeRules (keeps : Keeps handler group admitted view)
    (atomic : Atomic handler group admitted view) (direction : Direction) {rules : List Rule}
    {state : σ} (stored : ∀ rule ∈ rules, rule.handle ∈ (view state).handles)
    (distinct : (rules.map Rule.handle).Nodup) (fits : admitted state)
    (sound : (view state).Sound) :
    (view ((revokeRules direction group rules).run handler state).state).Sound := by
  induction rules generalizing state with
  | nil => exact sound
  | cons rule rest ih =>
    change (view ((revokeRules direction group (rule :: rest)).run handler state).outcome.2).Sound
    rw [revokeRules_cons, outcome_call_bind]
    cases answered : (handler (.other (.revokeRule direction group rule)) state).answer with
    | error failure =>
      rw [← atomic (.revoke direction rule) fits answered] at sound
      exact sound
    | ok answer =>
      have revokes := keeps.revokes fits (stored rule List.mem_cons_self)
        (returns_perform.2 ⟨answered, rfl⟩)
      rw [List.map_cons, List.nodup_cons] at distinct
      have remaining := revokes.stored
        (fun other inside => stored other (List.mem_cons_of_mem rule inside)) distinct.1
      exact ih remaining distinct.2 (keeps.admits (.revoke direction rule) fits)
        (sound.revoke revokes)

theorem quiet_addRules {direction : Direction} {rules : List Rule}
    (quiet : (addRules direction group rules).Quiet handler before) :
    ∃ after, (addRules direction group rules).Returns handler before () after := by
  induction rules generalizing before with
  | nil => exact ⟨before, returns_done () before⟩
  | cons rule rest ih =>
    obtain ⟨first, later⟩ := quiet_bind.1 quiet
    obtain ⟨answer, created⟩ := returns_of_quiet_call first
    obtain ⟨after, added⟩ := ih (later answer _ created)
    exact ⟨after, created.bind added⟩

theorem quiet_revokeRules {direction : Direction} {rules : List Rule}
    (quiet : (revokeRules direction group rules).Quiet handler before) :
    ∃ after, (revokeRules direction group rules).Returns handler before () after := by
  induction rules generalizing before with
  | nil => exact ⟨before, returns_done () before⟩
  | cons rule rest ih =>
    obtain ⟨first, later⟩ := quiet_bind.1 quiet
    obtain ⟨answer, called⟩ := returns_of_quiet_call first
    obtain ⟨after, revoked⟩ := ih (later answer _ called)
    exact ⟨after, called.bind revoked⟩

theorem quiet_applyDiff {direction : Direction} {wanted current : List Rule}
    (quiet : (applyDiff direction group wanted current).Quiet handler before) :
    ∃ after, (applyDiff direction group wanted current).Returns handler before () after := by
  obtain ⟨adding, revoking⟩ := quiet_bind.1 quiet
  obtain ⟨between, added⟩ := quiet_addRules adding
  obtain ⟨after, revoked⟩ := quiet_revokeRules (revoking () between added)
  exact ⟨after, added.bind revoked⟩

theorem Keeps.quiet_currentRules (keeps : Keeps handler group admitted view)
    (fits : admitted before) {direction : Direction}
    (quiet : (currentRules group direction).Quiet handler before) :
    ∃ after, (currentRules group direction).Returns handler before
      ((view before).rules direction) after := by
  obtain ⟨answer, described⟩ := returns_of_quiet_call (quiet_bind.1 quiet).1
  obtain ⟨rfl, _⟩ := keeps.describes fits (returns_during.1 described)
  exact ⟨_, described.bind (returns_done _ _)⟩

/-- Wherever a diff of the stored rules ends, the store is sound. -/
theorem Keeps.sound_applyDiff (keeps : Keeps handler group admitted view)
    (atomic : Atomic handler group admitted view) {direction : Direction} {wanted : List Rule}
    (directed : ∀ rule ∈ wanted, rule.direction = direction) {state : σ} (fits : admitted state)
    (sound : (view state).Sound) :
    (view ((applyDiff direction group wanted ((view state).rules direction)).run
      handler state).state).Sound := by
  refine run_bind_ends (fun now => (view now).Sound)
    (keeps.sound_addRules atomic direction _ fits sound) ?_
  rintro ⟨⟩ between added
  have fitting := keeps.admitted_of_returns (makes_addRules _ _ _) fits added
  obtain ⟨_, _, soundBetween⟩ := keeps.returns_addRules
    (fun rule member => directed rule (Rule.mem_of_mem_added member).1) fits sound added
  exact keeps.sound_revokeRules atomic direction (keeps.removed_stored directed fits sound added)
    (removed_distinct sound direction wanted) fitting soundBetween

theorem Keeps.settles_of_settle (keeps : Keeps handler group admitted view)
    {direction : Direction} {wanted : List Rule}
    (directed : ∀ rule ∈ wanted, rule.direction = direction) (fits : admitted before)
    (sound : (view before).Sound)
    (returned : (settle direction group wanted).Returns handler before () after) :
    (view before).Settles direction wanted (view after) := by
  obtain ⟨current, listed, described, applied⟩ := returns_bind.1 returned
  obtain ⟨rfl, same⟩ := keeps.returns_currentRules fits described
  have fitsListed := keeps.admitted_of_returns
    ((makes_currentRules group direction).mono onCloud_of_reads) fits described
  rw [← same] at sound applied ⊢
  exact keeps.settles directed fitsListed sound applied

theorem Keeps.quiet_settle (keeps : Keeps handler group admitted view) {direction : Direction}
    {wanted : List Rule} (fits : admitted before)
    (quiet : (settle direction group wanted).Quiet handler before) :
    ∃ after, (settle direction group wanted).Returns handler before () after := by
  obtain ⟨describing, applying⟩ := quiet_bind.1 quiet
  obtain ⟨listed, described⟩ := keeps.quiet_currentRules fits describing
  obtain ⟨after, applied⟩ := quiet_applyDiff (applying _ _ described)
  exact ⟨after, described.bind applied⟩

/-- Wherever the settling of a direction ends, the store is sound. -/
theorem Keeps.sound_settle (keeps : Keeps handler group admitted view)
    (atomic : Atomic handler group admitted view) {direction : Direction} {wanted : List Rule}
    (directed : ∀ rule ∈ wanted, rule.direction = direction) {state : σ} (fits : admitted state)
    (sound : (view state).Sound) :
    (view ((settle direction group wanted).run handler state).state).Sound := by
  apply keeps.reads_then atomic RuleStore.Sound (makes_currentRules group direction) fits sound
  intro current described listed fitsDescribed same
  obtain ⟨rfl, _⟩ := keeps.returns_currentRules fits listed
  rw [← same] at sound ⊢
  exact keeps.sound_applyDiff atomic directed fitsDescribed sound

theorem Keeps.view_of_workloadGroup (keeps : Keeps handler group admitted view)
    (fits : admitted before) {name : String} {workload : Cloud.Group}
    (returned : (workloadGroup name).Returns handler before workload after) :
    view after = view before := by
  obtain ⟨answer, between, found, rest⟩ := returns_bind.1 returned
  have same := keeps.looksUpGroup fits (returns_during.1 found)
  cases answer with
  | none => exact (returns_fail.1 rest).elim
  | some found =>
    obtain ⟨_, rfl⟩ := returns_pure.1 rest
    exact same

theorem Keeps.view_of_privateAddress (keeps : Keeps handler group admitted view)
    (fits : admitted before) {name address : String}
    (returned : (privateAddress name).Returns handler before address after) :
    view after = view before := by
  obtain ⟨answer, between, found, rest⟩ := returns_bind.1 returned
  have same := keeps.looksUpInstance fits (returns_during.1 found)
  cases located : answer.bind Cloud.Instance.privateAddress with
  | none =>
    rw [located] at rest
    exact (returns_fail.1 rest).elim
  | some told =>
    rw [located] at rest
    obtain ⟨_, rfl⟩ := returns_pure.1 rest
    exact same

/-- A run that returned leaves the wanted keys in each direction and no others. -/
theorem Keeps.keySets_of_returns (keeps : Keeps handler group admitted view)
    (fits : admitted before) (sound : (view before).Sound) {sources : List Cidr}
    {settled found located : σ} {name machine address : String} {workload : Cloud.Group}
    (ingress : (settle .ingress group (Rule.wantedIngress sources)).Returns handler before ()
      settled)
    (grouped : (workloadGroup name).Returns handler settled workload found)
    (addressed : (privateAddress machine).Returns handler found address located)
    (egress : (settle .egress group (Rule.wantedEgress (some address) (some workload.id))).Returns
      handler located () after) :
    Rule.keySet ((view after).rules .ingress) = Rule.keySet (Rule.wantedIngress sources) ∧
      Rule.keySet ((view after).rules .egress) =
        Rule.keySet (Rule.wantedEgress (some address) (some workload.id)) := by
  have settlesIn := keeps.settles_of_settle (Rule.wantedIngress_directed _) fits sound ingress
  have fitsSettled := keeps.admitted_of_returns (makes_settle _ _ _) fits ingress
  have sameFound := keeps.view_of_workloadGroup fitsSettled grouped
  have fitsFound := keeps.admitted_of_returns
    ((makes_workloadGroup group _).mono onCloud_of_reads) fitsSettled grouped
  have sameLocated := keeps.view_of_privateAddress fitsFound addressed
  have fitsLocated := keeps.admitted_of_returns
    ((makes_privateAddress group _).mono onCloud_of_reads) fitsFound addressed
  have unchanged := sameLocated.trans sameFound
  have settlesOut := keeps.settles_of_settle (Rule.wantedEgress_directed _ _) fitsLocated
    (unchanged ▸ settlesIn.sound) egress
  refine ⟨?_, settlesOut.keySet⟩
  rw [settlesOut.frame .ingress (by decide), unchanged]
  exact settlesIn.keySet

end Bastion.Pass
