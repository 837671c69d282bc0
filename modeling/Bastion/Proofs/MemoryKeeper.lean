import Bastion.Cloud.Memory
import Bastion.Proofs.RuleKeeper

set_option autoImplicit false

namespace Bastion.Cloud

def Script.OnlyFails (script : Script) : Prop :=
  ∀ method value, some (.ok value) ∉ script method

theorem Script.set_same (script : Script) (method : Method)
    (answers : List (Option (Except Failure method.Answer))) :
    script.set method answers method = answers := by
  simp [Script.set]

theorem Script.set_other (script : Script) {method other : Method}
    (answers : List (Option (Except Failure method.Answer))) (different : method ≠ other) :
    script.set method answers other = script other := by
  simp [Script.set, different]

theorem Script.OnlyFails.set {script : Script} (fails : script.OnlyFails) {method : Method}
    {answers : List (Option (Except Failure method.Answer))}
    (valueless : ∀ value, some (.ok value) ∉ answers) : (script.set method answers).OnlyFails := by
  intro other value member
  by_cases same : method = other
  · subst same
    rw [Script.set_same] at member
    exact valueless value member
  · rw [Script.set_other script answers same] at member
    exact fails other value member

theorem onlyFails_empty : Script.empty.OnlyFails := fun _ _ member => by cases member

namespace Memory

/-- The memory when a scripted answer of the method, or its absence, has been used. -/
def used (memory : Memory) (method : Method) : Memory :=
  { memory with script := memory.script.set method (memory.script method).tail }

theorem handler_cases (memory : Memory) (call : Call) :
    (∃ answer, some answer ∈ memory.script call.method ∧
      handler call memory = ⟨answer, memory.used call.method, []⟩) ∨
    handler call memory = ⟨((memory.used call.method).carryOut call).1,
      ((memory.used call.method).carryOut call).2, []⟩ := by
  unfold handler used
  cases queue : memory.script call.method with
  | nil => exact .inr rfl
  | cons first rest =>
    cases first with
    | none => exact .inr rfl
    | some answer => exact .inl ⟨answer, List.mem_cons_self, rfl⟩

theorem script_carryOut (memory : Memory) (call : Call) :
    (memory.carryOut call).2.script = memory.script := by
  cases call <;> rfl

theorem onlyFails_used {memory : Memory} (fails : memory.script.OnlyFails) (method : Method) :
    (memory.used method).script.OnlyFails :=
  fails.set fun value member => fails method value (List.mem_of_mem_tail member)

theorem onlyFails_handler {memory : Memory} (fails : memory.script.OnlyFails) (call : Call) :
    (handler call memory).state.script.OnlyFails := by
  rcases memory.handler_cases call with ⟨answer, _, result⟩ | result
  · rw [result]
    exact onlyFails_used fails call.method
  · rw [result, script_carryOut]
    exact onlyFails_used fails call.method

/-- A call that is answered at all is answered by the memory itself. -/
theorem handler_of_ok {memory : Memory} (fails : memory.script.OnlyFails) {call : Call}
    {value : call.method.Answer} (answered : (handler call memory).answer = .ok value) :
    ((memory.used call.method).carryOut call).1 = .ok value ∧
      (handler call memory).state = ((memory.used call.method).carryOut call).2 := by
  rcases memory.handler_cases call with ⟨answer, scripted, result⟩ | result
  · rw [result] at answered
    subst answered
    exact absurd scripted (fails _ value)
  · rw [result] at answered ⊢
    exact ⟨answered, rfl⟩

theorem handler_of_error {memory : Memory} {call : Call} {failure : Failure}
    (answered : (handler call memory).answer = .error failure) :
    (handler call memory).state = memory.used call.method := by
  rcases memory.handler_cases call with ⟨answer, _, result⟩ | result
  · rw [result]
  · rw [result] at answered ⊢
    cases call
    case lookupSubnet => rfl
    all_goals cases answered

/-- The handle of the rule that is created as the one of that number. -/
def handleOf (number : Nat) : String := s!"rule-{number}"

theorem handleOf_injective {first second : Nat} (same : handleOf first = handleOf second) :
    first = second := by
  have texts : toString first = toString second := (String.append_right_inj _).1 same
  rw [Nat.toString_eq_ofList_toDigits, Nat.toString_eq_ofList_toDigits,
    String.ofList_inj] at texts
  rw [← Nat.ofDigitChars_toDigits (b := 10) (n := first) (by decide) (by decide), texts,
    Nat.ofDigitChars_toDigits (by decide) (by decide)]

/-- The rules of a group, and the handles of the rules to come. -/
def store (group : String) (memory : Memory) : RuleStore where
  rules direction := (memory.rulesOf group).filter fun rule => rule.direction = direction
  unissued := {handle | ∃ number, memory.issued < number ∧ handle = handleOf number}

theorem rulesOf_put (memory : Memory) (group : String) (rules : List Rule) (issued : Nat) :
    { memory with rules := Keyed.put memory.rules group rules, issued := issued }.rulesOf group =
      rules := by
  unfold rulesOf
  rw [Keyed.get?_put_same]
  rfl

theorem creates_createRule (memory : Memory) (group : String) (rule : Rule) :
    (memory.store group).Creates rule ((memory.createRule group rule).store group) := by
  refine ⟨handleOf (memory.issued + 1), ⟨_, Nat.lt_succ_self _, rfl⟩, ?_, ?_⟩
  · funext direction
    unfold store createRule
    simp only [rulesOf_put, List.filter_append, RuleStore.filed]
    by_cases same : direction = rule.direction
    · simp [same, handleOf]
    · simp [same, Ne.symm same]
  · rintro handle ⟨number, later, rfl⟩
    refine ⟨⟨number, Nat.lt_of_succ_lt later, rfl⟩, fun again => ?_⟩
    exact absurd (handleOf_injective again) (Nat.ne_of_gt later)

theorem revokes_revokeRule (memory : Memory) (group : String) (rule : Rule) :
    (memory.store group).Revokes rule ((memory.revokeRule group rule).store group) := by
  refine ⟨fun direction => ?_, fun handle unissued => .inl unissued⟩
  unfold store revokeRule
  simp only [rulesOf_put, List.filter_filter, Bool.and_comm]

/-- The site of a memory whose script makes calls fail at most. -/
def Scripted (site : Site Memory) : Prop := site.world.script.OnlyFails

def storeAt (group : String) (site : Site Memory) : RuleStore := site.world.store group

theorem store_used (memory : Memory) (group : String) (method : Method) :
    (memory.used method).store group = memory.store group := rfl

theorem returns_cloud {call : Call} {before after : Site Memory} {value : call.method.Answer}
    (scripted : Scripted before)
    (returned : (Pass.cloud call).Returns (Site.handler handler) before value after) :
    ((before.world.used call.method).carryOut call).1 = .ok value ∧
      after.world = ((before.world.used call.method).carryOut call).2 := by
  obtain ⟨answered, rfl⟩ := Program.returns_perform.1 returned
  exact handler_of_ok scripted answered

theorem keeps (group : String) :
    Pass.Keeps (Site.handler handler) group Scripted (storeAt group) where
  admits _ scripted := onlyFails_handler scripted _
  describes scripted returned := by
    obtain ⟨answered, left⟩ := returns_cloud scripted returned
    refine ⟨(Except.ok.inj answered).symm, ?_⟩
    unfold storeAt
    rw [left]
    rfl
  creates scripted returned := by
    obtain ⟨_, left⟩ := returns_cloud scripted returned
    unfold storeAt
    rw [left]
    exact creates_createRule _ group _
  revokes scripted _ returned := by
    obtain ⟨_, left⟩ := returns_cloud scripted returned
    unfold storeAt
    rw [left]
    exact revokes_revokeRule _ group _
  looksUpGroup scripted returned := by
    obtain ⟨_, left⟩ := returns_cloud scripted returned
    unfold storeAt
    rw [left]
    rfl
  looksUpInstance scripted returned := by
    obtain ⟨_, left⟩ := returns_cloud scripted returned
    unfold storeAt
    rw [left]
    rfl

theorem atomic (group : String) :
    Pass.Atomic (Site.handler handler) group Scripted (storeAt group) := by
  intro call state failure _ _ answered
  change (handler call state.world).state.store group = state.world.store group
  rw [handler_of_error answered, store_used]

def directoryAt (site : Site Memory) : Pass.Directory where
  groups := Keyed.get? site.world.groups
  instances := Keyed.get? site.world.instances

theorem finds (group : String) :
    Pass.Finds (Site.handler handler) group Scripted directoryAt where
  steady {call state} ofRules _ := by
    change directoryAt { state with world := (handler call state.world).state } = _
    rcases state.world.handler_cases call with ⟨answer, _, result⟩ | result
    · rw [result]
      rfl
    · rw [result]
      rcases ofRules with ⟨⟨⟩ | ⟨⟩ | ⟨⟩⟩ | ⟨⟩ | ⟨⟩ <;> rfl
  groups scripted returned := (Except.ok.inj (returns_cloud scripted returned).1).symm
  instances scripted returned := (Except.ok.inj (returns_cloud scripted returned).1).symm

/-- Nothing is scripted, so every call of a run is answered by the memory itself. -/
def Unscripted (site : Site Memory) : Prop := ∀ method, site.world.script method = []

theorem scripted_of_unscripted {site : Site Memory} (unscripted : Unscripted site) :
    Scripted site := by
  intro method value member
  rw [unscripted method] at member
  cases member

theorem used_of_unscripted {site : Site Memory} (unscripted : Unscripted site) (method : Method) :
    site.world.used method = site.world := by
  have same : site.world.script.set method (site.world.script method).tail = site.world.script := by
    funext other
    by_cases known : method = other
    · subst known
      rw [Script.set_same, unscripted, List.tail_nil]
    · exact Script.set_other _ _ known
  unfold used
  rw [same]

theorem handler_of_unscripted {site : Site Memory} (unscripted : Unscripted site) (call : Call) :
    handler call site.world =
      ⟨(site.world.carryOut call).1, (site.world.carryOut call).2, []⟩ := by
  rcases site.world.handler_cases call with ⟨answer, scripted, _⟩ | result
  · rw [unscripted] at scripted
    cases scripted
  · rw [result, used_of_unscripted unscripted]

theorem quiet_of_unscripted {group : String} {site : Site Memory} (unscripted : Unscripted site)
    {α : Type} {program : Pass.PassProgram α}
    (made : program.Makes (Pass.OnCloud (Pass.RuleCall group))) :
    program.Quiet (Site.handler handler) site := by
  refine Program.quiet_of_makes Unscripted ?_ made unscripted
  rintro op state ⟨call, ofRules, rfl⟩ empty
  have result := handler_of_unscripted empty call
  refine ⟨?_, fun method => ?_⟩
  · change ∃ value, (handler call state.world).answer = .ok value
    rw [result]
    rcases ofRules with ⟨⟨⟩ | ⟨⟩ | ⟨⟩⟩ | ⟨⟩ | ⟨⟩ <;> exact ⟨_, rfl⟩
  · change (handler call state.world).state.script method = []
    rw [result, script_carryOut, empty]

end Memory

end Bastion.Cloud
