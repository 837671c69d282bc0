import Bastion.Compute.Provider
import Bastion.Compute.Service
import Bastion.Proofs.Runs

set_option autoImplicit false

namespace Bastion.Compute

namespace Service

def stock (service : Service) : Service := { service with faults := [] }

theorem firewalls_of_stock {one other : Service} (same : one.stock = other.stock) :
    one.firewalls = other.firewalls := by
  change one.stock.firewalls = other.stock.firewalls
  rw [same]

theorem machines_of_stock {one other : Service} (same : one.stock = other.stock) :
    one.machines = other.machines := by
  change one.stock.machines = other.stock.machines
  rw [same]

theorem machineTypes_of_stock {one other : Service} (same : one.stock = other.stock) :
    one.machineTypes = other.machineTypes := by
  change one.stock.machineTypes = other.stock.machineTypes
  rw [same]

def Faultless (service : Service) : Prop :=
  ∀ method queue, Keyed.get? service.faults method = some queue → ∀ fault ∈ queue, fault = none

/-- A call that changes nothing but which calls are refused next. -/
def Steady : Call → Prop
  | Call.service _ call => call.mutates = false
  | .awaitOperation _ => True
  | .sleep _ => True

theorem stock_takeFault (service : Service) (method : Method) :
    (service.takeFault method).2.stock = service.stock := by
  unfold takeFault
  split <;> rfl

theorem Faultless.takeFault {service : Service} (faultless : service.Faultless) (method : Method) :
    (service.takeFault method).1 = none ∧ (service.takeFault method).2.Faultless := by
  unfold Service.takeFault
  split
  · rename_i fault rest queued
    have clear := faultless method (fault :: rest) queued
    refine ⟨clear fault List.mem_cons_self, ?_⟩
    intro other queue held
    by_cases same : other = method
    · subst same
      change Keyed.get? (Keyed.put service.faults other rest) other = some queue at held
      rw [Keyed.get?_put_same] at held
      cases held
      exact fun later member => clear later (List.mem_cons_of_mem fault member)
    · change Keyed.get? (Keyed.put service.faults method rest) other = some queue at held
      rw [Keyed.get?_put_other _ _ same] at held
      exact faultless other queue held
  · exact ⟨rfl, faultless⟩

theorem change_stock (service : Service) (after : Except Failure Service) :
    (service.change after).1 = (service.stock.change (after.map stock)).1 ∧
      (service.change after).2.stock = (service.stock.change (after.map stock)).2 := by
  cases after <;> exact ⟨rfl, rfl⟩

theorem insertFirewall_stock (service : Service) (spec : FirewallSpec) :
    service.stock.insertFirewall spec = (service.insertFirewall spec).map stock := by
  change (if (service.firewall? spec.name).isSome then _ else if service.losesInserts then _ else _) =
    Except.map stock (if (service.firewall? spec.name).isSome then _ else
      if service.losesInserts then _ else _)
  by_cases taken : (service.firewall? spec.name).isSome = true
  · rw [if_pos taken, if_pos taken]
    rfl
  · by_cases loses : service.losesInserts = true
    · rw [if_neg taken, if_neg taken, if_pos loses, if_pos loses]
      rfl
    · rw [if_neg taken, if_neg taken, if_neg loses, if_neg loses]
      rfl

theorem deleteFirewall_stock (service : Service) (name : String) :
    service.stock.deleteFirewall name = (service.deleteFirewall name).map stock := by
  have found : service.stock.firewall? name = service.firewall? name := rfl
  unfold deleteFirewall
  rw [found]
  cases service.firewall? name <;> rfl

theorem insertMachine_stock (service : Service) (spec : MachineSpec) :
    service.stock.insertMachine spec = (service.insertMachine spec).stock := by
  unfold insertMachine
  change (if service.losesInserts then _ else _) = _
  by_cases loses : service.losesInserts = true
  · rw [if_pos loses, if_pos loses]
  · rw [if_neg loses, if_neg loses]
    rfl

theorem addAccess_stock (service : Service) (name : String) :
    service.stock.addAccess name = (service.addAccess name).map stock := by
  unfold addAccess
  change (if service.machines.any _ then _ else _) = _
  by_cases found : service.machines.any (fun machine => machine.name = name) = true
  · rw [if_pos found, if_pos found]
    rfl
  · rw [if_neg found, if_neg found]
    rfl

theorem carryOut_stock (service : Service) (call : ServiceCall) :
    (service.carryOut call).1 = (service.stock.carryOut call).1 ∧
      (service.carryOut call).2.stock = (service.stock.carryOut call).2 := by
  cases call with
  | insertFirewall spec =>
    have changed := change_stock service (service.insertFirewall spec)
    rw [← insertFirewall_stock] at changed
    exact changed
  | deleteFirewall name =>
    have changed := change_stock service (service.deleteFirewall name)
    rw [← deleteFirewall_stock] at changed
    exact changed
  | insertInstance zone spec => exact ⟨rfl, (insertMachine_stock service spec).symm⟩
  | addAccess zone machine interface access =>
    have changed := change_stock service (service.addAccess machine)
    rw [← addAccess_stock] at changed
    exact changed
  | _ => exact ⟨rfl, rfl⟩

theorem carryOut_faults (service : Service) (asked : ServiceCall) :
    (service.carryOut asked).2.faults = service.faults := by
  cases asked with
  | insertFirewall spec =>
    change (service.change (service.insertFirewall spec)).2.faults = _
    unfold insertFirewall
    split
    · rfl
    · split <;> rfl
  | deleteFirewall name =>
    change (service.change (service.deleteFirewall name)).2.faults = _
    unfold deleteFirewall
    split <;> rfl
  | insertInstance zone spec =>
    change (service.insertMachine spec).faults = _
    unfold insertMachine
    split <;> rfl
  | addAccess zone machine interface access =>
    change (service.change (service.addAccess machine)).2.faults = _
    unfold addAccess
    split <;> rfl
  | _ => rfl

theorem carryOut_of_not_mutates (service : Service) {call : ServiceCall}
    (reads : call.mutates = false) : (service.carryOut call).2 = service := by
  cases call <;> first | rfl | cases reads

theorem handler_service (service : Service) (project : String) (asked : ServiceCall) :
    handler (.service project asked) service =
      match service.takeFault asked.method with
      | (some failure, rest) => ⟨.error failure, rest, []⟩
      | (none, rest) => ⟨(rest.carryOut asked).1, (rest.carryOut asked).2, []⟩ := rfl

theorem handler_await (service : Service) (seconds : Nat) :
    handler (.awaitOperation seconds) service =
      match service.takeFault .operationResult with
      | (some failure, rest) => ⟨.error failure, rest, []⟩
      | (none, rest) => ⟨.ok (), rest, []⟩ := rfl

theorem handler_cases (service : Service) (project : String) (asked : ServiceCall) :
    (∃ failure, (handler (.service project asked) service).answer = .error failure ∧
      (handler (.service project asked) service).state.stock = service.stock) ∨
    ((handler (.service project asked) service).answer = (service.stock.carryOut asked).1 ∧
      (handler (.service project asked) service).state.stock =
        (service.stock.carryOut asked).2) := by
  have left := stock_takeFault service asked.method
  rw [handler_service]
  cases taken : service.takeFault asked.method with
  | mk fault rest =>
    rw [taken] at left
    cases fault with
    | some failure => exact .inl ⟨failure, rfl, left⟩
    | none =>
      have told := carryOut_stock rest asked
      rw [left] at told
      exact .inr told

theorem stock_of_steady {op : Call} (steady : Steady op) (service : Service) :
    (handler op service).state.stock = service.stock := by
  cases op with
  | service project asked =>
    rcases handler_cases service project asked with ⟨_, _, same⟩ | ⟨_, same⟩
    · exact same
    · rw [same, carryOut_of_not_mutates _ steady]
  | awaitOperation seconds =>
    have left := stock_takeFault service .operationResult
    rw [handler_await]
    cases taken : service.takeFault .operationResult with
    | mk fault rest =>
      rw [taken] at left
      cases fault <;> exact left
  | sleep seconds => rfl

theorem Faultless.handler {service : Service} (faultless : service.Faultless) (op : Call) :
    (handler op service).state.Faultless := by
  cases op with
  | service project asked =>
    obtain ⟨clear, left⟩ := faultless.takeFault asked.method
    rw [handler_service]
    cases taken : service.takeFault asked.method with
    | mk fault rest =>
      rw [taken] at clear left
      subst clear
      intro method queue held
      change Keyed.get? (rest.carryOut asked).2.faults method = some queue at held
      rw [carryOut_faults] at held
      exact left method queue held
  | awaitOperation seconds =>
    obtain ⟨_, left⟩ := faultless.takeFault .operationResult
    rw [handler_await]
    cases taken : service.takeFault .operationResult with
    | mk fault rest =>
      rw [taken] at left
      cases fault <;> exact left
  | sleep seconds => exact faultless

theorem carries_of_clear {service : Service} {asked : ServiceCall}
    (clear : (service.takeFault asked.method).1 = none) (project : String) :
    (handler (.service project asked) service).answer = (service.stock.carryOut asked).1 ∧
      (handler (.service project asked) service).state.stock =
        (service.stock.carryOut asked).2 := by
  have left := stock_takeFault service asked.method
  rw [handler_service]
  cases taken : service.takeFault asked.method with
  | mk fault rest =>
    rw [taken] at clear left
    subst clear
    have told := carryOut_stock rest asked
    rw [left] at told
    exact told

theorem Faultless.carries {service : Service} (faultless : service.Faultless) (project : String)
    (asked : ServiceCall) :
    (Service.handler (.service project asked) service).answer = (service.stock.carryOut asked).1 ∧
      (Service.handler (.service project asked) service).state.stock =
        (service.stock.carryOut asked).2 :=
  carries_of_clear (faultless.takeFault asked.method).1 project

theorem Faultless.answer {service : Service} (faultless : service.Faultless) (project : String)
    (asked : ServiceCall) :
    (Service.handler (.service project asked) service).answer =
      (service.stock.carryOut asked).1 :=
  (faultless.carries project asked).1

theorem awaits_of_clear {service : Service}
    (clear : (service.takeFault .operationResult).1 = none) (seconds : Nat) :
    (handler (.awaitOperation seconds) service).answer = .ok () := by
  rw [handler_await]
  cases taken : service.takeFault .operationResult with
  | mk fault rest =>
    rw [taken] at clear
    subst clear
    rfl

theorem Faultless.awaits {service : Service} (faultless : service.Faultless) (seconds : Nat) :
    (Service.handler (.awaitOperation seconds) service).answer = .ok () :=
  awaits_of_clear (faultless.takeFault .operationResult).1 seconds

end Service

open Program

/-- What only asks leaves this view of a state as it is, whatever is refused. -/
def Still {σ κ : Type} (handler : Handler signature σ) (view : σ → κ) : Prop :=
  ∀ op, Service.Steady op → ∀ state, view (handler op state).state = view state

namespace Still

variable {σ κ α : Type} {handler : Handler signature σ} {view : σ → κ}
  {program : ComputeProgram α}

theorem of_makes (still : Still handler view) (made : program.Makes Service.Steady) (state : σ) :
    view (program.run handler state).state = view state := by
  refine run_preserves (fun now => view now = view state) ?_ made rfl
  intro op now steady same
  exact (still op steady now).trans same

theorem of_returns (still : Still handler view) (made : program.Makes Service.Steady)
    {before after : σ} {value : α} (returned : program.Returns handler before value after) :
    view after = view before := by
  rw [← (outcome_of_returns returned).2]
  exact still.of_makes made before

/-- Of several attempts one returned, and those before it changed nothing. -/
theorem returns_retrying (still : Still handler view) {more : Nat}
    (made : program.Makes Service.Steady) {before after : σ} {value : α}
    (returned : (retrying more program).Returns handler before value after) :
    ∃ between, view between = view before ∧ program.Returns handler between value after := by
  induction more generalizing before with
  | zero => exact ⟨before, rfl, returned⟩
  | succ more ih =>
    rcases returns_recover.1 returned with found | ⟨failure, between, failed, handled⟩
    · exact ⟨before, rfl, found⟩
    · have left := still.of_makes made before
      change view (program.run handler before).outcome.2 = view before at left
      rw [failed] at left
      by_cases again : failure.transient = true
      · simp only [again, ↓reduceIte] at handled
        obtain ⟨_, rested, slept, later⟩ := returns_bind.1 handled
        obtain ⟨_, rfl⟩ := returns_perform.1 slept
        obtain ⟨last, same, found⟩ := ih later
        exact ⟨last, same.trans ((still (.sleep retrySeconds) trivial between).trans left), found⟩
      · simp only [again, Bool.false_eq_true, ↓reduceIte] at handled
        exact (returns_fail.1 handled).elim

end Still

theorem Service.still_stock : Still Service.handler Service.stock :=
  fun _ steady service => Service.stock_of_steady steady service

theorem stock_of_makes {α : Type} {program : ComputeProgram α}
    (made : program.Makes Service.Steady) (service : Service) :
    (program.run Service.handler service).state.stock = service.stock :=
  Service.still_stock.of_makes made service

theorem faultless_run {α : Type} (program : ComputeProgram α) {service : Service}
    (faultless : service.Faultless) : (program.run Service.handler service).state.Faultless :=
  run_preserves Service.Faultless (fun op _ _ holds => holds.handler op) (makes_any program)
    faultless

theorem faultless_of_returns {α : Type} {program : ComputeProgram α} {before after : Service}
    {value : α} (faultless : before.Faultless)
    (returned : program.Returns Service.handler before value after) : after.Faultless := by
  rw [← (outcome_of_returns returned).2]
  exact faultless_run program faultless

theorem retried_of_returns {α : Type} {program : ComputeProgram α} {before after : Service}
    {value : α} (returned : program.Returns Service.handler before value after) :
    (retried program).Returns Service.handler before value after :=
  returns_recover.2 (.inl returned)

namespace Account

variable {account : Account} {before after : Service}

theorem returns_service {asked : ServiceCall} {value : asked.Answer}
    (returned : (account.service asked).Returns Service.handler before value after) :
    (before.stock.carryOut asked).1 = .ok value ∧
      after.stock = (before.stock.carryOut asked).2 := by
  obtain ⟨answered, rfl⟩ := returns_perform.1 returned
  rcases Service.handler_cases before account.project asked with ⟨failure, refused, _⟩ | ⟨told, left⟩
  · rw [refused] at answered
    cases answered
  · exact ⟨told.symm.trans answered, left⟩

theorem service_of_faultless (account : Account) (faultless : before.Faultless) {asked : ServiceCall}
    {value : asked.Answer} (told : (before.stock.carryOut asked).1 = .ok value) :
    ∃ after, (account.service asked).Returns Service.handler before value after :=
  ⟨_, returns_perform.2 ⟨(faultless.answer account.project asked).trans told, rfl⟩⟩

theorem outcome_service (account : Account) (asked : ServiceCall) (service : Service) :
    ((account.service asked).run Service.handler service).outcome =
      ((Service.handler (.service account.project asked) service).answer,
        (Service.handler (.service account.project asked) service).state) :=
  outcome_perform (S := signature) (.service account.project asked) service

theorem returns_awaitOperation (returned : awaitOperation.Returns Service.handler before () after) :
    after.stock = before.stock := by
  obtain ⟨_, rfl⟩ := returns_perform.1 returned
  have steady : Service.Steady (.awaitOperation operationSeconds) := trivial
  exact Service.stock_of_steady steady before

theorem await_of_faultless (faultless : before.Faultless) :
    ∃ after, awaitOperation.Returns Service.handler before () after :=
  ⟨_, returns_perform.2 ⟨faultless.awaits operationSeconds, rfl⟩⟩

theorem makes_service {asked : ServiceCall} (reads : asked.mutates = false) :
    (account.service asked).Makes Service.Steady :=
  makes_perform reads

end Account

end Bastion.Compute
