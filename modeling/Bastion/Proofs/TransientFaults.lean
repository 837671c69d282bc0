import Bastion.Proofs.Attempts

set_option autoImplicit false

namespace Bastion.Compute

open Program

/-- A call of this kind changes nothing, and does not wait for a change. -/
def Method.reads : Method → Bool
  | .firewallsInsert | .firewallsDelete | .instancesInsert | .instancesAddAccess
  | .operationResult => false
  | _ => true

def Call.method? : Call → Option Method
  | .service _ asked => some asked.method
  | .awaitOperation _ => some .operationResult
  | .sleep _ => none

theorem ServiceCall.reads_method (asked : ServiceCall) : asked.method.reads = !asked.mutates := by
  cases asked <;> rfl

/-- Failures that may pass, two in a row at most, and in the first row as many as are left. -/
def Brief : Nat → List (Option Failure) → Prop
  | _, [] => True
  | _, none :: rest => Brief 2 rest
  | 0, some _ :: _ => False
  | left + 1, some failure :: rest => failure.transient = true ∧ Brief left rest

theorem Brief.mono {fewer more : Nat} {queue : List (Option Failure)} (brief : Brief fewer queue)
    (le : fewer ≤ more) : Brief more queue := by
  induction queue generalizing fewer more with
  | nil => simp only [Brief]
  | cons fault rest ih =>
    cases fault with
    | none =>
      simp only [Brief] at brief ⊢
      exact brief
    | some failure =>
      cases fewer with
      | zero => exact brief.elim
      | succ fewer =>
        obtain ⟨more, rfl⟩ := Nat.exists_eq_succ_of_ne_zero (Nat.ne_zero_of_lt le)
        exact ⟨brief.1, ih brief.2 (Nat.le_of_succ_le_succ le)⟩

theorem Brief.tail {left : Nat} {queue : List (Option Failure)} (brief : Brief left queue)
    (le : left ≤ 2) : Brief 2 queue.tail := by
  cases queue with
  | nil => trivial
  | cons fault rest =>
    cases fault with
    | none =>
      simp only [Brief] at brief
      exact brief
    | some failure =>
      cases left with
      | zero => exact brief.elim
      | succ left => exact brief.2.mono (Nat.le_of_succ_le le)

theorem brief_of_clear {queue : List (Option Failure)} (clear : ∀ fault ∈ queue, fault = none)
    (left : Nat) : Brief left queue := by
  induction queue generalizing left with
  | nil => simp only [Brief]
  | cons fault rest ih =>
    obtain rfl := clear fault List.mem_cons_self
    simp only [Brief]
    exact ih (fun later member => clear later (List.mem_cons_of_mem _ member)) 2

namespace Service

/-- What the next calls of a kind are refused with, or let pass. -/
def queue (service : Service) (method : Method) : List (Option Failure) :=
  (Keyed.get? service.faults method).getD []

theorem takeFault_eq_head (service : Service) (method : Method) :
    (service.takeFault method).1 = (service.queue method).head?.join := by
  unfold takeFault queue
  rcases Keyed.get? service.faults method with _ | _ | ⟨fault, rest⟩ <;> rfl

/-- Of the kind that a fault is taken of there is one less, if there was one. -/
theorem queue_takeFault (service : Service) (taken method : Method) :
    (service.takeFault taken).2.queue method =
      if taken = method then (service.queue method).tail else service.queue method := by
  unfold takeFault
  by_cases same : taken = method
  · subst same
    rw [if_pos rfl]
    rcases held : Keyed.get? service.faults taken with _ | _ | ⟨fault, rest⟩ <;>
      simp only [queue, held, Keyed.get?_put_same, Option.getD_none, Option.getD_some,
        List.tail_nil, List.tail_cons]
  · rw [if_neg same]
    split
    · simp only [queue, Keyed.get?_put_other _ _ (Ne.symm same)]
    · rfl

/-- Reads are refused twice in a row at most, by failures that may pass, and no other call is. -/
structure Flaky (service : Service) : Prop where
  reads : ∀ method, method.reads = true → Brief 2 (service.queue method)
  rest : ∀ method, method.reads = false → ∀ fault ∈ service.queue method, fault = none

variable {service : Service}

theorem queue_carryOut (asked : ServiceCall) (method : Method) :
    (service.carryOut asked).2.queue method = service.queue method :=
  congrArg (fun faults => (Keyed.get? faults method).getD []) (carryOut_faults service asked)

theorem queue_handler (op : Call) (method : Method) :
    (handler op service).state.queue method =
      if op.method? = some method then (service.queue method).tail else service.queue method := by
  cases op with
  | service project asked =>
    have taken := queue_takeFault service asked.method method
    rw [handler_service]
    simp only [Call.method?, Option.some.injEq]
    rw [← taken]
    rcases service.takeFault asked.method with ⟨_ | failure, rest⟩
    · exact queue_carryOut asked method
    · rfl
  | awaitOperation seconds =>
    have taken := queue_takeFault service .operationResult method
    rw [handler_await]
    simp only [Call.method?, Option.some.injEq]
    rw [← taken]
    rcases service.takeFault .operationResult with ⟨_ | failure, rest⟩ <;> rfl
  | sleep seconds => rfl

theorem Flaky.handler (flaky : service.Flaky) (op : Call) : (handler op service).state.Flaky where
  reads method reads := by
    rw [queue_handler]
    split
    · exact (flaky.reads method reads).tail (Nat.le_refl 2)
    · exact flaky.reads method reads
  rest method changes fault member := by
    rw [queue_handler] at member
    split at member
    · exact flaky.rest method changes fault (List.mem_of_mem_tail member)
    · exact flaky.rest method changes fault member

theorem Flaky.transient_of_refused (flaky : service.Flaky) {method : Method} {failure : Failure}
    (reads : method.reads = true) (refused : (service.takeFault method).1 = some failure) :
    failure.transient = true := by
  have brief := flaky.reads method reads
  rw [takeFault_eq_head] at refused
  rcases queued : service.queue method with _ | ⟨fault, rest⟩
  · rw [queued] at refused
    cases refused
  · rw [queued] at refused brief
    obtain rfl : fault = some failure := refused
    exact brief.1

theorem Flaky.clear (flaky : service.Flaky) {method : Method} (changes : method.reads = false) :
    (service.takeFault method).1 = none := by
  rw [takeFault_eq_head]
  cases queued : service.queue method with
  | nil => rfl
  | cons fault rest => exact flaky.rest method changes fault (queued ▸ List.mem_cons_self)

theorem not_transient_of_found {α : Type} {item : Option α} {kind name : String} {failure : Failure}
    (missing : found item kind name = .error failure) : failure.transient = false := by
  cases item <;> cases missing
  rfl

theorem not_transient_of_carryOut {asked : ServiceCall} {failure : Failure}
    (refused : (service.carryOut asked).1 = .error failure) : failure.transient = false := by
  cases asked with
  | getFirewall name => exact not_transient_of_found refused
  | getNetwork name => exact not_transient_of_found refused
  | getSubnetwork region name => exact not_transient_of_found refused
  | insertFirewall spec =>
    change (service.change (service.insertFirewall spec)).1 = _ at refused
    unfold insertFirewall at refused
    split at refused
    · cases refused
      rfl
    · split at refused <;> cases refused
  | deleteFirewall name =>
    change (service.change (service.deleteFirewall name)).1 = _ at refused
    unfold deleteFirewall at refused
    split at refused <;> cases refused
    rfl
  | addAccess zone machine interface access =>
    change (service.change (service.addAccess machine)).1 = _ at refused
    unfold addAccess at refused
    split at refused <;> cases refused
    rfl
  | _ => cases refused

theorem clear_or_queued (service : Service) (method : Method) :
    (service.takeFault method).1 = none ∨
      ∃ failure rest, service.queue method = some failure :: rest := by
  rw [takeFault_eq_head]
  rcases service.queue method with _ | ⟨_ | failure, rest⟩
  · exact .inl rfl
  · exact .inl rfl
  · exact .inr ⟨failure, rest, rfl⟩

/-- A call that is refused for a while is answered with a failure, and that is one fault less. -/
theorem refused_of_queue (asked : ServiceCall) {failure : Failure} {rest : List (Option Failure)}
    (queued : service.queue asked.method = some failure :: rest) (project : String) :
    (handler (.service project asked) service).answer = .error failure ∧
      (handler (.service project asked) service).state.queue asked.method = rest ∧
      (handler (.service project asked) service).state.stock = service.stock := by
  have faulted := takeFault_eq_head service asked.method
  have fewer := (queue_takeFault service asked.method asked.method).trans (if_pos rfl)
  have left := stock_takeFault service asked.method
  rw [queued] at faulted fewer
  rw [handler_service]
  cases taken : service.takeFault asked.method with
  | mk fault after =>
    rw [taken] at faulted fewer left
    obtain rfl : fault = some failure := faulted
    exact ⟨rfl, fewer, left⟩

end Service

/-- Two runs come to the same, but for what is going to be refused later. -/
structure Agree {α : Type} (one other : Except Failure α × Service) : Prop where
  result : one.1 = other.1
  stock : one.2.stock = other.2.stock

variable {α β : Type} {service calm : Service}

theorem agree_bind {program : ComputeProgram α} {next : α → ComputeProgram β}
    (begun : Agree (program.run Service.handler service).outcome
      (program.run Service.handler calm).outcome)
    (goesOn : ∀ value,
      program.Returns Service.handler calm value (program.run Service.handler calm).state →
      Agree ((next value).run Service.handler (program.run Service.handler service).state).outcome
        ((next value).run Service.handler (program.run Service.handler calm).state).outcome) :
    Agree ((program >>= next).run Service.handler service).outcome
      ((program >>= next).run Service.handler calm).outcome := by
  cases ended : (program.run Service.handler calm).result with
  | ok value =>
    rw [outcome_bind_of_returns (returns_of_ok (begun.result.trans ended)),
      outcome_bind_of_returns (returns_of_ok ended)]
    exact goesOn value (returns_of_ok ended)
  | error failure =>
    rw [outcome_bind_of_fails (begun.result.trans ended), outcome_bind_of_fails ended]
    exact ⟨rfl, begun.stock⟩

namespace Service

theorem Faultless.flaky (faultless : service.Faultless) : service.Flaky := by
  have clear : ∀ method, ∀ fault ∈ service.queue method, fault = none := by
    intro method fault member
    unfold queue at member
    cases held : Keyed.get? service.faults method with
    | none =>
      rw [held] at member
      cases member
    | some queue =>
      rw [held] at member
      exact faultless method queue held fault member
  exact ⟨fun method _ => brief_of_clear (clear method) 2, fun method _ => clear method⟩

theorem Flaky.run (flaky : service.Flaky) (program : ComputeProgram α) :
    (program.run Service.handler service).state.Flaky :=
  run_preserves Flaky (fun op _ _ holds => holds.handler op) (makes_any program) flaky

end Service

namespace Account

variable {account : Account} {asked : ServiceCall}
  {judge : Except Failure asked.Answer → Except Failure α}

theorem retrying_reading_of_clear (account : Account) (guarded : asked.guarded = true)
    (judges : asked.Judges judge) (clear : (service.takeFault asked.method).1 = none) (more : Nat) :
    Agree ((retrying more (account.reading asked judge)).run Service.handler service).outcome
      (judge (service.stock.carryOut asked).1, service.stock) := by
  obtain ⟨told, left⟩ := Service.carries_of_clear clear account.project
  rw [Service.carryOut_of_not_mutates _ (ServiceCall.not_mutates_of_guarded guarded)] at left
  have read : ((account.reading asked judge).run Service.handler service).outcome = _ :=
    outcome_reading service
  rw [told] at read
  have final : ∀ failure, ((account.reading asked judge).run Service.handler service).result =
      .error failure → failure.transient = false := by
    intro failure came
    have judged := (congrArg Prod.fst read).symm.trans came
    refine Bool.eq_false_iff.2 fun passes => ?_
    have refused := judges.answer_of_transient judged passes
    exact absurd passes (Bool.eq_false_iff.1 (Service.not_transient_of_carryOut refused))
  rw [(retrying_final final more).1, read]
  exact ⟨rfl, left⟩

/-- A read that is tried as often as it may be refused tells what the service holds. -/
theorem retrying_reading (account : Account) (guarded : asked.guarded = true)
    (judges : asked.Judges judge) {spare : Nat} (brief : Brief spare (service.queue asked.method)) :
    Agree ((retrying spare (account.reading asked judge)).run Service.handler service).outcome
      (judge (service.stock.carryOut asked).1, service.stock) := by
  -- Each refusal takes one attempt and one fault of the row, so the attempts last as long as the row.
  induction spare generalizing service with
  | zero =>
    rcases service.clear_or_queued asked.method with clear | ⟨failure, rest, queued⟩
    · exact retrying_reading_of_clear account guarded judges clear 0
    · rw [queued] at brief
      exact brief.elim
  | succ spare ih =>
    rcases service.clear_or_queued asked.method with clear | ⟨failure, rest, queued⟩
    · exact retrying_reading_of_clear account guarded judges clear (spare + 1)
    · rw [queued] at brief
      obtain ⟨refused, fewer, left⟩ := Service.refused_of_queue asked queued account.project
      have read : ((account.reading asked judge).run Service.handler service).outcome = _ :=
        outcome_reading service
      rw [refused, judges.passes_of_transient brief.1] at read
      rw [(retrying_again Service.wakes read brief.1 spare).1, ← left]
      exact ih (fewer ▸ brief.2)

/-- A call that is let pass on either side, with the same answer. -/
theorem agree_service (asked : ServiceCall) (clear : (service.takeFault asked.method).1 = none)
    (clearCalm : (calm.takeFault asked.method).1 = none) (same : service.stock = calm.stock) :
    Agree ((account.service asked).run Service.handler service).outcome
      ((account.service asked).run Service.handler calm).outcome := by
  obtain ⟨told, left⟩ := Service.carries_of_clear clear account.project
  obtain ⟨toldCalm, leftCalm⟩ := Service.carries_of_clear clearCalm account.project
  rw [outcome_service, outcome_service]
  rw [same] at told left
  exact ⟨told.trans toldCalm.symm, left.trans leftCalm.symm⟩

theorem agree_await (clear : (service.takeFault .operationResult).1 = none)
    (clearCalm : (calm.takeFault .operationResult).1 = none) (same : service.stock = calm.stock) :
    Agree (awaitOperation.run Service.handler service).outcome
      (awaitOperation.run Service.handler calm).outcome := by
  have steady : Service.Steady (.awaitOperation operationSeconds) := trivial
  have left := Service.stock_of_steady steady
  unfold awaitOperation
  rw [outcome_perform, outcome_perform]
  refine ⟨?_, (left service).trans (same.trans (left calm).symm)⟩
  exact (Service.awaits_of_clear clear _).trans (Service.awaits_of_clear clearCalm _).symm

/-- Where all reads are tried again, a run comes to what it would come to if none were refused. -/
theorem Methodical.agree {changes : Nat} {program : ComputeProgram α}
    (methodical : Methodical account False changes program) (flaky : service.Flaky)
    (faultless : calm.Faultless) (same : service.stock = calm.stock) :
    Agree (program.run Service.handler service).outcome
      (program.run Service.handler calm).outcome := by
  induction methodical generalizing service calm with
  | settled settled => rcases settled with ⟨value, rfl⟩ | ⟨error, rfl⟩ <;> exact ⟨rfl, same⟩
  | note line rest ih => exact ih flaky faultless same
  | @read _ asked judge guarded judges =>
    have reads : asked.method.reads = true := by
      rw [asked.reads_method, ServiceCall.not_mutates_of_guarded guarded]
      rfl
    have told := retrying_reading account guarded judges (flaky.reads _ reads)
    have toldCalm := retrying_reading account guarded judges
      (faultless.flaky.reads _ reads)
    rw [same] at told
    exact ⟨told.result.trans toldCalm.result.symm, told.stock.trans toldCalm.stock.symm⟩
  | readOnce region network admitted => exact admitted.elim
  | @change asked mutates =>
    have changes : asked.method.reads = false := by
      rw [asked.reads_method, mutates]
      rfl
    exact agree_service asked (flaky.clear changes) (faultless.takeFault _).1 same
  | wait => exact agree_await (flaky.clear rfl) (faultless.takeFault _).1 same
  | bind early late first later ihFirst ihLater =>
    have begun := ihFirst flaky faultless same
    exact agree_bind begun fun value _ =>
      ihLater value (flaky.run _) (faultless_run _ faultless) begun.stock

end Account

/-- The run comes to the same as the one on a calm service, unless that one lists subnetworks while the
next such read is refused here. Then the failure comes out, and nothing has been changed. -/
structure Exposed {α : Type} (program : ComputeProgram α) (service calm : Service) : Prop where
  absorbs : (service.takeFault .subnetworksList).1 = none ∨
      (∀ op ∈ (program.run Service.handler calm).calls, op.method? ≠ some .subnetworksList) →
    Agree (program.run Service.handler service).outcome (program.run Service.handler calm).outcome
  fails : ∀ failure, (service.takeFault .subnetworksList).1 = some failure →
    (∃ op ∈ (program.run Service.handler calm).calls, op.method? = some .subnetworksList) →
    (program.run Service.handler service).result = .error failure ∧
      (program.run Service.handler service).state.stock = service.stock

/-- A program all of whose reads are tried again does not list subnetworks. -/
theorem Account.Methodical.lists_none {account : Account} {changes : Nat}
    {program : ComputeProgram α} (methodical : account.Methodical False changes program) :
    program.Makes fun op : Call => op.method? ≠ some .subnetworksList := by
  refine methodical.makes.mono fun {op} admitted lists => ?_
  cases admitted with
  | @read project asked guarded => cases asked <;> first | (cases lists; done) | cases guarded
  | readOnce admitted => exact admitted.elim
  | @change project asked mutates left => cases asked <;> first | (cases lists; done) | cases mutates
  | wait seconds => cases lists
  | pause seconds => cases lists

theorem takeFault_of_lists_none {program : ComputeProgram α}
    (none : program.Makes fun op : Call => op.method? ≠ some .subnetworksList) (service : Service) :
    ((program.run Service.handler service).state.takeFault .subnetworksList).1 =
      (service.takeFault .subnetworksList).1 := by
  have kept : (program.run Service.handler service).state.queue .subnetworksList =
      service.queue .subnetworksList := by
    refine run_preserves
      (fun now : Service => now.queue .subnetworksList = service.queue .subnetworksList)
      (fun op now other same => ?_) none rfl
    rw [Service.queue_handler, if_neg other, same]
  rw [Service.takeFault_eq_head, Service.takeFault_eq_head, kept]

namespace Exposed

variable {account : Account} {changes : Nat} {program : ComputeProgram α}
  {next : α → ComputeProgram β}

theorem of_methodical (methodical : account.Methodical False changes program)
    (flaky : service.Flaky) (faultless : calm.Faultless) (same : service.stock = calm.stock) :
    Exposed program service calm where
  absorbs _ := methodical.agree flaky faultless same
  fails failure _ lists := by
    obtain ⟨op, asked, lists⟩ := lists
    exact absurd lists (methodical.lists_none.fits_of_calls asked)

theorem after (first : account.Methodical False 0 program) (flaky : service.Flaky)
    (faultless : calm.Faultless) (same : service.stock = calm.stock)
    (later : ∀ value {one other : Service}, one.Flaky → other.Faultless → one.stock = other.stock →
      Exposed (next value) one other) : Exposed (program >>= next) service calm := by
  have begun := first.agree flaky faultless same
  have queued := takeFault_of_lists_none first.lists_none service
  have left := stock_of_makes first.steady service
  have goesOn (value : α) :=
    later value (flaky.run program) (faultless_run program faultless) begun.stock
  refine ⟨fun spared => ?_, fun failure refused lists => ?_⟩
  · refine agree_bind begun fun value returned => ?_
    refine (goesOn value).absorbs (spared.imp (fun clear => queued.trans clear) ?_)
    intro none op asked
    exact none op (mem_calls_bind.2 (.inr ⟨value, _, returned, asked⟩))
  · obtain ⟨op, asked, lists⟩ := lists
    rcases mem_calls_bind.1 asked with early | ⟨value, between, returned, asked⟩
    · exact absurd lists (first.lists_none.fits_of_calls early)
    · obtain ⟨ended, rfl⟩ := outcome_of_returns returned
      have whole : ((program >>= next).run Service.handler service).outcome = _ :=
        outcome_bind_of_returns (returns_of_ok (begun.result.trans ended))
      obtain ⟨result, stock⟩ :=
        (goesOn value).fails failure (queued.trans refused) ⟨op, asked, lists⟩
      refine ⟨(congrArg Prod.fst whole).trans result, ?_⟩
      exact (congrArg (·.2.stock) whole).trans (stock.trans left)

theorem before (account : Account) (changes : Nat) (exposed : Exposed program service calm)
    (flaky : service.Flaky) (faultless : calm.Faultless)
    (later : ∀ value, account.Methodical False changes (next value)) :
    Exposed (program >>= next) service calm := by
  refine ⟨fun spared => ?_, fun failure refused lists => ?_⟩
  · have begun := exposed.absorbs (spared.imp_right fun none op asked =>
      none op (mem_calls_bind.2 (.inl asked)))
    exact agree_bind begun fun value _ =>
      (later value).agree (flaky.run program) (faultless_run program faultless) begun.stock
  · obtain ⟨op, asked, lists⟩ := lists
    rcases mem_calls_bind.1 asked with early | ⟨value, between, returned, asked⟩
    · obtain ⟨failed, stock⟩ := exposed.fails failure refused ⟨op, early, lists⟩
      have ended : ((program >>= next).run Service.handler service).outcome = _ :=
        outcome_bind_of_fails failed
      exact ⟨congrArg Prod.fst ended, (congrArg (·.2.stock) ended).trans stock⟩
    · exact absurd lists ((later value).lists_none.fits_of_calls asked)

theorem listSubnetworks (account : Account) (faultless : calm.Faultless)
    (same : service.stock = calm.stock) (region network : String) :
    Exposed (account.service (.listSubnetworks region network)) service calm where
  absorbs spared := by
    rcases spared with clear | none
    · exact Account.agree_service _ clear (faultless.takeFault _).1 same
    · exact absurd rfl (none _ List.mem_cons_self)
  fails failure refused _ := by
    have asked := Account.outcome_service account (.listSubnetworks region network) service
    rcases service.clear_or_queued .subnetworksList with clear | ⟨raised, rest, queued⟩
    · cases refused.symm.trans clear
    · rw [Service.takeFault_eq_head, queued] at refused
      obtain rfl := Option.some.inj refused
      obtain ⟨told, _, left⟩ :=
        Service.refused_of_queue (.listSubnetworks region network) queued account.project
      rw [told] at asked
      exact ⟨congrArg Prod.fst asked, (congrArg (·.2.stock) asked).trans left⟩

theorem groupRanges (account : Account) (flaky : service.Flaky) (faultless : calm.Faultless)
    (same : service.stock = calm.stock) (group : String) :
    Exposed (account.groupRanges group) service calm := by
  refine after (account.methodical_anchor False group) flaky faultless same
    fun anchor one other flaky faultless same => ?_
  have listed := listSubnetworks account faultless same account.region anchor.network
  refine before account 0 listed flaky faultless fun subnets => ?_
  split
  · exact .refused _
  · exact .give _

theorem createRule (account : Account) (flaky : service.Flaky) (faultless : calm.Faultless)
    (same : service.stock = calm.stock) (group : String) (rule : Rule) :
    Exposed (account.createRule group rule) service calm := by
  refine after (account.methodical_anchor False group) flaky faultless same
    fun anchor one other flaky faultless same => ?_
  have give (value : List String) : account.Methodical False 0 (pure value) := .give value
  have leads : Exposed (account.destinations rule) one other := by
    unfold Account.destinations
    split
    · exact of_methodical (give _) flaky faultless same
    · exact groupRanges account flaky faultless same _
    · exact of_methodical (give _) flaky faultless same
  exact before account 1 leads flaky faultless fun destinations =>
    account.methodical_change False rfl fun _ => .wait

/-- Only the methods that seek the ranges of a group are exposed. -/
theorem of_procedure (account : Account) (procedure : Procedure) (flaky : service.Flaky)
    (faultless : calm.Faultless) (same : service.stock = calm.stock) :
    Exposed (account.program procedure) service calm := by
  have methodical := account.methodical_program procedure
  cases procedure with
  | groupRanges group => exact groupRanges account flaky faultless same group
  | call request =>
    cases request with
    | createRule direction group rule =>
      have created := createRule account flaky faultless same group rule
      exact before account 0 created flaky faultless fun _ => .give _
    | _ => exact of_methodical methodical flaky faultless same
  | _ => exact of_methodical methodical flaky faultless same

end Exposed

/-- Where no call is refused for a while, no answer to a call says so. -/
theorem Service.Faultless.answers_stay (faultless : service.Faultless) {program : ComputeProgram α}
    {exchange : Exchange signature} {failure : Failure}
    (member : exchange ∈ program.transcript Service.handler service)
    (refused : exchange.answer = .error failure) : failure.transient = false := by
  induction program generalizing service with
  | done value => cases member
  | fail raised => cases member
  | log line rest ih => exact ih _ faultless member
  | call op rest ih =>
    rcases List.mem_cons.1 member with rfl | later
    · cases op with
      | service project asked =>
        exact not_transient_of_carryOut ((faultless.answer project asked).symm.trans refused)
      | awaitOperation seconds => cases (faultless.awaits seconds).symm.trans refused
      | sleep seconds => cases refused
    · exact ih _ (faultless.handler op) later

theorem Account.Methodical.fails_for_good {account : Account} {bare : Prop} {changes : Nat}
    {program : ComputeProgram α} (methodical : account.Methodical bare changes program)
    (faultless : calm.Faultless) {failure : Failure}
    (failed : (program.run Service.handler calm).result = .error failure) :
    failure.transient = false := by
  rcases (methodical.course Service.wakes calm).comes_from failed with
    ⟨error, rfl⟩ | ⟨exchange, member, refused⟩
  · rfl
  · exact faultless.answers_stay member refused

namespace Account

/-- Reads that are refused for a while, twice in a row at most, make no difference to what a method of
`GCPProvider` comes to, but for one. If the next list of subnetworks is refused, and the method gets that
far, then this failure comes out, and all is left as it was. Only the ranges of a group are sought in this
way, by `_group_ranges`. -/
theorem transient_reads_absorbed (account : Account) (procedure : Procedure)
    (flaky : service.Flaky) (faultless : calm.Faultless) (same : service.stock = calm.stock) :
    let run := (account.program procedure).run Service.handler service
    let fair := (account.program procedure).run Service.handler calm
    ((service.takeFault .subnetworksList).1 = none ∨
        (∀ op ∈ fair.calls, op.method? ≠ some .subnetworksList) →
      run.result = fair.result ∧ run.state.stock = fair.state.stock) ∧
    (∀ failure, (service.takeFault .subnetworksList).1 = some failure →
      (∃ op ∈ fair.calls, op.method? = some .subnetworksList) →
      procedure.SeeksRanges ∧ failure.transient = true ∧ run.result = .error failure ∧
        run.result ≠ fair.result ∧ run.state.stock = service.stock) := by
  intro run fair
  have methodical := account.methodical_program procedure
  have exposed := Exposed.of_procedure account procedure flaky faultless same
  refine ⟨fun spared => ?_, fun failure refused lists => ?_⟩
  · obtain ⟨result, stock⟩ := exposed.absorbs spared
    exact ⟨result, stock⟩
  · obtain ⟨failed, stock⟩ := exposed.fails failure refused lists
    have passes : failure.transient = true := flaky.transient_of_refused rfl refused
    refine ⟨?_, passes, failed, fun agrees => ?_, stock⟩
    · obtain ⟨op, asked, lists⟩ := lists
      by_contra seeks
      rw [eq_false seeks] at methodical
      exact methodical.lists_none.fits_of_calls asked lists
    · exact absurd passes (Bool.eq_false_iff.1
        (methodical.fails_for_good faultless (agrees.symm.trans failed)))

/-- The office while its lists are refused now and then. -/
def flakyOffice : Service :=
  { officeService [] with
    faults := [(.firewallsList, [some busy, some busy, none, some busy]),
      (.subnetworksList, [some busy])] }

theorem flakyOffice_flaky : flakyOffice.Flaky where
  reads method _ := by
    cases method with
    | firewallsList => exact ⟨rfl, rfl, rfl, trivial⟩
    | subnetworksList => exact ⟨rfl, trivial⟩
    | _ => trivial
  rest method changes fault member := by
    have none : flakyOffice.queue method = [] := by cases method <;> first | rfl | cases changes
    rw [none] at member
    cases member

theorem transient_reads_absorbed_office :
    let program := officeAccount.program (.call (.createRule .egress officeGroup officeWay))
    let run := program.run Service.handler flakyOffice
    let fair := program.run Service.handler (officeService [])
    fair.result = .ok .null ∧ run.result = .error busy ∧
      run.state.stock = flakyOffice.stock := by
  intro program run fair
  obtain ⟨_, fails⟩ := transient_reads_absorbed officeAccount
    (.call (.createRule .egress officeGroup officeWay)) flakyOffice_flaky (office_faultless []) rfl
  obtain ⟨_, _, failed, _, left⟩ := fails busy rfl
    ⟨.service "project-1" (.listSubnetworks "region-1" "shoot-vpc"), by decide +kernel, rfl⟩
  exact ⟨by decide +kernel, failed, left⟩

end Account

end Bastion.Compute
