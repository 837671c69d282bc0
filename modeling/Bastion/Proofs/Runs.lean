import Bastion.Program

set_option autoImplicit false

namespace Bastion

variable {S T : Signature} {σ α β : Type}

/-- The result of a run and the world after it, without the calls and the log. -/
def Run.outcome (run : Run S σ α) : Except Failure α × σ := (run.result, run.state)

namespace Program

/-- From `before` the program returns `value` and leaves `after`. -/
def Returns (handler : Handler S σ) (program : Program S α) (before : σ) (value : α)
    (after : σ) : Prop :=
  (program.run handler before).outcome = (.ok value, after)

/-- No call that the program makes from this state is answered with a failure. -/
def Quiet (handler : Handler S σ) : Program S α → σ → Prop
  | .done _, _ => True
  | .fail _, _ => True
  | .log _ rest, state => (rest (.ok ())).Quiet handler state
  | .call op rest, state =>
    (∃ value, (handler op state).answer = .ok value) ∧
      (rest (handler op state).answer).Quiet handler (handler op state).state

/-- Whatever it is answered, the program makes calls of this kind only. -/
def Makes (allowed : S.Op → Prop) : Program S α → Prop
  | .done _ => True
  | .fail _ => True
  | .log _ rest => ∀ answer, (rest answer).Makes allowed
  | .call op rest => allowed op ∧ ∀ answer, (rest answer).Makes allowed

variable {handler : Handler S σ}

theorem outcome_of_returns {program : Program S α} {before after : σ} {value : α}
    (returned : program.Returns handler before value after) :
    (program.run handler before).result = .ok value ∧
      (program.run handler before).state = after :=
  Prod.mk.inj returned

theorem returns_of_ok {program : Program S α} {before : σ} {value : α}
    (success : (program.run handler before).result = .ok value) :
    program.Returns handler before value (program.run handler before).state := by
  simp only [Returns, Run.outcome, success]

theorem returned_unique {program : Program S α} {before first second : σ} {value other : α}
    (returned : program.Returns handler before value first)
    (again : program.Returns handler before other second) : value = other ∧ first = second := by
  obtain ⟨same, left⟩ := Prod.mk.inj (returned.symm.trans again)
  exact ⟨Except.ok.inj same, left⟩

theorem bind_assoc {γ : Type} (program : Program S α) (next : α → Program S β)
    (last : β → Program S γ) :
    program >>= next >>= last = program >>= fun value => next value >>= last := by
  change (program.bind next).bind last = program.bind fun value => (next value).bind last
  induction program with
  | done value => rfl
  | fail failure => rfl
  | log line rest ih => exact congrArg (Program.log line) (funext ih)
  | call op rest ih => exact congrArg (Program.call op) (funext ih)

theorem outcome_bind (program : Program S α) (next : α → Program S β) (state : σ) :
    ((program >>= next).run handler state).outcome =
      match (program.run handler state).outcome with
      | (.ok value, after) => ((next value).run handler after).outcome
      | (.error failure, after) => (.error failure, after) := by
  change ((program.bind next).run handler state).outcome = _
  induction program generalizing state with
  | done value => rfl
  | fail failure => rfl
  | log line rest ih => exact ih _ state
  | call op rest ih => exact ih (handler op state).answer (handler op state).state

theorem outcome_bind_of_returns {program : Program S α} {next : α → Program S β}
    {before between : σ} {value : α} (returned : program.Returns handler before value between) :
    ((program >>= next).run handler before).outcome =
      ((next value).run handler between).outcome := by
  rw [outcome_bind, returned]

theorem outcome_bind_of_fails {program : Program S α} {next : α → Program S β} {before : σ}
    {failure : Failure} (failed : (program.run handler before).result = .error failure) :
    ((program >>= next).run handler before).outcome =
      (.error failure, (program.run handler before).state) := by
  rw [outcome_bind]
  unfold Run.outcome
  rw [failed]

theorem result_bind_of_returns {program : Program S α} {next : α → Program S β}
    {before between : σ} {value : α} (returned : program.Returns handler before value between) :
    ((program >>= next).run handler before).result = ((next value).run handler between).result :=
  congrArg Prod.fst (outcome_bind_of_returns returned)

theorem result_bind_of_fails {program : Program S α} {next : α → Program S β} {before : σ}
    {failure : Failure} (failed : (program.run handler before).result = .error failure) :
    ((program >>= next).run handler before).result = .error failure :=
  congrArg Prod.fst (outcome_bind_of_fails failed)

@[simp] theorem returns_pure {value result : α} {before after : σ} :
    (pure value : Program S α).Returns handler before result after ↔
      value = result ∧ before = after := by
  simp [Returns, Run.outcome, pure, run]

@[simp] theorem returns_fail {failure : Failure} {before after : σ} {value : α} :
    (fail failure : Program S α).Returns handler before value after ↔ False := by
  simp [Returns, Run.outcome, run]

@[simp] theorem returns_info {text : String} {before after : σ} {value : Unit} :
    (info text : Program S Unit).Returns handler before value after ↔ before = after := by
  simp [Returns, Run.outcome, info, run, ofExcept]

@[simp] theorem returns_debug {text : String} {before after : σ} {value : Unit} :
    (debug text : Program S Unit).Returns handler before value after ↔ before = after := by
  simp [Returns, Run.outcome, debug, run, ofExcept]

theorem returns_bind {program : Program S α} {next : α → Program S β} {before after : σ}
    {result : β} :
    (program >>= next).Returns handler before result after ↔
      ∃ value between, program.Returns handler before value between ∧
        (next value).Returns handler between result after := by
  unfold Returns
  rw [outcome_bind]
  rcases (program.run handler before).outcome with ⟨failure | value, between⟩
  · simp
  · constructor
    · intro returned
      exact ⟨value, between, rfl, returned⟩
    · rintro ⟨_, _, same, returned⟩
      obtain ⟨⟨rfl⟩, rfl⟩ := Prod.mk.inj same
      exact returned

theorem Returns.bind {program : Program S α} {next : α → Program S β} {before between after : σ}
    {value : α} {result : β} (first : program.Returns handler before value between)
    (later : (next value).Returns handler between result after) :
    (program >>= next).Returns handler before result after :=
  returns_bind.2 ⟨value, between, first, later⟩

theorem Returns.afterInfo {text : String} {next : Unit → Program S β} {before after : σ} {result : β}
    (later : (next ()).Returns handler before result after) :
    (info text >>= next).Returns handler before result after :=
  Returns.bind (returns_info.2 rfl) later

theorem returns_done (value : α) (state : σ) :
    (pure value : Program S α).Returns handler state value state :=
  returns_pure.2 ⟨rfl, rfl⟩

theorem returns_debug_bind {text : String} {next : Unit → Program S α} {before after : σ}
    {value : α} :
    (debug text >>= next).Returns handler before value after ↔
      (next ()).Returns handler before value after := by
  rw [returns_bind]
  constructor
  · rintro ⟨_, _, told, rest⟩
    obtain rfl := returns_debug.1 told
    exact rest
  · exact fun rest => ⟨(), before, returns_debug.2 rfl, rest⟩

theorem returns_map {change : α → β} {program : Program S α} {before after : σ} {result : β} :
    (change <$> program).Returns handler before result after ↔
      ∃ value, program.Returns handler before value after ∧ change value = result := by
  change (program >>= fun value => pure (change value)).Returns handler before result after ↔ _
  rw [returns_bind]
  constructor
  · rintro ⟨value, between, returned, rest⟩
    obtain ⟨same, rfl⟩ := returns_pure.1 rest
    exact ⟨value, returned, same⟩
  · rintro ⟨value, returned, same⟩
    exact ⟨value, after, returned, returns_pure.2 ⟨same, rfl⟩⟩

/-- What holds where the first program ends, and wherever the next one ends after it returned, holds
where both end. -/
theorem run_bind_ends (invariant : σ → Prop) {program : Program S α} {next : α → Program S β}
    {state : σ} (first : invariant (program.run handler state).state)
    (later : ∀ value after, program.Returns handler state value after →
      invariant ((next value).run handler after).state) :
    invariant ((program >>= next).run handler state).state := by
  change invariant ((program >>= next).run handler state).outcome.2
  rw [outcome_bind]
  cases ended : (program.run handler state).outcome with
  | mk result after =>
    cases result with
    | error failure =>
      change invariant (program.run handler state).outcome.2 at first
      rwa [ended] at first
    | ok value => exact later value after ended

/-- What the first program leaves of an invariant, the next one may start from. -/
theorem run_bind_keeps (invariant : σ → Prop) {program : Program S α} {next : α → Program S β}
    {state : σ} (first : invariant (program.run handler state).state)
    (later : ∀ value after, program.Returns handler state value after → invariant after →
      invariant ((next value).run handler after).state) :
    invariant ((program >>= next).run handler state).state := by
  refine run_bind_ends invariant first fun value after returned => later value after returned ?_
  rw [← (outcome_of_returns returned).2]
  exact first

theorem state_map (change : α → β) (program : Program S α) (state : σ) :
    ((change <$> program).run handler state).state = (program.run handler state).state := by
  refine run_bind_ends (· = (program.run handler state).state) rfl fun value after returned => ?_
  exact (outcome_of_returns returned).2.symm

theorem outcome_ofExcept (answer : Except Failure α) (state : σ) :
    ((ofExcept answer : Program S α).run handler state).outcome = (answer, state) := by
  cases answer <;> rfl

theorem outcome_perform (op : S.Op) (state : σ) :
    ((perform op : Program S _).run handler state).outcome =
      ((handler op state).answer, (handler op state).state) :=
  outcome_ofExcept (handler op state).answer (handler op state).state

theorem state_perform (op : S.Op) (state : σ) :
    ((perform op : Program S _).run handler state).state = (handler op state).state :=
  congrArg Prod.snd (outcome_perform op state)

theorem returns_perform {op : S.Op} {before after : σ} {value : S.Answer op} :
    (perform op).Returns handler before value after ↔
      (handler op before).answer = .ok value ∧ (handler op before).state = after := by
  unfold Returns
  rw [outcome_perform, Prod.mk.injEq]

theorem outcome_recover (program : Program S α) (handle : Failure → Program S α) (state : σ) :
    ((program.recover handle).run handler state).outcome =
      match (program.run handler state).outcome with
      | (.ok value, after) => (.ok value, after)
      | (.error failure, after) => ((handle failure).run handler after).outcome := by
  induction program generalizing state with
  | done value => rfl
  | fail failure => rfl
  | log line rest ih => exact ih _ state
  | call op rest ih => exact ih (handler op state).answer (handler op state).state

theorem returns_recover {program : Program S α} {handle : Failure → Program S α}
    {before after : σ} {value : α} :
    (program.recover handle).Returns handler before value after ↔
      program.Returns handler before value after ∨
        ∃ failure between, (program.run handler before).outcome = (.error failure, between) ∧
          (handle failure).Returns handler between value after := by
  unfold Returns
  rw [outcome_recover]
  rcases (program.run handler before).outcome with ⟨failure | found, between⟩
  · constructor
    · exact fun handled => .inr ⟨failure, between, rfl, handled⟩
    · rintro (absurd | ⟨_, _, same, handled⟩)
      · cases absurd
      · obtain ⟨⟨rfl⟩, rfl⟩ := Prod.mk.inj same
        exact handled
  · constructor
    · exact .inl
    · rintro (returned | ⟨_, _, impossible, _⟩)
      · exact returned
      · cases impossible

theorem outcome_during (operation resource : String) (program : Program S α) (state : σ) :
    ((program.during operation resource).run handler state).outcome =
      (match (program.run handler state).result with
        | .ok value => .ok value
        | .error failure => .error (failure.during operation resource),
        (program.run handler state).state) := by
  unfold during
  rw [outcome_recover]
  unfold Run.outcome
  cases (program.run handler state).result <;> rfl

theorem state_during (operation resource : String) (program : Program S α) (state : σ) :
    ((program.during operation resource).run handler state).state =
      (program.run handler state).state :=
  congrArg Prod.snd (outcome_during operation resource program state)

@[simp] theorem returns_during {operation resource : String} {program : Program S α}
    {before after : σ} {value : α} :
    (program.during operation resource).Returns handler before value after ↔
      program.Returns handler before value after := by
  unfold Returns
  rw [outcome_during]
  unfold Run.outcome
  cases (program.run handler before).result <;> simp

theorem quiet_bind {program : Program S α} {next : α → Program S β} {state : σ} :
    (program >>= next).Quiet handler state ↔
      program.Quiet handler state ∧
        ∀ value after, program.Returns handler state value after →
          (next value).Quiet handler after := by
  change (program.bind next).Quiet handler state ↔ _
  induction program generalizing state with
  | done value =>
    refine ⟨fun quiet => ⟨trivial, ?_⟩, fun both => both.2 value state rfl⟩
    intro other after returned
    obtain ⟨rfl, rfl⟩ := returns_pure.1 returned
    exact quiet
  | fail failure =>
    refine ⟨fun _ => ⟨trivial, ?_⟩, fun _ => trivial⟩
    intro value after returned
    exact (returns_fail.1 returned).elim
  | log line rest ih => exact ih _
  | call op rest ih => exact (and_congr_right fun _ => ih _).trans and_assoc.symm

theorem quiet_recover {program : Program S α} {handle : Failure → Program S α} {state : σ}
    (quiet : (program.recover handle).Quiet handler state) : program.Quiet handler state := by
  induction program generalizing state with
  | done value => trivial
  | fail failure => trivial
  | log line rest ih => exact ih _ quiet
  | call op rest ih => exact ⟨quiet.1, ih _ quiet.2⟩

theorem quiet_perform {op : S.Op} {state : σ} :
    (perform op).Quiet handler state ↔ ∃ value, (handler op state).answer = .ok value := by
  unfold perform
  simp only [Quiet]
  refine ⟨fun both => both.1, fun found => ⟨found, ?_⟩⟩
  obtain ⟨value, answered⟩ := found
  simp only [answered, ofExcept, Quiet]

theorem returns_of_quiet_call {op : S.Op} {operation resource : String} {state : σ}
    (quiet : ((perform op).during operation resource).Quiet handler state) :
    ∃ value, ((perform op).during operation resource).Returns handler state value
      (handler op state).state := by
  obtain ⟨value, answered⟩ := quiet_perform.1 (quiet_recover quiet)
  exact ⟨value, returns_during.2 (returns_perform.2 ⟨answered, rfl⟩)⟩

theorem makes_bind {allowed : S.Op → Prop} {program : Program S α} {next : α → Program S β}
    (first : program.Makes allowed) (second : ∀ value, (next value).Makes allowed) :
    (program >>= next).Makes allowed := by
  change (program.bind next).Makes allowed
  induction program with
  | done value => exact second value
  | fail failure => trivial
  | log line rest ih => exact fun answer => ih answer (first answer)
  | call op rest ih => exact ⟨first.1, fun answer => ih answer (first.2 answer)⟩

theorem makes_recover {allowed : S.Op → Prop} {program : Program S α}
    {handle : Failure → Program S α} (first : program.Makes allowed)
    (second : ∀ failure, (handle failure).Makes allowed) :
    (program.recover handle).Makes allowed := by
  induction program with
  | done value => trivial
  | fail failure => exact second failure
  | log line rest ih => exact fun answer => ih answer (first answer)
  | call op rest ih => exact ⟨first.1, fun answer => ih answer (first.2 answer)⟩

theorem makes_during {allowed : S.Op → Prop} {program : Program S α} {operation resource : String}
    (made : program.Makes allowed) : (program.during operation resource).Makes allowed :=
  makes_recover made fun _ => trivial

theorem makes_any (program : Program S α) : program.Makes fun _ => True := by
  induction program with
  | done value => trivial
  | fail failure => trivial
  | log line rest ih => exact ih
  | call op rest ih => exact ⟨trivial, ih⟩

theorem makes_ofExcept {allowed : S.Op → Prop} (answer : Except Failure α) :
    (ofExcept answer : Program S α).Makes allowed := by
  cases answer <;> trivial

theorem makes_info {allowed : S.Op → Prop} (text : String) : (info text).Makes allowed :=
  makes_ofExcept

theorem makes_debug {allowed : S.Op → Prop} (text : String) : (debug text).Makes allowed :=
  makes_ofExcept

theorem makes_perform {allowed : S.Op → Prop} {op : S.Op} (admitted : allowed op) :
    (perform op).Makes allowed :=
  ⟨admitted, makes_ofExcept⟩

theorem Makes.mono {allowed wider : S.Op → Prop} {program : Program S α}
    (made : program.Makes allowed) (implies : ∀ {op}, allowed op → wider op) :
    program.Makes wider := by
  induction program with
  | done value => trivial
  | fail failure => trivial
  | log line rest ih => exact fun answer => ih answer (made answer)
  | call op rest ih => exact ⟨implies made.1, fun answer => ih answer (made.2 answer)⟩

/-- A program is quiet where every allowed call is answered, and leaves a state in which it is again. -/
theorem quiet_of_makes {allowed : S.Op → Prop} (invariant : σ → Prop)
    (step : ∀ op state, allowed op → invariant state →
      (∃ value, (handler op state).answer = .ok value) ∧ invariant (handler op state).state)
    {program : Program S α} (made : program.Makes allowed) {state : σ}
    (holds : invariant state) : program.Quiet handler state := by
  induction program generalizing state with
  | done value => trivial
  | fail failure => trivial
  | log line rest ih => exact ih _ (made _) holds
  | call op rest ih =>
    obtain ⟨answered, kept⟩ := step op state made.1 holds
    exact ⟨answered, ih (handler op state).answer (made.2 _) kept⟩

/-- What every allowed call preserves, a run preserves up to wherever it ends. -/
theorem run_preserves {allowed : S.Op → Prop} (invariant : σ → Prop)
    (step : ∀ op state, allowed op → invariant state → invariant (handler op state).state)
    {program : Program S α} (made : program.Makes allowed) {state : σ}
    (holds : invariant state) : invariant (program.run handler state).state := by
  induction program generalizing state with
  | done value => exact holds
  | fail failure => exact holds
  | log line rest ih => exact ih _ (made _) holds
  | call op rest ih =>
    exact ih (handler op state).answer (made.2 _) (step op state made.1 holds)

end Program

end Bastion
