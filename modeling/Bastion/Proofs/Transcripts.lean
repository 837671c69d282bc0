import Bastion.Proofs.Runs

set_option autoImplicit false

/- What a program and the world say to each other: its calls and their answers, in their order. A program
is specified by the transcripts of its full courses; a run that is cut short has begun one of them. -/
namespace Bastion

structure Exchange (S : Signature) where
  op : S.Op
  answer : Except Failure (S.Answer op)

variable {S : Signature} {σ α β : Type}

/-- All is as in the full course but the last answer, after which the course may have ended. -/
structure Begins (told course : List (Exchange S)) : Prop where
  asked : told.map Exchange.op <+: course.map Exchange.op
  answered : told.dropLast <+: course

namespace Begins

variable {told course first : List (Exchange S)}

theorem nil (course : List (Exchange S)) : Begins [] course :=
  ⟨List.nil_prefix, List.nil_prefix⟩

theorem append_right (begun : Begins told course) (later : List (Exchange S)) :
    Begins told (course ++ later) := by
  refine ⟨?_, begun.answered.trans (List.prefix_append _ _)⟩
  rw [List.map_append]
  exact begun.asked.trans (List.prefix_append _ _)

theorem append_left (begun : Begins told course) (first : List (Exchange S)) :
    Begins (first ++ told) (first ++ course) := by
  refine ⟨?_, ?_⟩
  · rw [List.map_append, List.map_append]
    exact (List.prefix_append_right_inj _).2 begun.asked
  · cases told with
    | nil =>
      rw [List.append_nil]
      exact (List.dropLast_prefix first).trans (List.prefix_append _ _)
    | cons exchange rest =>
      rw [List.dropLast_append_of_ne_nil (List.cons_ne_nil _ _)]
      exact (List.prefix_append_right_inj _).2 begun.answered

/-- A first call may have been the last one, and so answered otherwise. -/
theorem single (op : S.Op) (answer other : Except Failure (S.Answer op))
    (later : List (Exchange S)) : Begins [⟨op, answer⟩] (⟨op, other⟩ :: later) :=
  ⟨⟨later.map Exchange.op, rfl⟩, List.nil_prefix⟩

/-- Before any call that was made, all was said as in the full course, and that call is its next. -/
theorem split {early later : List (Exchange S)} {exchange : Exchange S}
    (begun : Begins (early ++ exchange :: later) course) :
    ∃ same rest, course = early ++ same :: rest ∧ same.op = exchange.op := by
  have told := begun.answered
  rw [List.dropLast_append_of_ne_nil (List.cons_ne_nil _ _)] at told
  obtain ⟨rest, rfl⟩ := (List.prefix_append _ _).trans told
  have asked := begun.asked
  rw [List.map_append, List.map_append, List.prefix_append_right_inj] at asked
  obtain ⟨last, ends⟩ := asked
  cases rest with
  | nil => cases ends
  | cons same rest => exact ⟨same, rest, rfl, (List.cons.inj ends).1.symm⟩

end Begins

namespace Program

def transcript (handler : Handler S σ) : Program S α → σ → List (Exchange S)
  | .done _, _ => []
  | .fail _, _ => []
  | .log _ rest, state => (rest (.ok ())).transcript handler state
  | .call op rest, state =>
    let step := handler op state
    ⟨op, step.answer⟩ :: (rest step.answer).transcript handler step.state

/-- No call is made. -/
def Silent : Program S α → Prop
  | .done _ => True
  | .fail _ => True
  | .log _ rest => ∀ answer, (rest answer).Silent
  | .call _ _ => False

variable {handler : Handler S σ}

theorem calls_eq_transcript (program : Program S α) (state : σ) :
    (program.run handler state).calls = (program.transcript handler state).map Exchange.op := by
  induction program generalizing state with
  | done value => rfl
  | fail failure => rfl
  | log line rest ih => exact ih _ state
  | call op rest ih => exact congrArg (op :: ·) (ih _ _)

theorem transcript_bind_of_returns {program : Program S α} {next : α → Program S β}
    {before between : σ} {value : α} (returned : program.Returns handler before value between) :
    (program >>= next).transcript handler before =
      program.transcript handler before ++ (next value).transcript handler between := by
  change (program.bind next).transcript handler before = _
  induction program generalizing before with
  | done other =>
    obtain ⟨rfl, rfl⟩ := returns_pure.1 returned
    rfl
  | fail failure => exact (returns_fail.1 returned).elim
  | log line rest ih => exact ih _ returned
  | call op rest ih => exact congrArg (_ :: ·) (ih _ returned)

theorem calls_bind_of_returns {program : Program S α} {next : α → Program S β}
    {before between : σ} {value : α} (returned : program.Returns handler before value between) :
    ((program >>= next).run handler before).calls =
      (program.run handler before).calls ++ ((next value).run handler between).calls := by
  simp only [calls_eq_transcript]
  rw [transcript_bind_of_returns returned, List.map_append]

theorem transcript_bind_of_fails {program : Program S α} {next : α → Program S β} {state : σ}
    {failure : Failure} (failed : (program.run handler state).result = .error failure) :
    (program >>= next).transcript handler state = program.transcript handler state := by
  change (program.bind next).transcript handler state = _
  induction program generalizing state with
  | done value => cases failed
  | fail other => rfl
  | log line rest ih => exact ih _ failed
  | call op rest ih => exact congrArg (_ :: ·) (ih _ failed)

theorem transcript_ofExcept (answer : Except Failure α) (state : σ) :
    (ofExcept answer : Program S α).transcript handler state = [] := by
  cases answer <;> rfl

theorem transcript_recover (program : Program S α) (handle : Failure → Program S α) (state : σ) :
    (program.recover handle).transcript handler state =
      program.transcript handler state ++
        match (program.run handler state).outcome with
        | (.ok _, _) => []
        | (.error failure, after) => (handle failure).transcript handler after := by
  induction program generalizing state with
  | done value => rfl
  | fail failure => rfl
  | log line rest ih => exact ih _ state
  | call op rest ih => exact congrArg (_ :: ·) (ih _ _)

theorem transcript_during (operation resource : String) (program : Program S α) (state : σ) :
    (program.during operation resource).transcript handler state =
      program.transcript handler state := by
  unfold during
  induction program generalizing state with
  | done value => rfl
  | fail failure => rfl
  | log line rest ih => exact ih _ state
  | call op rest ih => exact congrArg (_ :: ·) (ih _ _)

theorem transcript_perform (op : S.Op) (state : σ) :
    (perform op).transcript handler state = [⟨op, (handler op state).answer⟩] :=
  congrArg (_ :: ·) (transcript_ofExcept _ _)

theorem transcript_perform_of_returns {op : S.Op} {before after : σ} {answer : S.Answer op}
    (returned : (perform op).Returns handler before answer after) :
    (perform op).transcript handler before = [⟨op, .ok answer⟩] := by
  rw [transcript_perform, (returns_perform.1 returned).1]

theorem Silent.transcript {program : Program S α} (silent : program.Silent) (state : σ) :
    program.transcript handler state = [] := by
  induction program with
  | done value => rfl
  | fail failure => rfl
  | log line rest ih => exact ih _ (silent _)
  | call op rest => exact silent.elim

theorem Silent.calls {program : Program S α} (silent : program.Silent) (state : σ) :
    (program.run handler state).calls = [] :=
  (calls_eq_transcript program state).trans (congrArg _ (silent.transcript state))

theorem silent_bind {program : Program S α} {next : α → Program S β} (first : program.Silent)
    (second : ∀ value, (next value).Silent) : (program >>= next).Silent := by
  change (program.bind next).Silent
  induction program with
  | done value => exact second value
  | fail failure => trivial
  | log line rest ih => exact fun answer => ih answer (first answer)
  | call op rest => exact first.elim

theorem silent_ofExcept (answer : Except Failure α) : (ofExcept answer : Program S α).Silent := by
  cases answer <;> trivial

theorem silent_info (text : String) : (info text : Program S Unit).Silent := silent_ofExcept

/-- From `before` the program comes to this result by these calls, and leaves `after`. -/
structure Fares (handler : Handler S σ) (program : Program S α) (before : σ)
    (result : Except Failure α) (calls : List S.Op) (after : σ) : Prop where
  outcome : (program.run handler before).outcome = (result, after)
  calls : (program.run handler before).calls = calls

theorem fares_of_silent {program : Program S α} (silent : program.Silent) {before after : σ}
    {result : Except Failure α} (outcome : (program.run handler before).outcome = (result, after)) :
    program.Fares handler before result [] after :=
  ⟨outcome, silent.calls before⟩

theorem fares_perform {op : S.Op} {before : σ} {answer : S.Answer op}
    (answered : (handler op before).answer = .ok answer) :
    (perform op).Fares handler before (.ok answer) [op] (handler op before).state := by
  refine ⟨returns_perform.2 ⟨answered, rfl⟩, (calls_eq_transcript _ _).trans ?_⟩
  rw [transcript_perform]
  rfl

theorem Fares.bind {program : Program S α} {next : α → Program S β} {before between after : σ}
    {value : α} {result : Except Failure β} {first second : List S.Op}
    (fares : program.Fares handler before (.ok value) first between)
    (later : (next value).Fares handler between result second after) :
    (program >>= next).Fares handler before result (first ++ second) after := by
  constructor
  case outcome => exact (outcome_bind_of_returns fares.outcome).trans later.outcome
  case calls => rw [calls_bind_of_returns fares.outcome, fares.calls, later.calls]

theorem Fares.map {program : Program S α} {before after : σ} {value : α} {calls : List S.Op}
    (fares : program.Fares handler before (.ok value) calls after) (change : α → β) :
    (change <$> program).Fares handler before (.ok (change value)) calls after := by
  have given : (pure (change value) : Program S β).Fares handler after (.ok (change value)) [] after :=
    ⟨rfl, rfl⟩
  rw [← List.append_nil calls]
  exact fares.bind given

theorem Makes.fits_of_mem {allowed : S.Op → Prop} {program : Program S α}
    (made : program.Makes allowed) {state : σ} {exchange : Exchange S}
    (member : exchange ∈ program.transcript handler state) : allowed exchange.op := by
  induction program generalizing state with
  | done value => cases member
  | fail failure => cases member
  | log line rest ih => exact ih _ (made _) member
  | call op rest ih =>
    rcases List.mem_cons.1 member with rfl | later
    · exact made.1
    · exact ih _ (made.2 _) later

theorem mem_calls_bind {program : Program S α} {next : α → Program S β} {state : σ} {op : S.Op} :
    op ∈ ((program >>= next).run handler state).calls ↔
      op ∈ (program.run handler state).calls ∨
        ∃ value between, program.Returns handler state value between ∧
          op ∈ ((next value).run handler between).calls := by
  simp only [calls_eq_transcript]
  cases ended : (program.run handler state).result with
  | ok value =>
    have returned := returns_of_ok ended
    rw [transcript_bind_of_returns returned, List.map_append, List.mem_append]
    refine or_congr_right ⟨fun made => ⟨value, _, returned, made⟩, ?_⟩
    rintro ⟨other, between, again, made⟩
    obtain ⟨rfl, rfl⟩ := returned_unique returned again
    exact made
  | error failure =>
    rw [transcript_bind_of_fails ended, or_iff_left]
    rintro ⟨value, between, returned, _⟩
    cases ended.symm.trans (outcome_of_returns returned).1

theorem Makes.fits_of_calls {allowed : S.Op → Prop} {program : Program S α}
    (made : program.Makes allowed) {state : σ} {op : S.Op}
    (asked : op ∈ (program.run handler state).calls) : allowed op := by
  rw [calls_eq_transcript] at asked
  obtain ⟨exchange, member, rfl⟩ := List.mem_map.1 asked
  exact made.fits_of_mem member

/-- Wherever a run starts, it begins one of these courses. -/
def Opens (handler : Handler S σ) (program : Program S α)
    (course : List (Exchange S) → Prop) : Prop :=
  ∀ state, ∃ full, course full ∧ Begins (program.transcript handler state) full

/-- A run that returns has taken a full course for its value, and any other run has begun one. -/
structure Speaks (handler : Handler S σ) (program : Program S α)
    (course : α → List (Exchange S) → Prop) : Prop where
  opens : program.Opens handler fun full => ∃ value, course value full
  full : ∀ {before after value}, program.Returns handler before value after →
    course value (program.transcript handler before)

variable {program : Program S α} {next : α → Program S β}

theorem opens_of_silent {course : List (Exchange S) → Prop} (silent : program.Silent)
    (usual : ∃ full, course full) : program.Opens handler course := by
  intro state
  obtain ⟨full, fits⟩ := usual
  refine ⟨full, fits, ?_⟩
  rw [silent.transcript]
  exact .nil full

theorem speaks_of_silent [Inhabited α] (silent : program.Silent) :
    program.Speaks handler fun _ full => full = [] :=
  ⟨opens_of_silent silent ⟨[], default, rfl⟩, fun _ => silent.transcript _⟩

theorem speaks_pure (value : α) :
    (pure value : Program S α).Speaks handler fun result full => result = value ∧ full = [] :=
  ⟨opens_of_silent trivial ⟨[], value, rfl, rfl⟩,
    fun returned => ⟨(returns_pure.1 returned).1.symm, rfl⟩⟩

theorem speaks_log {line : LogLine} {next : Except Failure Unit → Program S α}
    {course : α → List (Exchange S) → Prop} (speaks : (next (.ok ())).Speaks handler course) :
    (Program.log line next).Speaks handler course :=
  ⟨speaks.opens, speaks.full⟩

theorem Speaks.opens_bind {first : α → List (Exchange S) → Prop}
    (speaks : program.Speaks handler first) (second : α → List (Exchange S) → Prop)
    (later : ∀ value, (next value).Opens handler (second value)) :
    (program >>= next).Opens handler fun full =>
      ∃ value one two, first value one ∧ second value two ∧ full = one ++ two := by
  intro state
  cases ended : (program.run handler state).result with
  | ok value =>
    have returned := returns_of_ok ended
    obtain ⟨two, fits, begun⟩ := later value (program.run handler state).state
    refine ⟨_, ⟨value, _, two, speaks.full returned, fits, rfl⟩, ?_⟩
    rw [transcript_bind_of_returns returned]
    exact begun.append_left _
  | error failure =>
    obtain ⟨one, ⟨value, fits⟩, begun⟩ := speaks.opens state
    obtain ⟨two, fitsLater, _⟩ := later value state
    refine ⟨_, ⟨value, one, two, fits, fitsLater, rfl⟩, ?_⟩
    rw [transcript_bind_of_fails ended]
    exact begun.append_right two

theorem Opens.mono {course wider : List (Exchange S) → Prop} (opens : program.Opens handler course)
    (implies : ∀ {full}, course full → wider full) : program.Opens handler wider := by
  intro state
  obtain ⟨full, fits, begun⟩ := opens state
  exact ⟨full, implies fits, begun⟩

theorem Speaks.mono {course wider : α → List (Exchange S) → Prop}
    (speaks : program.Speaks handler course)
    (implies : ∀ {value full}, course value full → wider value full) :
    program.Speaks handler wider :=
  ⟨speaks.opens.mono fun fits => ⟨fits.choose, implies fits.choose_spec⟩,
    fun returned => implies (speaks.full returned)⟩

theorem Speaks.bind {first : α → List (Exchange S) → Prop}
    {second : α → β → List (Exchange S) → Prop} (speaks : program.Speaks handler first)
    (later : ∀ value, (next value).Speaks handler (second value)) :
    (program >>= next).Speaks handler fun result full =>
      ∃ value one two, first value one ∧ second value result two ∧ full = one ++ two := by
  refine ⟨(speaks.opens_bind _ fun value => (later value).opens).mono ?_, fun returned => ?_⟩
  · rintro _ ⟨value, one, two, fits, ⟨result, fitsLater⟩, rfl⟩
    exact ⟨result, value, one, two, fits, fitsLater, rfl⟩
  · obtain ⟨value, between, found, rest⟩ := returns_bind.1 returned
    exact ⟨value, _, _, speaks.full found, (later value).full rest,
      transcript_bind_of_returns found⟩

/-- What makes no call of its own adds nothing to the courses before it. -/
theorem Speaks.bind_silent [Inhabited β] {first : α → List (Exchange S) → Prop}
    (speaks : program.Speaks handler first) (silent : ∀ value, (next value).Silent) :
    (program >>= next).Speaks handler fun _ full => ∃ value, first value full := by
  refine (speaks.bind fun value => speaks_of_silent (silent value)).mono ?_
  rintro _ _ ⟨value, one, _, fits, rfl, rfl⟩
  rw [List.append_nil]
  exact ⟨value, fits⟩

theorem transcript_call (op : S.Op) (operation resource : String) (next : S.Answer op → Program S α)
    (state : σ) :
    ((perform op).during operation resource >>= next).transcript handler state =
      ⟨op, (handler op state).answer⟩ ::
        match (handler op state).answer with
        | .ok answer => (next answer).transcript handler (handler op state).state
        | .error _ => [] := by
  have asked : ((perform op).during operation resource).transcript handler state =
      [⟨op, (handler op state).answer⟩] := by
    rw [transcript_during, transcript_perform]
  cases answered : (handler op state).answer with
  | ok answer =>
    have returned : ((perform op).during operation resource).Returns handler state answer
        (handler op state).state := returns_during.2 (returns_perform.2 ⟨answered, rfl⟩)
    rw [transcript_bind_of_returns returned, asked, answered]
    rfl
  | error failure =>
    have failed : (((perform op).during operation resource).run handler state).result =
        .error (failure.during operation resource) := by
      have asked : ((perform op).run handler state).result = .error failure :=
        (congrArg Prod.fst (outcome_perform op state)).trans answered
      refine (congrArg Prod.fst (outcome_during operation resource (perform op) state)).trans ?_
      rw [asked]
    rw [transcript_bind_of_fails failed, asked, answered]

/-- A course goes on after some answers to a call, and with any other no more is said. -/
theorem opens_call (op : S.Op) {operation resource : String} {next : S.Answer op → Program S α}
    {course : List (Exchange S) → Prop} (usual : ∃ answer later, course (⟨op, answer⟩ :: later))
    (goes : ∀ answer, (next answer).Silent ∨
      (next answer).Opens handler fun later => course (⟨op, .ok answer⟩ :: later)) :
    ((perform op).during operation resource >>= next).Opens handler course := by
  intro state
  rw [transcript_call]
  obtain ⟨other, rest, fits⟩ := usual
  cases (handler op state).answer with
  | error failure => exact ⟨_, fits, .single op _ other rest⟩
  | ok answer =>
    rcases goes answer with silent | opens
    · change ∃ full, course full ∧ Begins (_ :: (next answer).transcript handler _) full
      rw [silent.transcript]
      exact ⟨_, fits, .single op _ other rest⟩
    · obtain ⟨later, fits, begun⟩ := opens (handler op state).state
      exact ⟨_, fits, begun.append_left [_]⟩

/-- After some answers to a call a course goes on to its value, and with any other it has failed. -/
theorem speaks_call (op : S.Op) {operation resource : String} {next : S.Answer op → Program S α}
    {course : α → List (Exchange S) → Prop}
    (usual : ∃ value answer later, course value (⟨op, answer⟩ :: later))
    (goes : ∀ answer, (∃ failure, next answer = .fail failure) ∨
      (next answer).Speaks handler fun value later => course value (⟨op, .ok answer⟩ :: later)) :
    ((perform op).during operation resource >>= next).Speaks handler course := by
  refine ⟨opens_call op ?_ fun answer => ?_, fun {before after value} returned => ?_⟩
  · obtain ⟨value, answer, later, fits⟩ := usual
    exact ⟨answer, later, value, fits⟩
  · rcases goes answer with ⟨failure, failed⟩ | speaks
    · rw [failed]
      exact .inl trivial
    · exact .inr speaks.opens
  · obtain ⟨answer, between, asked, rest⟩ := returns_bind.1 returned
    obtain ⟨answered, rfl⟩ := returns_perform.1 (returns_during.1 asked)
    rw [transcript_call, answered]
    rcases goes answer with ⟨failure, failed⟩ | speaks
    · rw [failed] at rest
      exact (returns_fail.1 rest).elim
    · exact speaks.full rest

end Program

end Bastion
