import Bastion.Proofs.Carriers

set_option autoImplicit false

namespace Bastion

variable {S T : Signature} {σ α β : Type} {journal : Journal}

theorem Journal.take_of_takes {line : LogLine} (takes : journal.Takes line) :
    journal.take line = .ok () := by
  unfold take
  rw [takes]

theorem Journal.take_error {line : LogLine} {failure : Failure} :
    journal.take line = .error failure ↔
      ∃ message, journal.refusal? line = some message ∧ failure = .unrendered message := by
  unfold take
  cases journal.refusal? line with
  | none => simp
  | some message => simp [eq_comm]

def Journal.tagless : Journal :=
  ⟨fun line => if Text.contains "[/" line.text then some "closing tag has nothing to close" else none⟩

/-- The failure is the refusal of one of the lines. -/
def Journal.Refuses (journal : Journal) (lines : List LogLine) (failure : Failure) : Prop :=
  ∃ line ∈ lines, ∃ message, journal.refusal? line = some message ∧ failure = .unrendered message

namespace Journal.Refuses

variable {lines : List LogLine} {failure : Failure}

theorem cons (refuses : journal.Refuses lines failure) (line : LogLine) :
    journal.Refuses (line :: lines) failure := by
  obtain ⟨refused, member, rest⟩ := refuses
  exact ⟨refused, List.mem_cons_of_mem line member, rest⟩

theorem append_left (refuses : journal.Refuses lines failure) (early : List LogLine) :
    journal.Refuses (early ++ lines) failure := by
  obtain ⟨refused, member, rest⟩ := refuses
  exact ⟨refused, List.mem_append_right early member, rest⟩

end Journal.Refuses

namespace Program

theorem loggedTo_bind (program : Program S α) (next : α → Program S β) :
    (program >>= next).loggedTo journal =
      program.loggedTo journal >>= fun value => (next value).loggedTo journal := by
  change (program.bind next).loggedTo journal = (program.loggedTo journal).bind _
  induction program with
  | done value => rfl
  | fail failure => rfl
  | log line rest ih => exact congrArg (Program.log line) (funext fun _ => ih _)
  | call op rest ih => exact congrArg (Program.call op) (funext ih)

theorem loggedTo_map (change : α → β) (program : Program S α) :
    (change <$> program).loggedTo journal = change <$> program.loggedTo journal :=
  loggedTo_bind program fun value => pure (change value)

theorem loggedTo_recover (program : Program S α) (handle : Failure → Program S α) :
    (program.recover handle).loggedTo journal =
      (program.loggedTo journal).recover fun failure => (handle failure).loggedTo journal := by
  induction program with
  | done value => rfl
  | fail failure => rfl
  | log line rest ih => exact congrArg (Program.log line) (funext fun _ => ih _)
  | call op rest ih => exact congrArg (Program.call op) (funext ih)

theorem loggedTo_during (operation resource : String) (program : Program S α) :
    (program.during operation resource).loggedTo journal =
      (program.loggedTo journal).during operation resource :=
  loggedTo_recover program _

theorem loggedTo_attempt (program : Program S α) :
    program.attempt.loggedTo journal = (program.loggedTo journal).attempt := by
  induction program with
  | done value => rfl
  | fail failure => rfl
  | log line rest ih => exact congrArg (Program.log line) (funext fun _ => ih _)
  | call op rest ih => exact congrArg (Program.call op) (funext ih)

theorem loggedTo_ofExcept (answer : Except Failure α) :
    (ofExcept answer : Program S α).loggedTo journal = ofExcept answer := by
  cases answer <;> rfl

theorem loggedTo_perform (op : S.Op) :
    (perform op).loggedTo journal = (perform op : Program S _) :=
  congrArg (Program.call op) (funext loggedTo_ofExcept)

theorem loggedTo_embed (program : Program S α) :
    program.embed.loggedTo journal = (program.loggedTo journal).embed := by
  induction program with
  | done value => rfl
  | fail failure => rfl
  | log line rest ih => exact congrArg (Program.log line) (funext fun _ => ih _)
  | call op rest ih =>
    exact congrArg (Program.call (S := S.withStatus) (.other op)) (funext ih)

theorem loggedTo_callsBy (carryOut : (op : S.Op) → Program T (S.Answer op)) (program : Program S α) :
    (program.callsBy carryOut).loggedTo journal =
      (program.loggedTo journal).callsBy fun op => (carryOut op).loggedTo journal := by
  induction program with
  | done value => rfl
  | fail failure => rfl
  | log line rest ih => exact congrArg (Program.log line) (funext fun _ => ih _)
  | call op rest ih =>
    refine (loggedTo_bind (carryOut op).attempt _).trans ?_
    rw [loggedTo_attempt]
    exact congrArg ((carryOut op).loggedTo journal).attempt.bind (funext ih)

theorem loggedTo_callsBesideStatusBy (carryOut : (op : S.Op) → Program T (S.Answer op))
    (program : Program S.withStatus α) :
    (program.callsBesideStatusBy carryOut).loggedTo journal =
      (program.loggedTo journal).callsBesideStatusBy fun op => (carryOut op).loggedTo journal := by
  unfold callsBesideStatusBy
  rw [loggedTo_callsBy]
  congr 1
  funext op
  cases op with
  | other op => exact loggedTo_embed (carryOut op)
  | patchStatus name patch => exact loggedTo_perform (S := T.withStatus) (.patchStatus name patch)

theorem Makes.loggedTo {allowed : S.Op → Prop} {program : Program S α}
    (made : program.Makes allowed) : (program.loggedTo journal).Makes allowed := by
  induction program with
  | done value => trivial
  | fail failure => trivial
  | log line rest ih => exact fun _ => ih _ (made _)
  | call op rest ih => exact ⟨made.1, fun answer => ih answer (made.2 answer)⟩

variable {handler : Handler S σ}

theorem run_silent (program : Program S α) (state : σ) :
    (program.loggedTo .silent).run handler state = program.run handler state := by
  induction program generalizing state with
  | done value => rfl
  | fail failure => rfl
  | log line rest ih =>
    exact congrArg (fun run => { run with log := line :: run.log }) (ih _ state)
  | call op rest ih =>
    exact congrArg (fun run => { run with
      calls := op :: run.calls, log := (handler op state).log ++ run.log }) (ih _ _)

/-- No line is logged. -/
def Logless : Program S α → Prop
  | .done _ => True
  | .fail _ => True
  | .log _ _ => False
  | .call _ rest => ∀ answer, (rest answer).Logless

theorem Logless.bind {program : Program S α} {next : α → Program S β} (first : program.Logless)
    (second : ∀ value, (next value).Logless) : (program >>= next).Logless := by
  change (program.bind next).Logless
  induction program with
  | done value => exact second value
  | fail failure => trivial
  | log line rest => exact first.elim
  | call op rest ih => exact fun answer => ih answer (first answer)

theorem Logless.recover {program : Program S α} {handle : Failure → Program S α}
    (first : program.Logless) (second : ∀ failure, (handle failure).Logless) :
    (program.recover handle).Logless := by
  induction program with
  | done value => trivial
  | fail failure => exact second failure
  | log line rest => exact first.elim
  | call op rest ih => exact fun answer => ih answer (first answer)

theorem logless_ofExcept (answer : Except Failure α) : (ofExcept answer : Program S α).Logless := by
  cases answer <;> trivial

theorem logless_perform (op : S.Op) : (perform op : Program S _).Logless := logless_ofExcept

theorem Logless.loggedTo {program : Program S α} (logless : program.Logless) :
    program.loggedTo journal = program := by
  induction program with
  | done value => rfl
  | fail failure => rfl
  | log line rest => exact logless.elim
  | call op rest ih =>
    exact congrArg (Program.call op) (funext fun answer => ih answer (logless answer))

/-- A line that is refused ends the program, by what it was refused with. -/
def Heeds : Program S α → Prop
  | .done _ => True
  | .fail _ => True
  | .log _ rest => (∀ failure, rest (.error failure) = .fail failure) ∧ (rest (.ok ())).Heeds
  | .call _ rest => ∀ answer, (rest answer).Heeds

theorem Heeds.bind {program : Program S α} {next : α → Program S β} (first : program.Heeds)
    (second : ∀ value, (next value).Heeds) : (program >>= next).Heeds := by
  change (program.bind next).Heeds
  induction program with
  | done value => exact second value
  | fail failure => trivial
  | log line rest ih =>
    obtain ⟨refused, taken⟩ := first
    refine ⟨fun failure => ?_, ih _ taken⟩
    change (rest (.error failure)).bind next = _
    rw [refused]
    rfl
  | call op rest ih => exact fun answer => ih answer (first answer)

end Program

end Bastion
