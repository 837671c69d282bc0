import Bastion.Proofs.Procedures
import Bastion.Proofs.ServiceReconciliation
import Bastion.Proofs.Transcripts

set_option autoImplicit false

/- How often a provider asks. A read is tried three times at most, while its failures may pass. A change
and the wait for its operation are asked for once, and the failure of either is the end. -/
namespace Bastion.Compute

open Program

namespace Call

def mutates : Call → Bool
  | .service _ asked => asked.mutates
  | _ => false

def Settles : Call → Prop
  | .service _ asked => asked.mutates = true
  | .awaitOperation _ => True
  | .sleep _ => False

def spare? : Call → Option Nat
  | .service _ asked => some (if asked.guarded then 2 else 0)
  | .awaitOperation _ => some 0
  | .sleep _ => none

def tells : Call → Failure → Bool
  | .service _ asked, failure => asked.tells failure
  | _, _ => false

theorem spare?_of_settles {op : Call} (settles : op.Settles) : op.spare? = some 0 := by
  cases op with
  | service project asked => cases asked <;> first | rfl | cases settles
  | awaitOperation seconds => rfl
  | sleep seconds => exact settles.elim

theorem tells_of_settles {op : Call} (settles : op.Settles) (failure : Failure) :
    op.tells failure = false := by
  cases op with
  | service project asked => cases asked <;> first | rfl | cases settles
  | awaitOperation seconds => rfl
  | sleep seconds => rfl

theorem mutates_of_steady {op : Call} (steady : Service.Steady op) : op.mutates = false := by
  cases op with
  | service project asked => exact steady
  | _ => rfl

end Call

/-- Attempts at one call: the failed ones, a pause after each of them, and the last one. -/
def attempts (op : Call) (failed : List Failure) (answer : Except Failure (signature.Answer op)) :
    List (Exchange signature) :=
  failed.flatMap (fun failure => [⟨op, .error failure⟩, ⟨.sleep retrySeconds, .ok ()⟩]) ++
    [⟨op, answer⟩]

/-- With so many attempts to spare, a failed one is followed by another one only if the failure may pass,
and the last one ends them by its answer, or because none is left. -/
structure Tried {α : Type} (spare : Nat) (failed : List Failure) (answer : Except Failure α) :
    Prop where
  few : failed.length ≤ spare
  passing : ∀ failure ∈ failed, failure.transient = true
  spent : ∀ failure, answer = .error failure → failure.transient = true → failed.length = spare

/-- A course of calls, and what it comes to. It goes on from the last answer to a call if that is no
failure, or one that tells something; any other failure ends the course and comes out as it is. Nothing
else comes out than a refusal by what the compute service holds. -/
inductive Course {α : Type} (result : Except Failure α) : List (Exchange signature) → Prop
  | ended (own : ∀ failure, result = .error failure → ∃ error, failure = .compute error) :
    Course result []
  | answered {op : Call} {spare : Nat} {failed : List Failure}
    {answer : Except Failure (signature.Answer op)} {later : List (Exchange signature)}
    (spares : op.spare? = some spare) (tried : Tried spare failed answer)
    (heard : ∀ failure, answer = .error failure → op.tells failure = true)
    (rest : Course result later) : Course result (attempts op failed answer ++ later)
  | lost {op : Call} {spare : Nat} {failed : List Failure} {failure : Failure}
    (spares : op.spare? = some spare)
    (tried : Tried spare failed (.error failure : Except Failure (signature.Answer op)))
    (untold : op.tells failure = false) (raised : result = .error failure) :
    Course result (attempts op failed (.error failure))

section Attempts

variable {α : Type} {op : Call} {spare : Nat} {failed : List Failure}
  {answer : Except Failure (signature.Answer op)}

theorem tried_once (answer : Except Failure α) : Tried 0 [] answer :=
  ⟨Nat.le_refl 0, fun _ absent => absurd absent List.not_mem_nil, fun _ _ _ => rfl⟩

theorem Tried.again {answer : Except Failure α} {failure : Failure}
    (passes : failure.transient = true) (tried : Tried spare failed answer) :
    Tried (spare + 1) (failure :: failed) answer where
  few := Nat.succ_le_succ tried.few
  passing := List.forall_mem_cons.2 ⟨passes, tried.passing⟩
  spent last told again := congrArg (· + 1) (tried.spent last told again)

/-- A change is not tried again, so that there is nothing but the one exchange. -/
theorem attempts_of_settles {exchange : Exchange signature} (spares : op.spare? = some spare)
    (tried : Tried spare failed answer) (member : exchange ∈ attempts op failed answer)
    (settles : exchange.op.Settles) :
    exchange = ⟨op, answer⟩ ∧ attempts op failed answer = [⟨op, answer⟩] := by
  have same : exchange.op = op := by
    rcases List.mem_append.1 member with early | last
    · obtain ⟨failure, _, within⟩ := List.mem_flatMap.1 early
      rcases List.mem_cons.1 within with rfl | pause
      · rfl
      · obtain rfl := List.mem_singleton.1 pause
        exact settles.elim
    · obtain rfl := List.mem_singleton.1 last
      rfl
  rw [same] at settles
  obtain rfl := Option.some.inj ((Call.spare?_of_settles settles).symm.trans spares)
  obtain rfl := List.eq_nil_of_length_eq_zero (Nat.le_zero.1 tried.few)
  exact ⟨List.mem_singleton.1 member, rfl⟩

end Attempts

namespace Course

variable {α β : Type} {told later : List (Exchange signature)}

theorem append {value : α} {result : Except Failure β} (first : Course (.ok value) told)
    (second : Course result later) : Course result (told ++ later) := by
  induction first with
  | ended own => exact second
  | answered spares tried heard rest ih =>
    rw [List.append_assoc]
    exact .answered spares tried heard ih
  | lost spares tried untold raised => cases raised

theorem mono_error {failure : Failure} (course : Course (.error failure : Except Failure α) told) :
    Course (.error failure : Except Failure β) told := by
  induction course with
  | ended own => exact .ended fun other same => own other (congrArg _ (Except.error.inj same))
  | answered spares tried heard rest ih => exact .answered spares tried heard ih
  | lost spares tried untold raised =>
    exact .lost spares tried untold (congrArg _ (Except.error.inj raised))

theorem comes_from {result : Except Failure α} (course : Course result told) {failure : Failure}
    (came : result = .error failure) :
    (∃ error, failure = .compute error) ∨ ∃ exchange ∈ told, exchange.answer = .error failure := by
  induction course with
  | ended own => exact .inl (own failure came)
  | answered spares tried heard rest ih =>
    refine ih.imp_right fun found => ?_
    obtain ⟨exchange, member, refused⟩ := found
    exact ⟨exchange, List.mem_append_right _ member, refused⟩
  | lost spares tried untold raised =>
    obtain rfl := Except.error.inj (raised.symm.trans came)
    exact .inr ⟨⟨_, _⟩, List.mem_append_right _ List.mem_cons_self, rfl⟩

/-- After a change that failed, or whose operation did, there is nothing but its failure. -/
theorem over_of_settles {result : Except Failure α} (course : Course result told)
    {early : List (Exchange signature)} {exchange : Exchange signature} {failure : Failure}
    (asked : told = early ++ exchange :: later) (settles : exchange.op.Settles)
    (refused : exchange.answer = .error failure) : later = [] ∧ result = .error failure := by
  induction course generalizing early with
  | ended own =>
    have asks := List.append_ne_nil_of_right_ne_nil early (List.cons_ne_nil exchange later)
    exact absurd asked.symm asks
  | @answered op spare failed answer rest spares tried heard course ih =>
    rcases List.append_eq_append_iff.1 asked with ⟨more, _, same⟩ | ⟨within, same, rest⟩
    · exact ih same
    · cases within with
      | nil => exact @ih [] rest.symm
      | cons first within =>
        -- The exchange is among the attempts, so it is the only one, and was gone on from.
        obtain ⟨rfl, rfl⟩ := List.cons.inj rest
        obtain ⟨rfl, _⟩ := attempts_of_settles spares tried
          (same ▸ List.mem_append_right _ List.mem_cons_self) settles
        have untold : op.tells failure = false := Call.tells_of_settles settles failure
        rw [heard failure refused] at untold
        cases untold
  | @lost op spare failed raised spares tried untold comes =>
    obtain ⟨rfl, single⟩ := attempts_of_settles spares tried
      (asked ▸ List.mem_append_right _ List.mem_cons_self) settles
    obtain rfl := Except.error.inj refused
    rw [single] at asked
    cases early with
    | nil => exact ⟨(List.cons.inj asked).2.symm, comes⟩
    | cons first rest =>
      obtain ⟨_, impossible⟩ := List.cons.inj asked
      cases rest <;> cases impossible

end Course

variable {α : Type} {σ : Type} {handler : Handler signature σ}

def Wakes (handler : Handler signature σ) : Prop :=
  ∀ seconds state, (handler (.sleep seconds) state).answer = .ok ()

theorem Service.wakes : Wakes Service.handler := fun _ _ => rfl

theorem silent_of_steady {program : ComputeProgram α} (made : program.Makes Service.Steady)
    (state : σ) : ∀ exchange ∈ program.transcript handler state, exchange.op.mutates = false :=
  fun _ member => Call.mutates_of_steady (made.fits_of_mem member)

section Retrying

variable {program : ComputeProgram α} {state : σ}

theorem retrying_final
    (final : ∀ failure, (program.run handler state).result = .error failure →
      failure.transient = false) (more : Nat) :
    ((retrying more program).run handler state).outcome = (program.run handler state).outcome ∧
      (retrying more program).transcript handler state = program.transcript handler state := by
  cases more with
  | zero => exact ⟨rfl, rfl⟩
  | succ more =>
    unfold retrying
    rw [outcome_recover, transcript_recover]
    cases ended : (program.run handler state).outcome with
    | mk result after =>
      cases result with
      | ok value => exact ⟨rfl, List.append_nil _⟩
      | error failure =>
        have stays : failure.transient = false := final failure (congrArg Prod.fst ended)
        simp only [stays, Bool.false_eq_true, ↓reduceIte]
        exact ⟨rfl, List.append_nil _⟩

/-- After a failure that may pass there is a pause, and one attempt fewer. -/
theorem retrying_again (wakes : Wakes handler) {failure : Failure} {after : σ}
    (ended : (program.run handler state).outcome = (.error failure, after))
    (passes : failure.transient = true) (more : Nat) :
    let rested := (handler (.sleep retrySeconds) after).state
    ((retrying (more + 1) program).run handler state).outcome =
        ((retrying more program).run handler rested).outcome ∧
      (retrying (more + 1) program).transcript handler state =
        program.transcript handler state ++
          ⟨.sleep retrySeconds, .ok ()⟩ :: (retrying more program).transcript handler rested := by
  intro rested
  have slept : (perform (S := signature) (.sleep retrySeconds)).Returns handler after () rested :=
    returns_perform.2 ⟨wakes retrySeconds after, rfl⟩
  have told : (retrying (more + 1) program) = program.recover _ := rfl
  rw [told, outcome_recover, transcript_recover, ended]
  simp only [passes, ↓reduceIte]
  rw [outcome_bind_of_returns slept, transcript_bind_of_returns slept,
    transcript_perform_of_returns slept]
  exact ⟨rfl, rfl⟩

end Retrying

namespace Settled

variable {program : ComputeProgram α} {state : σ}

theorem silent (settled : Settled program) : program.Silent := by
  rcases settled with ⟨value, rfl⟩ | ⟨error, rfl⟩ <;> trivial

theorem steady (settled : Settled program) : program.Makes Service.Steady := by
  rcases settled with ⟨value, rfl⟩ | ⟨error, rfl⟩ <;> trivial

theorem final (settled : Settled program) (failure : Failure)
    (refused : (program.run handler state).result = .error failure) : failure.transient = false := by
  rcases settled with ⟨value, rfl⟩ | ⟨error, rfl⟩
  · cases refused
  · obtain rfl := Except.error.inj refused
    rfl

end Settled

/-- A read that is answered at once is asked for once, and comes to what is made of the answer. -/
theorem fares_retried {account : Account} {asked : ServiceCall}
    {next : asked.Answer → ComputeProgram α} {state after : σ} {answer : asked.Answer}
    {result : Except Failure α}
    (answered : (handler (.service account.project asked) state).answer = .ok answer)
    (settled : Settled (next answer))
    (comes : ((next answer).run handler
      (handler (.service account.project asked) state).state).outcome = (result, after)) :
    (retried (account.service asked >>= next)).Fares handler state result
      [.service account.project asked] after := by
  have once : (account.service asked >>= next).Fares handler state result
      [.service account.project asked] after :=
    (fares_perform (S := signature) answered).bind (fares_of_silent settled.silent comes)
  have final : ∀ failure, ((account.service asked >>= next).run handler state).result =
      .error failure → failure.transient = false := by
    intro failure refused
    have same : ((next answer).run handler _).result = result := congrArg Prod.fst comes
    have told : ((account.service asked >>= next).run handler state).result = result :=
      congrArg Prod.fst once.outcome
    exact settled.final failure (same.trans (told.symm.trans refused))
  obtain ⟨outcome, told⟩ := retrying_final final 2
  refine ⟨outcome.trans once.outcome, ?_⟩
  rw [← once.calls, calls_eq_transcript, calls_eq_transcript]
  exact congrArg _ told

namespace Account

variable {account : Account} {asked : ServiceCall}
  {judge : Except Failure asked.Answer → Except Failure α}

theorem outcome_reading (state : σ) :
    ((account.reading asked judge).run handler state).outcome =
      (judge (handler (.service account.project asked) state).answer,
        (handler (.service account.project asked) state).state) :=
  outcome_ofExcept _ _

theorem transcript_reading (state : σ) :
    (account.reading asked judge).transcript handler state =
      [⟨.service account.project asked, (handler (.service account.project asked) state).answer⟩] :=
  congrArg (_ :: ·) (transcript_ofExcept _ _)

/-- A read is tried as often as it may be, and comes to what is made of its last answer. -/
theorem reading_tried (wakes : Wakes handler) (judges : asked.Judges judge) (spare : Nat)
    (state : σ) :
    ∃ failed answer, Tried spare failed answer ∧
      ((retrying spare (account.reading asked judge)).run handler state).result = judge answer ∧
      (retrying spare (account.reading asked judge)).transcript handler state =
        attempts (.service account.project asked) failed answer := by
  induction spare generalizing state with
  | zero =>
    have read : ((account.reading asked judge).run handler state).outcome = _ :=
      outcome_reading state
    exact ⟨[], _, tried_once _, congrArg Prod.fst read, transcript_reading state⟩
  | succ spare ih =>
    by_cases again : ∃ failure, judge (handler (.service account.project asked) state).answer =
        .error failure ∧ failure.transient = true
    · obtain ⟨failure, judged, passes⟩ := again
      have read : ((account.reading asked judge).run handler state).outcome = _ :=
        (outcome_reading state).trans (congrArg (·, _) judged)
      obtain ⟨same, told⟩ := retrying_again wakes read passes spare
      obtain ⟨failed, answer, tried, result, course⟩ := ih _
      refine ⟨failure :: failed, answer, tried.again passes, ?_, ?_⟩
      · exact (congrArg Prod.fst same).trans result
      · rw [told, course, transcript_reading, judges.answer_of_transient judged passes]
        rfl
    · -- Otherwise the first attempt is the last, whether there is one to spare or not.
      have final : ∀ failure,
          ((account.reading asked judge).run handler state).result = .error failure →
            failure.transient = false := by
        intro failure came
        refine Bool.eq_false_iff.2 fun passes => again ⟨failure, ?_, passes⟩
        exact (congrArg Prod.fst (outcome_reading state)).symm.trans came
      obtain ⟨same, told⟩ := retrying_final final (spare + 1)
      refine ⟨[], (handler (.service account.project asked) state).answer, ⟨Nat.zero_le _, ?_, ?_⟩,
        ?_, ?_⟩
      · exact fun _ absent => absurd absent List.not_mem_nil
      · intro failure answered passes
        refine absurd ⟨failure, ?_, passes⟩ again
        rw [answered]
        exact judges.passes_of_transient passes
      · exact (congrArg Prod.fst same).trans (congrArg Prod.fst (outcome_reading state))
      · exact told.trans (transcript_reading state)

end Account

/-- One call as a course: its failure comes out unless it tells something. -/
theorem Course.of_tried {result : Except Failure α} {op : Call} {spare : Nat}
    {failed : List Failure} {answer : Except Failure (signature.Answer op)}
    (spares : op.spare? = some spare) (tried : Tried spare failed answer)
    (passes : ∀ failure, answer = .error failure → op.tells failure = false →
      result = .error failure)
    (own : ∀ failure, result = .error failure →
      (∀ raised, answer = .error raised → op.tells raised = true) →
        ∃ error, failure = .compute error) :
    Course result (attempts op failed answer) := by
  by_cases lost : ∃ failure, answer = .error failure ∧ op.tells failure = false
  · obtain ⟨failure, rfl, untold⟩ := lost
    exact .lost spares tried untold (passes failure rfl untold)
  · have heard : ∀ failure, answer = .error failure → op.tells failure = true := fun failure same =>
      Bool.of_not_eq_false fun untold => lost ⟨failure, same, untold⟩
    rw [← List.append_nil (attempts op failed answer)]
    exact .answered spares tried heard (.ended fun failure came => own failure came heard)

/-- A call that is not tried again, and whose failures tell nothing. -/
theorem course_perform {op : Call} (spares : op.spare? = some 0)
    (silent : ∀ failure, op.tells failure = false) (state : σ) :
    Course ((perform (S := signature) op).run handler state).result
      ((perform (S := signature) op).transcript handler state) := by
  have answered : ((perform (S := signature) op).run handler state).result =
      (handler op state).answer := congrArg Prod.fst (outcome_perform (S := signature) op state)
  have told : (perform (S := signature) op).transcript handler state =
      attempts op [] (handler op state).answer := transcript_perform (S := signature) op state
  rw [answered, told]
  refine .of_tried spares (tried_once _) (fun failure same _ => same) fun failure came heard => ?_
  exact absurd (heard failure came) (Bool.eq_false_iff.1 (silent failure))

namespace Account.Methodical

variable {account : Account} {bare : Prop} {changes : Nat} {program : ComputeProgram α}

theorem course (wakes : Wakes handler) (methodical : Methodical account bare changes program)
    (state : σ) : Course (program.run handler state).result (program.transcript handler state) := by
  induction methodical generalizing state with
  | settled settled =>
    rcases settled with ⟨value, rfl⟩ | ⟨error, rfl⟩
    · exact .ended fun failure impossible => by cases impossible
    · exact .ended fun failure came => ⟨error, (Except.error.inj came).symm⟩
  | note line rest ih => exact ih state
  | @read _ asked judge guarded judges =>
    obtain ⟨failed, answer, tried, came, told⟩ := reading_tried wakes judges 2 state
    have spares : (Call.service account.project asked).spare? = some 2 :=
      congrArg some (if_pos guarded)
    unfold retried
    rw [came, told]
    refine .of_tried spares tried (fun failure same untold => ?_) judges.own
    rw [same]
    exact judges.passes failure untold
  | readOnce region network admitted => exact course_perform rfl (fun _ => rfl) state
  | @change asked mutates =>
    have settles : (Call.service account.project asked).Settles := mutates
    exact course_perform (Call.spare?_of_settles settles) (Call.tells_of_settles settles) state
  | wait => exact course_perform rfl (fun _ => rfl) state
  | @bind _ _ early late program next first later ihFirst ihLater =>
    have begun := ihFirst state
    cases ended : (program.run handler state).result with
    | ok value =>
      have returned := returns_of_ok ended
      rw [ended] at begun
      rw [transcript_bind_of_returns returned, result_bind_of_returns returned]
      exact begun.append (ihLater value _)
    | error failure =>
      rw [ended] at begun
      rw [transcript_bind_of_fails ended, result_bind_of_fails ended]
      exact begun.mono_error

theorem asks_no_change (methodical : Methodical account bare 0 program) (state : σ) :
    (program.transcript handler state).countP (fun exchange => exchange.op.mutates) = 0 := by
  refine List.countP_eq_zero.2 fun exchange member => ?_
  exact Bool.eq_false_iff.1 (silent_of_steady methodical.steady state exchange member)

theorem countP_changes (methodical : Methodical account bare changes program) (state : σ) :
    (program.transcript handler state).countP (fun exchange => exchange.op.mutates) ≤ changes := by
  have none {γ : Type} {part : ComputeProgram γ} (methodical : Methodical account bare 0 part)
      (state : σ) :
      (part.transcript handler state).countP (fun exchange => exchange.op.mutates) ≤ 0 :=
    (methodical.asks_no_change state).le
  induction methodical generalizing state with
  | settled settled => rcases settled with ⟨value, rfl⟩ | ⟨error, rfl⟩ <;> exact Nat.zero_le _
  | note line rest ih => exact ih state
  | read guarded judges => exact none (.read guarded judges) state
  | readOnce region network admitted => exact none (.readOnce region network admitted) state
  | @change asked mutates =>
    have told : (account.service asked).transcript handler state = [⟨.service account.project asked,
        (handler (.service account.project asked) state).answer⟩] :=
      transcript_perform (S := signature) (.service account.project asked) state
    rw [told]
    exact List.countP_le_length
  | wait => exact none .wait state
  | @bind _ _ early late program next first later ihFirst ihLater =>
    cases ended : (program.run handler state).result with
    | ok value =>
      rw [transcript_bind_of_returns (returns_of_ok ended), List.countP_append]
      exact Nat.add_le_add (ihFirst state) (ihLater value _)
    | error failure =>
      rw [transcript_bind_of_fails ended]
      exact (ihFirst state).trans (Nat.le_add_right early late)

end Account.Methodical

namespace Account

/-- Whatever the world answers, one invocation of a method of `GCPProvider` asks for one change at most.
If the change or its operation fails, then that is the end, and the failure comes out as it is. A read is
tried three times at most, again only after a failure that may pass, and the last failure comes out as it
is. -/
theorem changes_asked_once (account : Account) (procedure : Procedure) (wakes : Wakes handler)
    (state : σ) :
    let run := (account.program procedure).run handler state
    let told := (account.program procedure).transcript handler state
    told.countP (fun exchange => exchange.op.mutates) ≤ 1 ∧
    (∀ early exchange later failure, told = early ++ exchange :: later → exchange.op.Settles →
      exchange.answer = .error failure → later = [] ∧ run.result = .error failure) ∧
    Course run.result told := by
  intro run told
  have methodical := account.methodical_program procedure
  have course : Course run.result told := methodical.course wakes state
  refine ⟨(methodical.countP_changes state).trans procedure.changes_le_one, ?_, course⟩
  intro early exchange later failure asked settles refused
  exact course.over_of_settles asked settles refused

/-- How a service answers that is busy for the moment. -/
def busy : Failure := .api .serviceUnavailable "try again"

/-- The office, whose machines are told at the third attempt only, and whose next operation fails. -/
def crowdedOffice : Service :=
  { officeService [] with
    faults := [(.instancesList, [some busy, some busy]), (.operationResult, [some busy])] }

theorem changes_asked_once_office :
    let program := officeAccount.program (.call (.allocateAddress "3"))
    let told := program.transcript Service.handler crowdedOffice
    let read := Call.service "project-1" (.listInstances "region-1-a" (.identified "3"))
    let add := Call.service "project-1"
      (.addAccess "region-1-a" "bastion-1" "nic0" ⟨"External NAT", "ONE_TO_ONE_NAT"⟩)
    told.map Exchange.op = [read, .sleep 4, read, .sleep 4, read, add, .awaitOperation 300] ∧
    told.countP (fun exchange => exchange.op.mutates) ≤ 1 ∧
    (program.run Service.handler crowdedOffice).result = .error busy ∧
    Course (program.run Service.handler crowdedOffice).result told := by
  intro program told read add
  obtain ⟨once, _, course⟩ := changes_asked_once officeAccount (.call (.allocateAddress "3"))
    Service.wakes crowdedOffice
  exact ⟨by decide +kernel, once, by decide +kernel, course⟩

end Account

end Bastion.Compute
