import Bastion.Proofs.Endings
import Bastion.Proofs.Transcripts

set_option autoImplicit false

namespace Bastion

variable {S : Signature} {σ α β : Type}

/-- The state after these calls, one after the other. -/
def Handler.follow (handler : Handler S σ) (state : σ) (said : List (Exchange S)) : σ :=
  said.foldl (fun now exchange => (handler exchange.op now).state) state

namespace Program

/-- Every call that the run makes fits the state that it is made in, and the run ends with a value and a
state of which `done` holds, or in a state of which `failed` holds. -/
def Proceeds (handler : Handler S σ) (fits : S.Op → σ → Prop) (done : α → σ → Prop)
    (failed : σ → Prop) : Program S α → σ → Prop
  | .done value, state => done value state
  | .fail _, state => failed state
  | .log _ rest, state => (rest (.ok ())).Proceeds handler fits done failed state
  | .call op rest, state =>
    fits op state ∧
      (rest (handler op state).answer).Proceeds handler fits done failed (handler op state).state

variable {handler : Handler S σ} {fits : S.Op → σ → Prop} {done : α → σ → Prop}
  {failed : σ → Prop} {program : Program S α} {state : σ}

theorem proceeds_bind {next : α → Program S β} {done : β → σ → Prop} :
    (program >>= next).Proceeds handler fits done failed state ↔
      program.Proceeds handler fits
        (fun value after => (next value).Proceeds handler fits done failed after) failed state := by
  change (program.bind next).Proceeds handler fits done failed state ↔ _
  induction program generalizing state with
  | done value => rfl
  | fail failure => rfl
  | log line rest ih => exact ih _
  | call op rest ih => exact and_congr_right fun _ => ih _

/-- The state after a call that is answered is one that the rest proceeds from. -/
theorem proceeds_call {op : S.Op} {operation resource : String} {next : S.Answer op → Program S α} :
    ((perform op).during operation resource >>= next).Proceeds handler fits done failed state ↔
      fits op state ∧
        match (handler op state).answer with
        | .ok answer =>
          (next answer).Proceeds handler fits done failed (handler op state).state
        | .error _ => failed (handler op state).state := by
  rw [proceeds_bind]
  apply and_congr_right
  intro _
  cases (handler op state).answer <;> rfl

theorem Proceeds.mono {wider : α → σ → Prop} {looser : S.Op → σ → Prop} {laxer : σ → Prop}
    (proceeds : program.Proceeds handler fits done failed state)
    (calls : ∀ {op now}, fits op now → looser op now)
    (value : ∀ {value after}, done value after → wider value after)
    (failure : ∀ {after}, failed after → laxer after) :
    program.Proceeds handler looser wider laxer state := by
  induction program generalizing state with
  | done found => exact value proceeds
  | fail _ => exact failure proceeds
  | log line rest ih => exact ih _ proceeds
  | call op rest ih => exact ⟨calls proceeds.1, ih _ proceeds.2⟩

/-- A program whose calls all fit where an invariant holds, and keep it, holds to it throughout. -/
theorem proceeds_of_makes {allowed : S.Op → Prop} (invariant : σ → Prop)
    (step : ∀ op now, allowed op → invariant now →
      fits op now ∧ invariant (handler op now).state)
    (made : program.Makes allowed) (holds : invariant state) :
    program.Proceeds handler fits (fun _ => invariant) invariant state := by
  induction program generalizing state with
  | done value => exact holds
  | fail failure => exact holds
  | log line rest ih => exact ih _ (made _) holds
  | call op rest ih =>
    obtain ⟨fitting, kept⟩ := step op state made.1 holds
    exact ⟨fitting, ih _ (made.2 _) kept⟩

theorem Proceeds.ends (proceeds : program.Proceeds handler fits done failed state) :
    program.Ends handler state done failed := by
  induction program generalizing state with
  | done value => exact proceeds
  | fail failure => exact proceeds
  | log line rest ih => exact ih _ proceeds
  | call op rest ih => exact ih _ proceeds.2

theorem Proceeds.done_of_returns {value : α} {after : σ}
    (proceeds : program.Proceeds handler fits done failed state)
    (returned : program.Returns handler state value after) : done value after :=
  (ends_iff.1 proceeds.ends).1 value after returned

theorem Proceeds.fits_of_mem {op : S.Op}
    (proceeds : program.Proceeds handler fits done failed state)
    (made : op ∈ (program.run handler state).calls) : ∃ now, fits op now := by
  induction program generalizing state with
  | done value => cases made
  | fail failure => cases made
  | log line rest ih => exact ih _ proceeds made
  | call first rest ih =>
    rcases List.mem_cons.1 made with rfl | later
    · exact ⟨state, proceeds.1⟩
    · exact ih _ proceeds.2 later

theorem proceeds_ofExcept {answer : Except Failure α} :
    (ofExcept answer : Program S α).Proceeds handler fits done failed state ↔
      match answer with
      | .ok value => done value state
      | .error _ => failed state := by
  cases answer <;> rfl

/-- One call: it fits the state it is made in, and its answer tells the ending. -/
theorem proceeds_perform {op : S.Op} {done : S.Answer op → σ → Prop} :
    (perform op).Proceeds handler fits done failed state ↔
      fits op state ∧ (perform op).Ends handler state done failed := by
  apply and_congr_right
  intro _
  rw [ends_perform]
  cases (handler op state).answer <;> rfl

/-- What is done about a failure proceeds from wherever the program may fail. -/
theorem Proceeds.recover {handle : Failure → Program S α}
    (proceeds : program.Proceeds handler fits done
      (fun after => ∀ failure, (handle failure).Proceeds handler fits done failed after) state) :
    (program.recover handle).Proceeds handler fits done failed state := by
  induction program generalizing state with
  | done value => exact proceeds
  | fail failure => exact proceeds failure
  | log line rest ih => exact ih _ proceeds
  | call op rest ih => exact ⟨proceeds.1, ih _ proceeds.2⟩

/-- The next program may start from all that the returns of the first one tell. -/
theorem Proceeds.bind {next : α → Program S β} {result : β → σ → Prop}
    (proceeds : program.Proceeds handler fits done failed state)
    (later : ∀ value after, program.Returns handler state value after →
      (next value).Proceeds handler fits result failed after) :
    (program >>= next).Proceeds handler fits result failed state := by
  rw [proceeds_bind]
  induction program generalizing state with
  | done value => exact later value state rfl
  | fail failure => exact proceeds
  | log line rest ih => exact ih _ proceeds later
  | call op rest ih => exact ⟨proceeds.1, ih _ proceeds.2 later⟩

/-- The invariant holds at every moment: before each call, and at the end. -/
def Throughout (handler : Handler S σ) (invariant : σ → Prop) (program : Program S α)
    (state : σ) : Prop :=
  program.Proceeds handler (fun _ => invariant) (fun _ => invariant) invariant state

theorem Throughout.moment {invariant : σ → Prop} {early later : List (Exchange S)}
    (throughout : program.Throughout handler invariant state)
    (said : program.transcript handler state = early ++ later) :
    invariant (handler.follow state early) := by
  induction program generalizing state early with
  | done value =>
    obtain ⟨rfl, rfl⟩ := List.append_eq_nil_iff.1 said.symm
    exact throughout
  | fail failure =>
    obtain ⟨rfl, rfl⟩ := List.append_eq_nil_iff.1 said.symm
    exact throughout
  | log line rest ih => exact ih _ throughout said
  | call op rest ih =>
    cases early with
    | nil => exact throughout.1
    | cons first early =>
      obtain ⟨rfl, followed⟩ := List.cons.inj said
      change invariant (handler.follow (handler op state).state early)
      exact ih _ throughout.2 followed

theorem follow_transcript (program : Program S α) (state : σ) :
    handler.follow state (program.transcript handler state) =
      (program.run handler state).state := by
  induction program generalizing state with
  | done value => rfl
  | fail failure => rfl
  | log line rest ih => exact ih _ state
  | call op rest ih => exact ih _ _

/-- A moment of one program after another is a moment of the first, or one of the second when the first
has returned. -/
theorem moment_bind {next : α → Program S β} {early later : List (Exchange S)}
    (said : (program >>= next).transcript handler state = early ++ later) :
    (∃ rest, program.transcript handler state = early ++ rest) ∨
      ∃ value between own, program.Returns handler state value between ∧
        (next value).transcript handler between = own ++ later ∧
        early = program.transcript handler state ++ own ∧
        handler.follow state early = handler.follow between own := by
  cases ended : (program.run handler state).result with
  | error failure =>
    rw [transcript_bind_of_fails ended] at said
    exact .inl ⟨later, said⟩
  | ok value =>
    have returned := returns_of_ok ended
    rw [transcript_bind_of_returns returned] at said
    rcases List.append_eq_append_iff.1 said with ⟨own, rfl, told⟩ | ⟨rest, told, _⟩
    · refine .inr ⟨value, _, own, returned, told, rfl, ?_⟩
      unfold Handler.follow
      rw [List.foldl_append, ← follow_transcript]
      rfl
    · exact .inl ⟨rest, told⟩

end Program

end Bastion
