import Bastion.Proofs.Runs

set_option autoImplicit false

namespace Bastion.Program

variable {S : Signature} {σ α β : Type}

/-- The run ends with a value and a world of which `done` holds, or in a world of which `failed` holds. -/
def Ends (handler : Handler S σ) (program : Program S α) (before : σ) (done : α → σ → Prop)
    (failed : σ → Prop) : Prop :=
  match (program.run handler before).outcome with
  | (.ok value, after) => done value after
  | (.error _, after) => failed after

variable {handler : Handler S σ} {program : Program S α} {before : σ} {done : α → σ → Prop}
  {failed : σ → Prop}

theorem ends_iff :
    program.Ends handler before done failed ↔
      (∀ value after, program.Returns handler before value after → done value after) ∧
        ∀ failure after, (program.run handler before).outcome = (.error failure, after) →
          failed after := by
  unfold Ends Returns
  rcases (program.run handler before).outcome with ⟨failure | value, state⟩
  · constructor
    · intro fails
      refine ⟨fun _ _ same => ?_, fun _ after same => ?_⟩
      · cases same
      · obtain ⟨_, rfl⟩ := Prod.mk.inj same
        exact fails
    · exact fun both => both.2 failure state rfl
  · constructor
    · intro returned
      refine ⟨fun other after same => ?_, fun _ _ same => ?_⟩
      · obtain ⟨⟨rfl⟩, rfl⟩ := Prod.mk.inj same
        exact returned
      · cases same
    · exact fun both => both.1 value state rfl

theorem Ends.mono {wider : α → σ → Prop} {looser : σ → Prop}
    (ends : program.Ends handler before done failed)
    (value : ∀ {value after}, done value after → wider value after)
    (failure : ∀ {after}, failed after → looser after) :
    program.Ends handler before wider looser := by
  obtain ⟨returns, fails⟩ := ends_iff.1 ends
  exact ends_iff.2 ⟨fun _ _ returned => value (returns _ _ returned),
    fun _ _ lost => failure (fails _ _ lost)⟩

theorem ends_of_state {invariant : σ → Prop} (holds : invariant (program.run handler before).state) :
    program.Ends handler before (fun _ => invariant) invariant := by
  refine ends_iff.2 ⟨fun value after returned => ?_, fun failure after lost => ?_⟩
  · obtain ⟨_, rfl⟩ := outcome_of_returns returned
    exact holds
  · obtain ⟨_, rfl⟩ := Prod.mk.inj lost
    exact holds

theorem ends_bind {next : α → Program S β} {done : β → σ → Prop} :
    (program >>= next).Ends handler before done failed ↔
      program.Ends handler before (fun value after => (next value).Ends handler after done failed)
        failed := by
  unfold Ends
  rw [outcome_bind]
  rcases (program.run handler before).outcome with ⟨failure | value, after⟩ <;> rfl

theorem ends_ofExcept {answer : Except Failure α} :
    (ofExcept answer : Program S α).Ends handler before done failed ↔
      match answer with
      | .ok value => done value before
      | .error _ => failed before := by
  cases answer <;> rfl

/-- One call: its answer tells the ending, and the world is the one after it. -/
theorem ends_perform {op : S.Op} {done : S.Answer op → σ → Prop} :
    (perform op).Ends handler before done failed ↔
      match (handler op before).answer with
      | .ok answer => done answer (handler op before).state
      | .error _ => failed (handler op before).state := by
  unfold Ends
  rw [outcome_perform]
  cases (handler op before).answer <;> rfl

theorem ends_recover {handle : Failure → Program S α} :
    (program.recover handle).Ends handler before done failed ↔
      (∀ value after, program.Returns handler before value after → done value after) ∧
        ∀ failure after, (program.run handler before).outcome = (.error failure, after) →
          (handle failure).Ends handler after done failed := by
  unfold Ends Returns
  rw [outcome_recover]
  rcases (program.run handler before).outcome with ⟨failure | value, state⟩
  · simp
  · simp

theorem ends_during {operation resource : String} :
    (program.during operation resource).Ends handler before done failed ↔
      program.Ends handler before done failed :=
  ends_recover.trans ends_iff.symm

end Bastion.Program
