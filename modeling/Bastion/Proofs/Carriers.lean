import Bastion.Proofs.Transcripts
import Bastion.Status.Site

set_option autoImplicit false

namespace Bastion

variable {S T : Signature} {σ κ α β : Type}

namespace Program

/-- The world in which a call is answered by what carries it out. -/
def through (carryOut : (op : S.Op) → Program T (S.Answer op)) (handler : Handler T σ) :
    Handler S σ := fun op state =>
  let run := (carryOut op).run handler state
  ⟨run.result, run.state, run.log⟩

theorem outcome_attempt (program : Program T α) (handler : Handler T σ) (state : σ) :
    (program.attempt.run handler state).outcome =
      (.ok (program.run handler state).result, (program.run handler state).state) := by
  induction program generalizing state with
  | done value => rfl
  | fail failure => rfl
  | log line rest ih => exact ih _ state
  | call op rest ih => exact ih (handler op state).answer (handler op state).state

theorem calls_attempt (program : Program T α) (handler : Handler T σ) (state : σ) :
    (program.attempt.run handler state).calls = (program.run handler state).calls := by
  induction program generalizing state with
  | done value => rfl
  | fail failure => rfl
  | log line rest ih => exact ih _ state
  | call op rest ih => exact congrArg (op :: ·) (ih _ _)

theorem callsBy_bind (carryOut : (op : S.Op) → Program T (S.Answer op)) (program : Program S α)
    (next : α → Program S β) :
    (program >>= next).callsBy carryOut =
      program.callsBy carryOut >>= fun value => (next value).callsBy carryOut := by
  change (program.bind next).callsBy carryOut = _
  induction program with
  | done value => rfl
  | fail failure => rfl
  | log line rest ih => exact congrArg (Program.log line) (funext ih)
  | call op rest ih =>
    refine Eq.trans ?_ (bind_assoc (carryOut op).attempt _ _).symm
    exact congrArg ((carryOut op).attempt.bind ·) (funext ih)

theorem outcome_callsBy (carryOut : (op : S.Op) → Program T (S.Answer op)) (handler : Handler T σ)
    (program : Program S α) (state : σ) :
    ((program.callsBy carryOut).run handler state).outcome =
      (program.run (through carryOut handler) state).outcome := by
  induction program generalizing state with
  | done value => rfl
  | fail failure => rfl
  | log line rest ih => exact ih _ state
  | call op rest ih =>
    refine (outcome_bind (carryOut op).attempt
      (fun answer => (rest answer).callsBy carryOut) state).trans ?_
    rw [outcome_attempt]
    exact ih _ _

theorem outcome_embedTo (journal : Journal) (inner : Handler S κ) (program : Program S α)
    (site : Site κ) :
    (program.embed.run (Site.handlerTo journal inner) site).outcome =
      ((program.run inner site.world).result,
        { site with world := (program.run inner site.world).state }) := by
  induction program generalizing site with
  | done value => rfl
  | fail failure => rfl
  | log line rest ih => exact ih _ site
  | call op rest ih =>
    exact ih (inner op site.world).answer { site with world := (inner op site.world).state }

theorem outcome_embed (inner : Handler S κ) (program : Program S α) (site : Site κ) :
    (program.embed.run (Site.handler inner) site).outcome =
      ((program.run inner site.world).result,
        { site with world := (program.run inner site.world).state }) :=
  outcome_embedTo .silent inner program site

theorem calls_embed (inner : Handler S κ) (program : Program S α) (site : Site κ) :
    (program.embed.run (Site.handler inner) site).calls =
      (program.run inner site.world).calls.map StatusOr.other := by
  induction program generalizing site with
  | done value => rfl
  | fail failure => rfl
  | log line rest ih => exact ih _ site
  | call op rest ih => exact congrArg (StatusOr.other op :: ·) (ih _ _)

theorem outcome_callsBesideStatusByTo (journal : Journal)
    (carryOut : (op : S.Op) → Program T (S.Answer op)) (inner : Handler T κ)
    (program : Program S.withStatus α) (site : Site κ) :
    ((program.callsBesideStatusBy carryOut).run (Site.handlerTo journal inner) site).outcome =
      (program.run (Site.handlerTo journal (through carryOut inner)) site).outcome := by
  unfold callsBesideStatusBy
  rw [outcome_callsBy]
  induction program generalizing site with
  | done value => rfl
  | fail failure => rfl
  | log line rest ih => exact ih _ site
  | call op rest ih =>
    cases op with
    | other op =>
      obtain ⟨answer, left⟩ := Prod.mk.inj (outcome_embedTo journal inner (carryOut op) site)
      change ((rest ((carryOut op).embed.run (Site.handlerTo journal inner) site).result).run _
        ((carryOut op).embed.run (Site.handlerTo journal inner) site).state).outcome = _
      rw [answer, left]
      exact ih _ _
    | patchStatus name patch =>
      have performed : ((perform (S := T.withStatus) (.patchStatus name patch)).run
          (Site.handlerTo journal inner) site).outcome = _ :=
        outcome_perform (S := T.withStatus) (.patchStatus name patch) site
      obtain ⟨answer, left⟩ := Prod.mk.inj performed
      change ((rest (Run.result _)).run _ (Run.state _)).outcome = _
      rw [answer, left]
      exact ih _ _

theorem outcome_callsBesideStatusBy (carryOut : (op : S.Op) → Program T (S.Answer op))
    (inner : Handler T κ) (program : Program S.withStatus α) (site : Site κ) :
    ((program.callsBesideStatusBy carryOut).run (Site.handler inner) site).outcome =
      (program.run (Site.handler (through carryOut inner)) site).outcome :=
  outcome_callsBesideStatusByTo .silent carryOut inner program site

/-- One call beside the statuses, and what is done with its answer. -/
theorem Fares.carried {carryOut : (op : S.Op) → Program T (S.Answer op)} {inner : Handler T κ}
    {op : S.Op} {operation resource : String} {next : S.Answer op → Program S.withStatus α}
    {site after : Site κ} {answer : S.Answer op} {asked : List T.Op} {left : κ}
    {result : Except Failure α} {calls : List T.withStatus.Op}
    (fares : (carryOut op).Fares inner site.world (.ok answer) asked left)
    (later : ((next answer).callsBesideStatusBy carryOut).Fares (Site.handler inner)
      { site with world := left } result calls after) :
    (((perform (S := S.withStatus) (.other op)).during operation resource >>=
      next).callsBesideStatusBy carryOut).Fares (Site.handler inner) site result
        (asked.map StatusOr.other ++ calls) after := by
  have attempted : ((carryOut op).embed.attempt).Fares (Site.handler inner) site (.ok (.ok answer))
      (asked.map StatusOr.other) { site with world := left } := by
    constructor
    case outcome =>
      obtain ⟨told, stays⟩ := outcome_of_returns fares.outcome
      obtain ⟨result, state⟩ := Prod.mk.inj (outcome_embed inner (carryOut op) site)
      rw [outcome_attempt, result, state, told, stays]
    case calls => rw [calls_attempt, calls_embed, fares.calls]
  exact attempted.bind later

end Program

end Bastion
