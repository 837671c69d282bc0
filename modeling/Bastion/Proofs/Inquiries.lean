import Bastion.Proofs.Procedures
import Bastion.Proofs.ServiceSettling

set_option autoImplicit false

namespace Bastion

variable {S T : Signature} {σ κ α β : Type}

namespace Program

/-- Every call that the run makes fits the state that it is made in. -/
def Along (handler : Handler S σ) (fits : S.Op → σ → Prop) : Program S α → σ → Prop
  | .done _, _ => True
  | .fail _, _ => True
  | .log _ rest, state => (rest (.ok ())).Along handler fits state
  | .call op rest, state =>
    fits op state ∧
      (rest (handler op state).answer).Along handler fits (handler op state).state

variable {handler : Handler S σ} {fits : S.Op → σ → Prop}

theorem along_bind_of_returns {program : Program S α} {next : α → Program S β} {before between : σ}
    {value : α} (returned : program.Returns handler before value between) :
    (program >>= next).Along handler fits before ↔
      program.Along handler fits before ∧ (next value).Along handler fits between := by
  change (program.bind next).Along handler fits before ↔ _
  induction program generalizing before with
  | done other =>
    obtain ⟨rfl, rfl⟩ := returns_pure.1 returned
    exact (and_iff_right trivial).symm
  | fail failure => exact (returns_fail.1 returned).elim
  | log line rest ih => exact ih _ returned
  | call op rest ih => exact (and_congr_right fun _ => ih _ returned).trans and_assoc.symm

theorem along_during {operation resource : String} {program : Program S α} {state : σ} :
    (program.during operation resource).Along handler fits state ↔
      program.Along handler fits state := by
  unfold during
  induction program generalizing state with
  | done value => rfl
  | fail failure => rfl
  | log line rest ih => exact ih _
  | call op rest ih => exact and_congr_right fun _ => ih _

theorem along_attempt {program : Program S α} {state : σ} :
    program.attempt.Along handler fits state ↔ program.Along handler fits state := by
  induction program generalizing state with
  | done value => rfl
  | fail failure => rfl
  | log line rest ih => exact ih _
  | call op rest ih => exact and_congr_right fun _ => ih _

theorem along_perform {op : S.Op} {state : σ} :
    (perform op).Along handler fits state ↔ fits op state := by
  refine and_iff_left ?_
  cases (handler op state).answer <;> trivial

theorem along_of_makes {allowed : S.Op → Prop} {program : Program S α}
    (made : program.Makes allowed) (fitting : ∀ op state, allowed op → fits op state) (state : σ) :
    program.Along handler fits state := by
  induction program generalizing state with
  | done value => trivial
  | fail failure => trivial
  | log line rest ih => exact ih _ (made _) state
  | call op rest ih => exact ⟨fitting op state made.1, ih _ (made.2 _) _⟩

theorem calls_of_along {allowed : S.Op → Prop} {program : Program S α} {state : σ}
    (along : program.Along handler fits state) (fitting : ∀ op state, fits op state → allowed op) :
    ∀ op ∈ (program.run handler state).calls, allowed op := by
  induction program generalizing state with
  | done value => exact fun _ => nofun
  | fail failure => exact fun _ => nofun
  | log line rest ih => exact ih _ along
  | call op rest ih =>
    intro other member
    rcases List.mem_cons.1 member with rfl | later
    · exact fitting _ _ along.1
    · exact ih _ along.2 other later

/-- What is said of the calls of a world, said of a site: a patch of a status is none of them. -/
def Beside (fits : S.Op → κ → Prop) : S.withStatus.Op → Site κ → Prop
  | .other op, site => fits op site.world
  | .patchStatus .., _ => True

theorem along_embed {handler : Handler S κ} {fits : S.Op → κ → Prop} {program : Program S α}
    {site : Site κ} :
    program.embed.Along (Site.handler handler) (Beside fits) site ↔
      program.Along handler fits site.world := by
  induction program generalizing site with
  | done value => rfl
  | fail failure => rfl
  | log line rest ih => exact ih _
  | call op rest ih => exact and_congr_right fun _ => ih _

/-- The calls by which other calls are carried out fit, if they do for each of those. -/
theorem along_callsBesideStatusBy (carryOut : (op : S.Op) → Program T (S.Answer op))
    (inner : Handler T κ) {fits : T.Op → κ → Prop} {program : Program S.withStatus α} {site : Site κ}
    (along : program.Along (Site.handler (through carryOut inner))
      (Beside fun op world => (carryOut op).Along inner fits world) site) :
    (program.callsBesideStatusBy carryOut).Along (Site.handler inner) (Beside fits) site := by
  unfold callsBesideStatusBy
  induction program generalizing site with
  | done value => trivial
  | fail failure => trivial
  | log line rest ih => exact ih _ along
  | call op rest ih =>
    cases op with
    | other op =>
      have attempted : ((carryOut op).embed.attempt).Returns (Site.handler inner) site _ _ :=
        outcome_attempt (carryOut op).embed (Site.handler inner) site
      obtain ⟨answer, left⟩ := Prod.mk.inj (outcome_embed inner (carryOut op) site)
      refine (along_bind_of_returns attempted).2 ⟨along_attempt.2 (along_embed.2 along.1), ?_⟩
      rw [answer, left]
      exact ih _ along.2
    | patchStatus name patch =>
      let patching : Program T.withStatus Unit :=
        perform (S := T.withStatus) (.patchStatus name patch)
      have attempted := outcome_attempt patching (Site.handler inner) site
      have performed : (patching.run (Site.handler inner) site).outcome = _ :=
        outcome_perform (S := T.withStatus) (.patchStatus name patch) site
      obtain ⟨answer, left⟩ := Prod.mk.inj performed
      refine (along_bind_of_returns attempted).2
        ⟨along_attempt.2 (along_perform.2 trivial), ?_⟩
      rw [answer, left]
      exact ih _ along.2

end Program

namespace Compute

open Program

/-- Without faults the program answers with this value on any service with the stock of the world, and
only asks. -/
def Answers (world : Service) (program : ComputeProgram α) (value : α) : Prop :=
  ∀ service : Service, service.Faultless → service.stock = world.stock → ∃ left,
    program.Returns Service.handler service value left ∧ left.stock = world.stock ∧
      program.Along Service.handler (fun op _ => Service.Steady op) service

variable {world : Service}

theorem answers_pure (value : α) : Answers world (pure value) value := fun service _ same =>
  ⟨service, returns_done value _, same, trivial⟩

theorem answers_bind {program : ComputeProgram α} {next : α → ComputeProgram β} {value : α} {result : β}
    (first : Answers world program value) (later : Answers world (next value) result) :
    Answers world (program >>= next) result := by
  intro service faultless same
  obtain ⟨between, told, stays, asks⟩ := first service faultless same
  obtain ⟨left, told', stays', asks'⟩ := later between (faultless_of_returns faultless told) stays
  exact ⟨left, told.bind told', stays',
    (along_bind_of_returns told).2 ⟨asks, asks'⟩⟩

theorem answers_map {program : ComputeProgram α} {value : α} (answers : Answers world program value)
    (change : α → β) : Answers world (change <$> program) (change value) :=
  answers_bind answers (answers_pure (change value))

/-- A program that never does more than ask answers with what it returns. -/
theorem answers_of_makes {program : ComputeProgram α} {value : α}
    (made : program.Makes Service.Steady)
    (returns : ∀ service : Service, service.Faultless → service.stock = world.stock →
      ∃ left, program.Returns Service.handler service value left) : Answers world program value := by
  intro service faultless same
  obtain ⟨left, returned⟩ := returns service faultless same
  exact ⟨left, returned, (Service.still_stock.of_returns made returned).trans same,
    along_of_makes made (fun _ _ steady => steady) service⟩

namespace Account

variable {account : Account}

/-- A call of a pass that only asks of the service, as it is carried out from this state. -/
def Asks (account : Account) (call : Cloud.Call) (service : Service) : Prop :=
  (account.carryOut call).Along Service.handler (fun op _ => Service.Steady op) service

/-- Without faults the program tells this value on any site whose service has the stock of the world. It
only asks, and of the site it touches nothing but the service. -/
def Reports (account : Account) (world : Service) (program : Pass.PassProgram α) (value : α) : Prop :=
  ∀ site : Site Service, site.world.Faultless → site.world.stock = world.stock → ∃ left,
    program.Returns (Site.handler account.serve) site value { site with world := left } ∧
      left.stock = world.stock ∧
      program.Along (Site.handler account.serve) (Beside account.Asks) site

theorem reports_pure (value : α) : account.Reports world (pure value) value := fun site _ same =>
  ⟨site.world, returns_done value _, same, trivial⟩

theorem reports_bind {program : Pass.PassProgram α} {next : α → Pass.PassProgram β} {value : α}
    {result : β} (first : account.Reports world program value)
    (later : account.Reports world (next value) result) :
    account.Reports world (program >>= next) result := by
  intro site faultless same
  obtain ⟨between, told, stays, asks⟩ := first site faultless same
  obtain ⟨left, told', stays', asks'⟩ :=
    later { site with world := between } (faultless_site faultless told) stays
  exact ⟨left, told.bind told', stays',
    (along_bind_of_returns told).2 ⟨asks, asks'⟩⟩

theorem reports_log (line : LogLine) {next : Except Failure Unit → Pass.PassProgram α} {value : α}
    (reports : account.Reports world (next (.ok ())) value) :
    account.Reports world (.log line next) value := reports

theorem reports_cloud {call : Cloud.Call} {value : call.method.Answer}
    (answers : Answers world (account.carryOut call) value) (operation resource : String) :
    account.Reports world ((Pass.cloud call).during operation resource) value := by
  intro site faultless same
  obtain ⟨left, told, stays, asks⟩ := answers site.world faultless same
  exact ⟨left, returns_during.2 (cloud_of_carryOut told), stays,
    along_during.2 (along_perform.2 asks)⟩

end Account

end Compute

end Bastion
