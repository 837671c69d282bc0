import Bastion.Proofs.ServiceRuns

set_option autoImplicit false

namespace Bastion.Compute

open Program

/-- A method of a provider: what carries out a call of a pass, or one that others share. -/
inductive Procedure where
  | call (request : Cloud.Call)
  | listFirewalls
  | anchor (group : String)
  | groupRanges (group : String)
  | findMachine (filter : InstanceFilter)
  deriving DecidableEq, Repr

namespace Procedure

@[reducible]
def Answer : Procedure → Type
  | .call request => request.method.Answer
  | .listFirewalls => List Firewall
  | .anchor _ => Firewall
  | .groupRanges _ => List String
  | .findMachine _ => Option Machine

/-- The changes that one invocation may ask for. -/
def changes : Procedure → Nat
  | .call (.createGroup ..) | .call (.createInstance _) | .call (.createRule ..)
  | .call (.revokeRule ..) | .call (.allocateAddress _) => 1
  | _ => 0

/-- The ranges of a group are sought: of the one asked for, or of the one that an egress rule leads
to. -/
def SeeksRanges : Procedure → Prop
  | .groupRanges _ => True
  | .call (.createRule _ _ rule) =>
    rule.direction = .egress ∧ (present rule.destinationGroup).isSome
  | _ => False

theorem changes_le_one (procedure : Procedure) : procedure.changes ≤ 1 := by
  unfold changes
  split <;> decide

end Procedure

namespace ServiceCall

/-- The reads that are tried again: all but that of the subnetworks of a group. -/
def guarded : ServiceCall → Bool
  | .listSubnetworks .. => false
  | asked => !asked.mutates

/-- To a call that asks for a firewall by its name, this failure says that there is none. -/
def tells : ServiceCall → Failure → Bool
  | .getFirewall _, .api .notFound _ => true
  | _, _ => false

theorem not_mutates_of_guarded {asked : ServiceCall} (guarded : asked.guarded = true) :
    asked.mutates = false := by
  cases asked <;> first | rfl | cases guarded

theorem not_transient_of_tells {asked : ServiceCall} {failure : Failure}
    (told : asked.tells failure = true) : failure.transient = false := by
  unfold tells at told
  split at told
  · rfl
  · cases told

/-- What is made of an answer: a failure stays what it is unless it tells that there is nothing, and an
answer may be refused for what it says. -/
structure Judges {α : Type} (asked : ServiceCall)
    (judge : Except Failure asked.Answer → Except Failure α) : Prop where
  passes : ∀ failure, asked.tells failure = false → judge (.error failure) = .error failure
  hears : ∀ failure, asked.tells failure = true → ∃ value, judge (.error failure) = .ok value
  refuses : ∀ answer failure, judge (.ok answer) = .error failure →
    ∃ error, failure = .compute error

section Judges

variable {α : Type} {asked : ServiceCall} {judge : Except Failure asked.Answer → Except Failure α}

theorem Judges.passes_of_transient (judges : asked.Judges judge) {failure : Failure}
    (passes : failure.transient = true) : judge (.error failure) = .error failure := by
  refine judges.passes failure (Bool.eq_false_iff.2 fun told => ?_)
  rw [not_transient_of_tells told] at passes
  cases passes

theorem Judges.answer_of_transient (judges : asked.Judges judge)
    {answer : Except Failure asked.Answer} {failure : Failure}
    (judged : judge answer = .error failure) (passes : failure.transient = true) :
    answer = .error failure := by
  cases answer with
  | ok answer =>
    obtain ⟨error, rfl⟩ := judges.refuses answer failure judged
    cases passes
  | error raised =>
    cases told : asked.tells raised with
    | true =>
      obtain ⟨value, heard⟩ := judges.hears raised told
      cases heard.symm.trans judged
    | false => exact congrArg _ (Except.error.inj ((judges.passes raised told).symm.trans judged))

theorem Judges.own (judges : asked.Judges judge) {answer : Except Failure asked.Answer}
    (failure : Failure) (judged : judge answer = .error failure)
    (heard : ∀ raised, answer = .error raised → asked.tells raised = true) :
    ∃ error, failure = .compute error := by
  cases answer with
  | ok answer => exact judges.refuses answer failure judged
  | error raised =>
    obtain ⟨value, goesOn⟩ := judges.hears raised (heard raised rfl)
    cases goesOn.symm.trans judged

end Judges

theorem judges_bind {α : Type} {asked : ServiceCall} {judge : asked.Answer → Except Failure α}
    (silent : ∀ failure, asked.tells failure = false)
    (refuses : ∀ answer failure, judge answer = .error failure →
      ∃ error, failure = .compute error) :
    asked.Judges fun answer => answer >>= judge where
  passes _ _ := rfl
  hears failure told := by
    rw [silent failure] at told
    cases told
  refuses := refuses

end ServiceCall

/-- The calls of a program that may ask for so many changes, and for the subnetworks of a group where
`bare` admits it. -/
inductive Call.Admitted (bare : Prop) (changes : Nat) : Call → Prop
  | read {project : String} {asked : ServiceCall} (guarded : asked.guarded = true) :
    Admitted bare changes (.service project asked)
  | readOnce {project region network : String} (admitted : bare) :
    Admitted bare changes (.service project (.listSubnetworks region network))
  | change {project : String} {asked : ServiceCall} (mutates : asked.mutates = true)
    (left : 0 < changes) : Admitted bare changes (.service project asked)
  | wait (seconds : Nat) : Admitted bare changes (.awaitOperation seconds)
  | pause (seconds : Nat) : Admitted bare changes (.sleep seconds)

theorem Call.Admitted.mono {bare : Prop} {fewer changes : Nat} {op : Call}
    (admitted : op.Admitted bare fewer) (more : fewer ≤ changes) : op.Admitted bare changes := by
  cases admitted with
  | read guarded => exact .read guarded
  | readOnce admitted => exact .readOnce admitted
  | change mutates left => exact .change mutates (Nat.lt_of_lt_of_le left more)
  | wait seconds => exact .wait seconds
  | pause seconds => exact .pause seconds

/-- What is tried again makes the calls of one attempt, and pauses. -/
theorem makes_retrying {α : Type} {allowed : Call → Prop} {program : ComputeProgram α}
    (pauses : allowed (.sleep retrySeconds)) (made : program.Makes allowed) (more : Nat) :
    (retrying more program).Makes allowed := by
  induction more with
  | zero => exact made
  | succ more ih =>
    refine makes_recover made fun failure => ?_
    split
    · exact makes_bind (makes_perform (S := signature) pauses) fun _ => ih
    · trivial

/-- A value, or a refusal by what a compute service holds. -/
def Settled {α : Type} (program : ComputeProgram α) : Prop :=
  (∃ value, program = pure value) ∨ ∃ error, program = refuse error

namespace Account

def reading {α : Type} (account : Account) (asked : ServiceCall)
    (judge : Except Failure asked.Answer → Except Failure α) : ComputeProgram α :=
  .call (.service account.project asked) fun answer => .ofExcept (judge answer)

/-- Programs that ask for so many changes at most. The subnetworks of a group, which are not asked for
again, are asked for where `bare` admits it. -/
inductive Methodical (account : Account) (bare : Prop) :
    Nat → {α : Type} → ComputeProgram α → Prop
  | settled {α : Type} {changes : Nat} {program : ComputeProgram α} (settled : Settled program) :
    Methodical account bare changes program
  | note {α : Type} {changes : Nat} {next : Unit → ComputeProgram α} (line : LogLine)
    (rest : Methodical account bare changes (next ())) :
    Methodical account bare changes (.log line .ofExcept >>= next)
  | read {α : Type} {asked : ServiceCall} {judge : Except Failure asked.Answer → Except Failure α}
    (guarded : asked.guarded = true) (judges : asked.Judges judge) :
    Methodical account bare 0 (retried (account.reading asked judge))
  | readOnce (region network : String) (admitted : bare) :
    Methodical account bare 0 (account.service (.listSubnetworks region network))
  | change {asked : ServiceCall} (mutates : asked.mutates = true) :
    Methodical account bare 1 (account.service asked)
  | wait : Methodical account bare 0 awaitOperation
  | bind {α β : Type} (early late : Nat) {program : ComputeProgram α} {next : α → ComputeProgram β}
    (first : Methodical account bare early program)
    (later : ∀ value, Methodical account bare late (next value)) :
    Methodical account bare (early + late) (program >>= next)

namespace Methodical

variable {account : Account} {bare : Prop} {changes : Nat} {α β : Type}

theorem give (value : α) : Methodical account bare changes (pure value) :=
  .settled (.inl ⟨value, rfl⟩)

theorem refused (error : ComputeError) :
    Methodical account bare changes (refuse error : ComputeProgram α) :=
  .settled (.inr ⟨error, rfl⟩)

theorem map {program : ComputeProgram α} (methodical : Methodical account bare changes program)
    (change : α → β) : Methodical account bare changes (change <$> program) :=
  .bind changes 0 methodical fun value => .give (change value)

/-- A read that is tried again together with what is made of what it returned. -/
theorem ask {asked : ServiceCall} {next : asked.Answer → ComputeProgram α}
    (guarded : asked.guarded = true) (silent : ∀ failure, asked.tells failure = false)
    (settled : ∀ answer, Settled (next answer)) :
    Methodical account bare 0 (retried (account.service asked >>= next)) := by
  have judged : ∀ answer, ∃ judgement : Except Failure α, next answer = .ofExcept judgement ∧
      ∀ failure, judgement = .error failure → ∃ error, failure = .compute error := by
    intro answer
    rcases settled answer with ⟨value, same⟩ | ⟨error, same⟩
    · exact ⟨.ok value, same, fun failure impossible => by cases impossible⟩
    · refine ⟨.error (.compute error), same, fun failure told => ⟨error, ?_⟩⟩
      exact (Except.error.inj told).symm
  -- What is made of the answers is a function, although the program is given by its continuation.
  obtain ⟨judge, told⟩ := Classical.skolem.1 judged
  have read : account.service asked >>= next =
      account.reading asked fun answer => answer >>= judge := by
    change Program.call _ _ = Program.call _ _
    refine congrArg (Program.call _) (funext fun answer => ?_)
    cases answer with
    | error failure => rfl
    | ok answer => exact (told answer).1
  rw [read]
  exact .read guarded (ServiceCall.judges_bind silent fun answer => (told answer).2)

theorem makes {program : ComputeProgram α} (methodical : Methodical account bare changes program) :
    program.Makes (Call.Admitted bare changes) := by
  induction methodical with
  | settled settled => rcases settled with ⟨value, rfl⟩ | ⟨error, rfl⟩ <;> trivial
  | note line rest ih => exact makes_bind makes_ofExcept fun _ => ih
  | read guarded judges =>
    refine makes_retrying (.pause _) ?_ 2
    exact ⟨.read guarded, fun answer => makes_ofExcept _⟩
  | readOnce region network admitted => exact makes_perform (.readOnce admitted)
  | change mutates => exact makes_perform (.change mutates Nat.one_pos)
  | wait => exact makes_perform (.wait _)
  | bind early late first later ihFirst ihLater =>
    exact makes_bind (ihFirst.mono fun fits => fits.mono (Nat.le_add_right early late))
      fun value => (ihLater value).mono fun fits => fits.mono (Nat.le_add_left late early)

theorem steady {program : ComputeProgram α} (methodical : Methodical account bare 0 program) :
    program.Makes Service.Steady := by
  refine methodical.makes.mono fun admitted => ?_
  cases admitted with
  | read guarded => exact ServiceCall.not_mutates_of_guarded guarded
  | change mutates left => cases left
  | _ => trivial

end Methodical

section Programs

variable (account : Account) (bare : Prop)

theorem methodical_lookupNetwork (name : String) :
    Methodical account bare 0 (account.lookupNetwork name) := by
  refine .ask rfl (fun _ => rfl) fun network => ?_
  cases account.subnetOf network with
  | none => exact .inr ⟨_, rfl⟩
  | some subnet => exact .inl ⟨_, rfl⟩

theorem methodical_lookupSubnet (id : String) :
    Methodical account bare 0 (account.lookupSubnet id) := by
  refine .ask rfl (fun _ => rfl) fun subnet => ?_
  split
  · exact .inl ⟨_, rfl⟩
  · exact .inr ⟨_, rfl⟩

theorem methodical_listAvailability (cores : Int) (zone : String) :
    Methodical account bare 0 (account.listAvailability cores zone) :=
  .ask rfl (fun _ => rfl) fun _ => .inl ⟨_, rfl⟩

theorem methodical_findMachine (filter : InstanceFilter) :
    Methodical account bare 0 (account.findMachine filter) :=
  .ask rfl (fun _ => rfl) fun _ => .inl ⟨_, rfl⟩

theorem methodical_listFirewalls : Methodical account bare 0 account.listFirewalls := by
  have judges : ServiceCall.listFirewalls.Judges id :=
    { passes := fun _ _ => rfl
      hears := fun _ told => by cases told
      refuses := fun _ _ impossible => by cases impossible }
  exact .read rfl judges

theorem methodical_lookupGroup (name : String) :
    Methodical account bare 0 (account.lookupGroup name) := by
  let judge : Except Failure Firewall → Except Failure (Option Cloud.Group)
    | .ok firewall => .ok (some ⟨toString firewall.id, firewall.name, some firewall.network⟩)
    | .error failure =>
      if (ServiceCall.getFirewall name).tells failure then .ok none else .error failure
  have read : account.lookupGroup name = retried (account.reading (.getFirewall name) judge) := by
    refine congrArg retried (congrArg (Program.call _) (funext fun answer => ?_))
    rcases answer with failure | firewall
    · cases failure with
      | api code message => cases code <;> rfl
      | _ => rfl
    · rfl
  rw [read]
  refine .read rfl ⟨fun failure untold => ?_, fun failure told => ⟨none, if_pos told⟩, ?_⟩
  · change (if (ServiceCall.getFirewall name).tells failure then _ else _) = _
    rw [untold]
    rfl
  · intro answer failure impossible
    cases impossible

theorem methodical_lookupInstance (name : String) :
    Methodical account bare 0 (account.lookupInstance name) :=
  .bind 0 0 (account.methodical_findMachine bare _) fun _ => .give _

theorem methodical_anchorIn (firewalls : List Firewall) (group : String) :
    Methodical account bare 0 (anchorIn firewalls group) := by
  unfold anchorIn
  cases anchorIn? firewalls group with
  | none => exact .refused _
  | some anchor => exact .give anchor

theorem methodical_anchor (group : String) : Methodical account bare 0 (account.anchor group) :=
  .bind 0 0 (account.methodical_listFirewalls bare) fun firewalls =>
    account.methodical_anchorIn bare firewalls group

theorem methodical_readRules (firewalls : List Firewall) :
    Methodical account bare 0 (readRules firewalls) := by
  induction firewalls with
  | nil => exact .give []
  | cons firewall rest ih =>
    refine .bind 0 0 ?read fun rule => .bind 0 0 ih fun rules => .give _
    case read =>
      unfold readRule
      cases describedRule? firewall with
      | some rule => exact .give rule
      | none =>
        refine .note _ ?_
        cases rawRule firewall with
        | ok rule => exact .give rule
        | error error => exact .refused error

theorem methodical_describeRules (group : String) (direction : Direction) :
    Methodical account bare 0 (account.describeRules group direction) :=
  .bind 0 0 (account.methodical_listFirewalls bare) fun firewalls =>
    .bind 0 0 (account.methodical_anchorIn bare firewalls group) fun _ =>
      account.methodical_readRules bare _

theorem methodical_groupRanges {bare : Prop} (admitted : bare) (group : String) :
    Methodical account bare 0 (account.groupRanges group) := by
  refine .bind 0 0 (account.methodical_anchor bare group) fun anchor =>
    .bind 0 0 (.readOnce account.region anchor.network admitted) fun subnets => ?_
  split
  · exact .refused _
  · exact .give _

theorem methodical_destinations {bare : Prop} (rule : Rule)
    (admitted : rule.direction = .egress → (present rule.destinationGroup).isSome → bare) :
    Methodical account bare 0 (account.destinations rule) := by
  unfold destinations
  cases direction : rule.direction with
  | ingress => exact .give []
  | egress =>
    cases leads : present rule.destinationGroup with
    | none => exact .give _
    | some group =>
      rw [leads] at admitted
      exact account.methodical_groupRanges (admitted direction rfl) group

theorem methodical_change {asked : ServiceCall} (mutates : asked.mutates = true)
    {α : Type} {next : asked.Answer → ComputeProgram α}
    (later : ∀ answer, Methodical account bare 0 (next answer)) :
    Methodical account bare 1 (account.service asked >>= next) :=
  .bind 1 0 (.change mutates) later

theorem methodical_createGroup (network name : String) :
    Methodical account bare 1 (account.createGroup network name) := by
  refine account.methodical_change bare rfl fun _ => .bind 0 0 .wait fun _ =>
    .bind 0 0 (account.methodical_lookupGroup bare name) fun group => ?_
  cases group with
  | some group => exact .give group
  | none => exact .refused _

theorem methodical_createRule {bare : Prop} (group : String) (rule : Rule)
    (admitted : rule.direction = .egress → (present rule.destinationGroup).isSome → bare) :
    Methodical account bare 1 (account.createRule group rule) :=
  .bind 0 1 (account.methodical_anchor bare group) fun _ =>
    .bind 0 1 (account.methodical_destinations rule admitted) fun _ =>
      account.methodical_change bare rfl fun _ => .wait

theorem methodical_revokeRule (rule : Rule) :
    Methodical account bare 1 (account.revokeRule rule) := by
  unfold revokeRule
  cases present rule.handle with
  | none => exact .refused _
  | some handle => exact account.methodical_change bare rfl fun _ => .wait

theorem methodical_createInstance (spec : Cloud.InstanceSpec) :
    Methodical account bare 1 (account.createInstance spec) := by
  refine .bind 0 1 (account.methodical_anchor bare spec.group) fun _ =>
    account.methodical_change bare rfl fun _ => .bind 0 0 .wait fun _ =>
      .bind 0 0 (account.methodical_lookupInstance bare spec.name) fun created => ?_
  cases created with
  | some created => exact .give created
  | none => exact .refused _

theorem methodical_allocateAddress (instanceId : String) :
    Methodical account bare 1 (account.allocateAddress instanceId) := by
  refine .bind 0 1 (account.methodical_findMachine bare _) fun machine => ?_
  cases machine with
  | none => exact .refused _
  | some machine =>
    obtain ⟨id, name, status, interfaces⟩ := machine
    cases interfaces with
    | nil => exact .refused _
    | cons interface rest =>
      dsimp only
      split
      · exact .note _ (account.methodical_change bare rfl fun _ => .bind 0 0 .wait fun _ =>
          .bind 0 0 (account.methodical_lookupInstance bare name) fun _ => .give _)
      · exact .give _

end Programs

def program (account : Account) : (procedure : Procedure) → ComputeProgram procedure.Answer
  | .call request => account.carryOut request
  | .listFirewalls => account.listFirewalls
  | .anchor group => account.anchor group
  | .groupRanges group => account.groupRanges group
  | .findMachine filter => account.findMachine filter

theorem methodical_carryOut (account : Account) (request : Cloud.Call) :
    Methodical account (Procedure.call request).SeeksRanges (Procedure.call request).changes
      (account.carryOut request) := by
  cases request with
  | lookupNetwork name => exact (account.methodical_lookupNetwork _ name).map some
  | lookupSubnet id => exact (account.methodical_lookupSubnet _ id).map some
  | listAvailability cores zone => exact (account.methodical_listAvailability _ cores zone).map some
  | lookupGroup name => exact account.methodical_lookupGroup _ name
  | createGroup network name => exact (account.methodical_createGroup _ network name).map some
  | lookupInstance name => exact account.methodical_lookupInstance _ name
  | createInstance spec => exact (account.methodical_createInstance _ spec).map some
  | describeRules group direction =>
    exact (account.methodical_describeRules _ group direction).map some
  | createRule direction group rule =>
    exact (account.methodical_createRule group rule fun leaves leads => ⟨leaves, leads⟩).map _
  | revokeRule direction group rule => exact (account.methodical_revokeRule _ rule).map _
  | allocateAddress instanceId => exact (account.methodical_allocateAddress _ instanceId).map _

theorem methodical_program (account : Account) (procedure : Procedure) :
    Methodical account procedure.SeeksRanges procedure.changes (account.program procedure) := by
  cases procedure with
  | call request => exact account.methodical_carryOut request
  | listFirewalls => exact account.methodical_listFirewalls _
  | anchor group => exact account.methodical_anchor _ group
  | groupRanges group => exact account.methodical_groupRanges trivial group
  | findMachine filter => exact account.methodical_findMachine _ filter

end Account

end Bastion.Compute
