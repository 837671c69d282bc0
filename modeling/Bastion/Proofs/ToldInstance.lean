import Bastion.Proofs.UnscriptedRuns

set_option autoImplicit false

namespace Bastion

variable {S : Signature} {σ α β : Type}

def AnsweredAlike {A : Type} (alike : A → A → Prop) : Except Failure A → Except Failure A → Prop
  | .ok value, .ok other => alike value other
  | .error failure, .error other => failure = other
  | _, _ => False

/-- Two worlds that differ in nothing but answers that are alike. -/
structure Handler.Alike (alike : (op : S.Op) → S.Answer op → S.Answer op → Prop)
    (handler other : Handler S σ) : Prop where
  answers : ∀ op state,
    AnsweredAlike (alike op) (handler op state).answer (other op state).answer
  states : ∀ op state, (other op state).state = (handler op state).state
  logs : ∀ op state, (other op state).log = (handler op state).log

namespace Program

variable {alike : (op : S.Op) → S.Answer op → S.Answer op → Prop} {program : Program S α}

/-- The program goes on in the same way after answers that are alike. -/
def Blind (alike : (op : S.Op) → S.Answer op → S.Answer op → Prop) : Program S α → Prop
  | .done _ => True
  | .fail _ => True
  | .log _ rest => ∀ answer, (rest answer).Blind alike
  | .call op rest =>
    (∀ value other, alike op value other → rest (.ok value) = rest (.ok other)) ∧
      ∀ answer, (rest answer).Blind alike

theorem Blind.run_eq {handler other : Handler S σ} (blind : program.Blind alike)
    (same : handler.Alike alike other) (state : σ) :
    program.run other state = program.run handler state := by
  induction program generalizing state with
  | done value => rfl
  | fail failure => rfl
  | log line rest ih =>
    unfold run
    rw [ih _ (blind _) state]
  | call op rest ih =>
    have next : rest (other op state).answer = rest (handler op state).answer := by
      have answers := same.answers op state
      cases told : (handler op state).answer with
      | ok value =>
        cases toldOther : (other op state).answer with
        | ok value' =>
          rw [told, toldOther] at answers
          exact (blind.1 value value' answers).symm
        | error failure =>
          rw [told, toldOther] at answers
          exact answers.elim
      | error failure =>
        cases toldOther : (other op state).answer with
        | ok value =>
          rw [told, toldOther] at answers
          exact answers.elim
        | error failure' =>
          rw [told, toldOther] at answers
          exact congrArg (fun lost => rest (.error lost)) answers.symm
    simp only [run, next, same.states, same.logs, ih _ (blind.2 _)]

theorem blind_bind {next : α → Program S β} (first : program.Blind alike)
    (later : ∀ value, (next value).Blind alike) : (program >>= next).Blind alike := by
  change (program.bind next).Blind alike
  induction program with
  | done value => exact later value
  | fail failure => trivial
  | log line rest ih => exact fun answer => ih answer (first answer)
  | call op rest ih =>
    refine ⟨fun value other same => ?_, fun answer => ih answer (first.2 answer)⟩
    exact congrArg (·.bind next) (first.1 value other same)

theorem blind_ofExcept (answer : Except Failure α) :
    (ofExcept answer : Program S α).Blind alike := by
  cases answer <;> trivial

theorem blind_info (text : String) : (info text : Program S Unit).Blind alike := blind_ofExcept

theorem blind_call (op : S.Op) {operation resource : String} {next : S.Answer op → Program S α}
    (usual : ∀ value other, alike op value other → next value = next other)
    (later : ∀ value, (next value).Blind alike) :
    ((perform op).during operation resource >>= next).Blind alike := by
  refine ⟨usual, fun answer => ?_⟩
  cases answer with
  | ok value => exact later value
  | error failure => trivial

end Program

namespace Pass

open Cloud (Instance)
open Program

def unnamed (found : Instance) : Instance := { found with name := "" }

/-- Answers that are one and the same, but for the name of an instance that was looked up. -/
def AlikeButName : (op : signature.Op) → signature.Answer op → signature.Answer op → Prop
  | .other (.lookupInstance _), value, other => value.map unnamed = other.map unnamed
  | _, value, other => value = other

theorem alikeButName_instance {name : String} {value other : Option Instance}
    (alike : AlikeButName (.other (.lookupInstance name)) value other) :
    value = none ∧ other = none ∨ ∃ found name, value = some found ∧
      other = some { found with name := name } := by
  have same : value.map unnamed = other.map unnamed := alike
  cases value with
  | none =>
    cases other with
    | none => exact .inl ⟨rfl, rfl⟩
    | some _ => cases same
  | some found =>
    cases other with
    | none => cases same
    | some renamed =>
      obtain ⟨id, _, status, addresses, outer⟩ := found
      obtain ⟨id', name', status', addresses', outer'⟩ := renamed
      injection same with same
      injection same with id _ status addresses outer
      subst id status addresses outer
      exact .inr ⟨_, name', rfl, rfl⟩

variable {σ α : Type} {handler : Handler signature σ} {request : Request} {group instanceId : String}

theorem blind_cloud (call : Cloud.Call) (other : ∀ name, call ≠ .lookupInstance name)
    {operation resource : String} {next : call.method.Answer → PassProgram α}
    (later : ∀ answer, (next answer).Blind AlikeButName) :
    ((cloud call).during operation resource >>= next).Blind AlikeButName := by
  refine blind_call (S := signature) (.other call) (fun value answer alike => ?_) later
  cases call with
  | lookupInstance name => exact absurd rfl (other name)
  | _ => exact congrArg next alike

/-- A look-up of an instance, after which the name that it is told is not looked at. -/
theorem blind_lookupInstance {name operation resource : String}
    {next : Option Instance → PassProgram α}
    (renamed : ∀ found name, next (some { found with name := name }) = next (some found))
    (later : ∀ answer, (next answer).Blind AlikeButName) :
    ((lookupInstance name).during operation resource >>= next).Blind AlikeButName := by
  refine blind_call (S := signature) (.other (.lookupInstance name))
    (fun value other alike => ?_) later
  rcases alikeButName_instance alike with ⟨rfl, rfl⟩ | ⟨found, name, rfl, rfl⟩
  · rfl
  · exact (renamed found name).symm

theorem blind_checkInstance (name : String) : (checkInstance name).Blind AlikeButName := by
  refine blind_lookupInstance (fun _ _ => rfl) fun answer => ?_
  cases answer <;> trivial

theorem blind_instanceEndpoints (name : String) (address : Json) :
    (instanceEndpoints name address).Blind AlikeButName := by
  refine blind_lookupInstance (fun _ _ => rfl) fun answer => ?_
  cases answer with
  | none => trivial
  | some found =>
    change (ofExcept (endpointsOf name found address)).Blind _
    cases endpointsOf name found address <;> trivial

theorem blind_privateAddress (name : String) : (privateAddress name).Blind AlikeButName := by
  refine blind_lookupInstance (fun _ _ => rfl) fun answer => ?_
  cases answer.bind Instance.privateAddress <;> trivial

theorem blind_addRules (direction : Direction) (rules : List Rule) :
    (addRules direction group rules).Blind AlikeButName := by
  induction rules with
  | nil => trivial
  | cons rule rest ih =>
    exact blind_cloud (.createRule direction group rule) nofun fun _ =>
      blind_bind (blind_info _) fun _ => ih

theorem blind_revokeRules (direction : Direction) (rules : List Rule) :
    (revokeRules direction group rules).Blind AlikeButName := by
  induction rules with
  | nil => trivial
  | cons rule rest ih =>
    exact blind_cloud (.revokeRule direction group rule) nofun fun _ =>
      blind_bind (blind_info _) fun _ => ih

theorem blind_settle (direction : Direction) (wanted : List Rule) :
    (settle direction group wanted).Blind AlikeButName := by
  refine blind_bind (blind_cloud (.describeRules group direction) nofun fun answer => ?_) fun current =>
    blind_bind (blind_addRules direction _) fun _ => blind_revokeRules direction _
  cases answer <;> trivial

theorem blind_workloadGroup (name : String) : (workloadGroup name).Blind AlikeButName := by
  refine blind_cloud (.lookupGroup name) nofun fun answer => ?_
  cases answer <;> trivial

theorem blind_publish (name : String) (endpoints : Endpoints) :
    (publish name endpoints).Blind AlikeButName := by
  unfold publish
  exact blind_call (S := signature) (.patchStatus name _) (fun _ _ _ => rfl) fun _ => blind_info _

theorem blind_requeueLater (requeue : Requeue) : (requeueLater requeue).Blind AlikeButName :=
  blind_bind (blind_info _) fun _ => trivial

/-- From the look at its instance on, a pass does not look at the name that an instance is told with. -/
theorem blind_whenRunning (request : Request) (group instanceId : String) :
    (whenRunning request group instanceId).Blind AlikeButName := by
  refine blind_bind (blind_checkInstance _) fun requeue => ?_
  cases requeue with
  | some requeue => exact blind_requeueLater requeue
  | none =>
    have rules : (reconcileRules request group).Blind AlikeButName := by
      rw [reconcileRules_eq]
      exact blind_bind (blind_settle .ingress _) fun _ => blind_bind (blind_workloadGroup _) fun _ =>
        blind_bind (blind_privateAddress _) fun _ => blind_settle .egress _
    refine blind_bind rules fun _ => blind_cloud (.allocateAddress instanceId) nofun fun address =>
      blind_bind (blind_instanceEndpoints _ address) fun endpoints => ?_
    cases checkEndpoints endpoints with
    | some requeue => exact blind_requeueLater requeue
    | none => exact blind_bind (blind_publish _ _) fun _ => trivial

/-- What a pass does up to the group and the instance that it ensures. -/
def preparing (request : Request) : PassProgram (String × String) := do
  let options := request.options
  .debug s!"Reconciling bastion {request.bastionName} ({options.instanceName})"
  let image ← imageOf request
  let place ← resolveNetwork options.networkName
  let type ← resolveInstanceType place.zone request.cluster coreCandidates
  let group ← ensureGroup options.groupName place.network
  let instanceId ← ensureInstance
    { name := options.instanceName
      group := group
      image := image
      subnet := place.subnet
      zone := place.zone
      type := type
      userData := options.userData }
  return (group, instanceId)

theorem reconcile_eq_preparing (request : Request) :
    reconcile request =
      preparing request >>= fun ensured => whenRunning request ensured.1 ensured.2 := by
  unfold preparing
  simp only [bind_assoc]
  rfl

/-- A look-up of the bastion was answered with this instance. -/
def Told (request : Request) (said : List (Exchange signature)) (found : Instance) : Prop :=
  told (.lookupInstance request.options.instanceName) (some found) ∈ said

/-- Each decision of a pass is one about an instance that it was told before. -/
structure DecidedBy (request : Request) (said : List (Exchange signature))
    (result : Except Failure Outcome) : Prop where
  waits : ∀ name status, result = .ok (.requeue (.instanceNotReady name status)) →
    ∃ found, Told request said found ∧ found.status = status ∧ status ≠ .running
  starts : ∀ early exchange later, said = early ++ exchange :: later → Late exchange.op →
    ∃ found, Told request early found ∧ found.status = .running
  leadsOut : ∀ early exchange later, said = early ++ exchange :: later →
    ∀ group rule, exchange.op = .other (.createRule .egress group rule) →
      ∃ found address workload, Told request early found ∧ found.privateAddress = some address ∧
        rule ∈ Rule.wantedEgress (some address) (some workload)
  reaches : ∀ endpoints, result = .ok (.succeeded endpoints) →
    ∃ found address, Told request said found ∧ found.status = .running ∧
      found.privateAddress = some address ∧ endpoints.inner = some ⟨none, some address⟩

theorem opens_whenRunning (request : Request) (group instanceId : String) :
    (whenRunning request group instanceId).Opens handler fun full => ∃ running rules publishing,
      running.status = .running ∧ ReconcilesRules request group rules ∧
        Publishes request instanceId publishing ∧
        full = told (.lookupInstance request.options.instanceName) (some running) ::
          (rules ++ publishing) := by
  have opens : (whenRunning request group instanceId).Opens handler _ :=
    opens_checkInstance _ silent_requeueLater (opens_finish request group instanceId)
  refine opens.mono ?_
  rintro _ ⟨running, _, runs, ⟨rules, publishing, settled, published, rfl⟩, rfl⟩
  exact ⟨running, rules, publishing, runs, settled, published, rfl⟩

theorem SettlesRules.created {direction way : Direction} {other : String} {wanted : List Rule}
    {course : List (Exchange signature)} {exchange : Exchange signature} {rule : Rule}
    (settles : SettlesRules direction group wanted course) (member : exchange ∈ course)
    (creates : exchange.op = .other (.createRule way other rule)) :
    way = direction ∧ rule ∈ wanted := by
  obtain ⟨current, changes, asked⟩ := settles
  rcases List.mem_cons.1 member with rfl | change
  · cases creates
  · have op : exchange.op ∈ changes.map Exchange.op := List.mem_map_of_mem change
    rw [asked, creates] at op
    rcases List.mem_append.1 op with added | removed
    · obtain ⟨_, isAdded, same⟩ := List.mem_map.1 added
      injection same with same
      injection same with way _ rule
      subst way rule
      exact ⟨rfl, (Rule.mem_of_mem_added isAdded).1⟩
    · obtain ⟨_, _, same⟩ := List.mem_map.1 removed
      cases same

theorem Publishes.creates_none {course : List (Exchange signature)} {exchange : Exchange signature}
    (publishes : Publishes request instanceId course) (member : exchange ∈ course)
    {direction : Direction} {rule : Rule} :
    exchange.op ≠ .other (.createRule direction group rule) := by
  obtain ⟨address, found, patch⟩ := publishes
  simp only [List.mem_cons, List.not_mem_nil, or_false] at member
  rcases member with rfl | rfl | rfl <;> exact nofun

/-- A rule that leads out is created after a look-up of the bastion that told where it leads from. -/
theorem told_before_created {running : Instance}
    {rules publishing early rest : List (Exchange signature)}
    {exchange : Exchange signature} {other : String} {rule : Rule}
    (settled : ReconcilesRules request group rules)
    (published : Publishes request instanceId publishing)
    (split : told (.lookupInstance request.options.instanceName) (some running) ::
      (rules ++ publishing) = early ++ exchange :: rest)
    (creates : exchange.op = .other (.createRule .egress other rule)) :
    ∃ found address workload, Told request early found ∧ found.privateAddress = some address ∧
      rule ∈ Rule.wantedEgress (some address) (some workload) := by
  obtain ⟨workload, found, address, addressed, ingress, egress, settlesIn, settlesOut⟩ := settled
  let looked : List (Exchange signature) :=
    told (.lookupInstance request.options.instanceName) (some running) :: ingress ++
      [told (.lookupGroup request.options.workloadGroupName) (some workload),
        told (.lookupInstance request.options.instanceName) (some found)]
  have whole : looked ++ (egress ++ publishing) = early ++ exchange :: rest := by
    rw [← split]
    simp [looked]
  have missing : exchange ∉ looked := by
    intro member
    simp only [looked, List.cons_append, List.mem_cons, List.mem_append, List.not_mem_nil,
      or_false] at member
    rcases member with rfl | inside | rfl | rfl
    · cases creates
    · cases (settlesIn.created inside creates).1
    · cases creates
    · cases creates
  obtain ⟨between, rfl, later⟩ := split_after whole missing
  have member : exchange ∈ egress ++ publishing := by
    rw [later]
    exact List.mem_append_right _ List.mem_cons_self
  refine ⟨found, address, workload.id, ?_, addressed, ?_⟩
  · exact List.mem_append_left _ (List.mem_append_right _ (by simp))
  · rcases List.mem_append.1 member with inside | publishes
    · exact (settlesOut.created inside creates).2
    · exact absurd creates (published.creates_none publishes)

variable {before after : σ}

theorem returns_checkInstance {name : String} {requeue : Option Requeue}
    (returned : (checkInstance name).Returns handler before requeue after) :
    ∃ found : Instance,
      (checkInstance name).transcript handler before =
        [told (.lookupInstance name) (some found)] ∧
      requeue = if found.status = .running then none
        else some (.instanceNotReady name found.status) := by
  obtain ⟨found, between, asked, rest⟩ := returns_bind.1 returned
  cases found with
  | none => exact (returns_fail.1 rest).elim
  | some found =>
    refine ⟨found, ?_, (returns_pure.1 rest).1.symm⟩
    refine (transcript_bind_of_returns asked).trans ?_
    change ((cloud (.lookupInstance name)).during _ _).transcript handler before ++ [] = _
    rw [transcript_cloud (.lookupInstance name) asked]
    rfl

theorem checkEndpoints_some {endpoints : Endpoints} {requeue : Requeue}
    (missing : checkEndpoints endpoints = some requeue) : requeue = .endpointsMissing := by
  unfold checkEndpoints at missing
  split at missing
  · cases missing
  · exact (Option.some.inj missing).symm

/-- After the rules a pass is put off for want of endpoints only. -/
theorem requeue_of_finish {requeue : Requeue}
    (returned : (finish request group instanceId).Returns handler before (.requeue requeue) after) :
    requeue = .endpointsMissing := by
  obtain ⟨_, _, _, rest⟩ := returns_bind.1 returned
  obtain ⟨address, _, _, rest⟩ := returns_bind.1 rest
  obtain ⟨endpoints, between, _, rest⟩ := returns_bind.1 rest
  cases checked : checkEndpoints endpoints with
  | some missing =>
    rw [checked] at rest
    obtain ⟨_, _, _, ended⟩ := returns_bind.1 rest
    obtain rfl := Outcome.requeue.inj (returns_pure.1 ended).1
    exact checkEndpoints_some checked
  | none =>
    rw [checked] at rest
    obtain ⟨_, _, _, ended⟩ := returns_bind.1 rest
    cases (returns_pure.1 ended).1

/-- The endpoints of a pass that succeeds are those of an instance that it was told running. -/
theorem told_of_finish {endpoints : Endpoints}
    (returned : (finish request group instanceId).Returns handler before (.succeeded endpoints)
      after) :
    ∃ found address,
      Told request ((finish request group instanceId).transcript handler before) found ∧
      found.status = .running ∧ found.privateAddress = some address ∧
      endpoints.inner = some ⟨none, some address⟩ := by
  rw [finish_eq] at returned ⊢
  obtain ⟨value, between, approached, announced⟩ := returns_bind.1 returned
  rw [transcript_bind_of_returns approached]
  cases value with
  | requeue requeue =>
    obtain ⟨_, _, _, ended⟩ := returns_bind.1 announced
    cases (returns_pure.1 ended).1
  | ready made =>
    obtain ⟨_, _, _, ended⟩ := returns_bind.1 announced
    obtain rfl := Outcome.succeeded.inj (returns_pure.1 ended).1
    obtain ⟨_, found, words⟩ := lastWords_of_running approached
    obtain ⟨running, ⟨address, located, reached⟩, _⟩ := endpointsOf_ok words.make words.ready
    have looked := words.ends.subset (List.mem_cons_of_mem _ (List.mem_singleton_self _))
    exact ⟨found, address, List.mem_append_left _ looked, running, located, reached⟩

/-- A pass that returns was told an instance. Where that was not running this is all that comes of it. -/
theorem returns_whenRunning {outcome : Outcome}
    (returned : (whenRunning request group instanceId).Returns handler before outcome after) :
    ∃ found, Told request ((whenRunning request group instanceId).transcript handler before) found ∧
      if found.status = .running then
        ∃ between, (finish request group instanceId).Returns handler between outcome after ∧
          (finish request group instanceId).transcript handler between ⊆
            (whenRunning request group instanceId).transcript handler before
      else outcome = .requeue (.instanceNotReady request.options.instanceName found.status) := by
  obtain ⟨requeue, between, checked, rest⟩ := returns_bind.1 returned
  obtain ⟨found, words, rfl⟩ := returns_checkInstance checked
  rw [whenRunning, transcript_bind_of_returns checked, words]
  refine ⟨found, List.mem_append_left _ (List.mem_singleton_self _), ?_⟩
  by_cases runs : found.status = .running
  · rw [if_pos runs] at rest
    rw [if_pos runs, if_pos runs]
    exact ⟨between, rest, List.subset_append_right _ _⟩
  · rw [if_neg runs] at rest
    rw [if_neg runs]
    obtain ⟨_, _, _, waiting⟩ := returns_bind.1 rest
    exact (returns_pure.1 waiting).1.symm

theorem decided_whenRunning (handler : Handler signature σ) (request : Request)
    (group instanceId : String) (state : σ) :
    DecidedBy request ((whenRunning request group instanceId).transcript handler state)
      ((whenRunning request group instanceId).run handler state).result := by
  have opens : (whenRunning request group instanceId).Opens handler _ :=
    opens_whenRunning request group instanceId
  obtain ⟨_, ⟨running, rules, publishing, runs, settled, published, rfl⟩, begun⟩ := opens state
  refine ⟨fun name status ended => ?_, fun early exchange later said late => ?_,
    fun early exchange later said other rule creates => ?_, fun endpoints ended => ?_⟩
  · obtain ⟨found, told, rest⟩ := returns_whenRunning (returns_of_ok ended)
    by_cases runs : found.status = .running
    · rw [if_pos runs] at rest
      obtain ⟨_, finished, _⟩ := rest
      cases requeue_of_finish finished
    · rw [if_neg runs] at rest
      injection rest with same
      injection same with _ same
      exact ⟨found, told, same.symm, same ▸ runs⟩
  · rw [said] at begun
    obtain ⟨same, rest, split, op⟩ := begun.split
    cases early with
    | nil =>
      obtain ⟨rfl, _⟩ := List.cons.inj split
      rw [← op] at late
      exact late.elim
    | cons first early =>
      obtain ⟨rfl, _⟩ := List.cons.inj split
      exact ⟨running, List.mem_cons_self, runs⟩
  · rw [said] at begun
    obtain ⟨same, rest, split, op⟩ := begun.split
    exact told_before_created settled published split (op.trans creates)
  · obtain ⟨found, told, rest⟩ := returns_whenRunning (returns_of_ok ended)
    by_cases runs : found.status = .running
    · rw [if_pos runs] at rest
      obtain ⟨_, finished, inside⟩ := rest
      obtain ⟨found, address, told, decides⟩ := told_of_finish finished
      exact ⟨found, address, inside told, decides⟩
    · rw [if_neg runs] at rest
      cases rest

/-- Once a pass of `reconcile` has ensured its instance, it decides by the instances that
`lookup_instance` tells it of the bastion, and a provider that tells them under other names would see the
very same run. -/
theorem told_instance_decides (handler : Handler signature σ) (request : Request) :
    reconcile request =
        preparing request >>= (fun ensured => whenRunning request ensured.1 ensured.2) ∧
      ∀ group instanceId state,
        DecidedBy request ((whenRunning request group instanceId).transcript handler state)
            ((whenRunning request group instanceId).run handler state).result ∧
          ∀ other, handler.Alike AlikeButName other →
            (whenRunning request group instanceId).run other state =
              (whenRunning request group instanceId).run handler state :=
  ⟨reconcile_eq_preparing request, fun group instanceId state =>
    ⟨decided_whenRunning handler request group instanceId state, fun _ alike =>
      (blind_whenRunning request group instanceId).run_eq alike state⟩⟩

/-- A provider that finds the bastion when it is ensured, and after that another instance. -/
def strangerSite : Site Cloud.Memory :=
  let stranger : Instance := ⟨"i-9", "bastion-10", .running, ["10.0.0.99"], none⟩
  let site := officeSite (Cloud.Script.empty.set .lookupInstance
    [none, some (.ok (some stranger)), some (.ok (some stranger)), some (.ok (some stranger))]) []
  { site with world := { site.world with publicAddress := .string "198.51.100.9" } }

/-- The address of another instance is let out and returned as that of the bastion. -/
theorem stranger_taken_for_bastion :
    let run := (reconcile stockedRequest).run (Site.handler Cloud.Memory.handler) strangerSite
    run.result = .ok (.succeeded
      ⟨some ⟨none, some "10.0.0.99"⟩, some ⟨none, some "198.51.100.9"⟩⟩) ∧
      .other (.createRule .egress "sg-bastion-1"
        (Rule.allowWorkload (some "10.0.0.99") (some "sg-shoot"))) ∈ run.calls := by
  intro run
  have created : run.calls[13]? = some (.other (.createRule .egress "sg-bastion-1"
      (Rule.allowWorkload (some "10.0.0.99") (some "sg-shoot")))) := rfl
  exact ⟨by decide +kernel, List.mem_of_getElem? created⟩

end Pass

end Bastion
