import Bastion.Proofs.CallOrder

set_option autoImplicit false

namespace Bastion.Pass

open Program
open Cloud (Instance)

/-- What an approach ends with: a reason to run the pass again, or endpoints that are ready. -/
inductive Approach where
  | requeue (requeue : Requeue)
  | ready (endpoints : Endpoints)

/-- The steps that need a running instance, up to the endpoints. -/
def approachRunning (request : Request) (group instanceId : String) : PassProgram Approach := do
  let name := request.options.instanceName
  reconcileRules request group
  let address ← (allocateAddress instanceId).during "allocate public address for" name
  let endpoints ← instanceEndpoints name address
  match checkEndpoints endpoints with
  | some requeue => return .requeue requeue
  | none => return .ready endpoints

def approach (request : Request) : PassProgram Approach := do
  let options := request.options
  .debug s!"Reconciling bastion {request.bastionName} ({options.instanceName})"
  let image ← imageOf request
  let place ← resolveNetwork options.networkName
  let type ← resolveInstanceType place.zone request.cluster coreCandidates
  let group ← ensureGroup options.groupName place.network
  let instanceId ← ensureInstance
    { name := options.instanceName
      group := group
      image := image
      subnet := place.subnet
      zone := place.zone
      type := type
      userData := options.userData }
  match ← checkInstance options.instanceName with
  | some requeue => return .requeue requeue
  | none => approachRunning request group instanceId

def announce (name : String) : Approach → PassProgram Outcome
  | .requeue requeue => requeueLater requeue
  | .ready endpoints => do
    publish name endpoints
    return .succeeded endpoints

theorem finish_eq (request : Request) (group instanceId : String) :
    finish request group instanceId =
      approachRunning request group instanceId >>= announce request.bastionName := by
  unfold finish approachRunning
  simp only [bind_assoc]
  refine congrArg _ (funext fun _ => congrArg _ (funext fun address =>
    congrArg _ (funext fun endpoints => ?_)))
  cases checkEndpoints endpoints <;> rfl

theorem reconcile_eq (request : Request) :
    reconcile request = approach request >>= announce request.bastionName := by
  unfold reconcile approach
  simp only [bind_assoc]
  refine congrArg _ (funext fun _ => congrArg _ (funext fun image => congrArg _ (funext fun place =>
    congrArg _ (funext fun type => congrArg _ (funext fun group => congrArg _ (funext fun id =>
      congrArg _ (funext fun requeue => ?_)))))))
  cases requeue with
  | some requeue => rfl
  | none => exact finish_eq request group id

def BesideStatus : signature.Op → Prop := OnCloud fun _ => True

theorem makes_beside (call : Cloud.Call) : (cloud call).Makes BesideStatus :=
  makes_cloud trivial

/-- A call that looks around, on the way to what a pass needs. -/
inductive Looks : Cloud.Call → Prop where
  | network (name : String) : Looks (.lookupNetwork name)
  | subnet (id : String) : Looks (.lookupSubnet id)
  | availability (cores : Int) (zone : String) : Looks (.listAvailability cores zone)
  | group (name : String) : Looks (.lookupGroup name)
  | machine (name : String) : Looks (.lookupInstance name)

theorem beside_of_looks {op : signature.Op} (looks : OnCloud Looks op) : BesideStatus op := by
  obtain ⟨call, _, same⟩ := looks
  exact ⟨call, trivial, same⟩

theorem makes_imageOf {allowed : signature.Op → Prop} (request : Request) :
    (imageOf request).Makes allowed := by
  unfold imageOf
  cases resolveImage request.options request.cluster <;> trivial

theorem makes_resolveNetwork (name : String) : (resolveNetwork name).Makes (OnCloud Looks) := by
  refine makes_bind (makes_during (makes_cloud (.network name))) fun network => ?_
  cases network with
  | none => trivial
  | some network =>
    refine makes_bind (makes_during (makes_cloud (.subnet network.subnet))) fun subnet => ?_
    cases subnet <;> trivial

theorem makes_availableType (zone : String) (candidates : List Int) :
    (availableType zone candidates).Makes (OnCloud Looks) := by
  induction candidates with
  | nil => trivial
  | cons cores rest ih =>
    refine makes_bind (makes_during (makes_cloud (.availability cores zone))) fun availability => ?_
    cases present (availability.bind Cloud.Availability.availableType) with
    | some type => trivial
    | none => exact ih

theorem makes_resolveInstanceType (zone : String) (cluster : Cluster) (candidates : List Int) :
    (resolveInstanceType zone cluster candidates).Makes (OnCloud Looks) := by
  refine makes_bind (makes_availableType zone candidates) fun type => ?_
  cases type with
  | some type => trivial
  | none =>
    cases cluster.machineTypes with
    | nil => trivial
    | cons machine rest => exact makes_bind (makes_info _) fun _ => trivial

theorem makes_createdId {allowed : signature.Op → Prop} (operation name : String)
    (id : Option String) : (createdId operation name id).Makes allowed := by
  unfold createdId
  cases present id <;> trivial

theorem makes_ensureGroup (name network : String) :
    (ensureGroup name network).Makes BesideStatus := by
  refine makes_bind (makes_during (makes_beside _)) fun found => ?_
  cases found.filter (·.name = name) with
  | some group => exact makes_bind (makes_info _) fun _ => trivial
  | none =>
    exact makes_bind (makes_info _) fun _ =>
      makes_bind (makes_during (makes_beside _)) fun _ => makes_createdId _ _ _

theorem makes_ensureInstance (spec : Cloud.InstanceSpec) :
    (ensureInstance spec).Makes BesideStatus := by
  refine makes_bind (makes_during (makes_beside _)) fun found => ?_
  cases found.filter (·.name = spec.name) with
  | some found => trivial
  | none =>
    exact makes_bind (makes_info _) fun _ =>
      makes_bind (makes_during (makes_beside _)) fun _ => makes_createdId _ _ _

theorem makes_checkInstance (name : String) : (checkInstance name).Makes (OnCloud Looks) := by
  refine makes_bind (makes_during (makes_cloud (.machine name))) fun found => ?_
  cases found <;> trivial

theorem makes_instanceEndpoints (name : String) (address : Json) :
    (instanceEndpoints name address).Makes (OnCloud Looks) := by
  refine makes_bind (makes_during (makes_cloud (.machine name))) fun found => ?_
  cases found with
  | none => trivial
  | some found =>
    change (ofExcept (endpointsOf name found address)).Makes _
    cases endpointsOf name found address <;> trivial

theorem makes_approachRunning (request : Request) (group instanceId : String) :
    (approachRunning request group instanceId).Makes BesideStatus := by
  have rules : (reconcileRules request group).Makes BesideStatus :=
    (makes_reconcileRules request group).mono fun ⟨asked, _, same⟩ => ⟨asked, trivial, same⟩
  refine makes_bind rules fun _ => makes_bind (makes_during (makes_beside _)) fun address =>
    makes_bind ((makes_instanceEndpoints _ address).mono beside_of_looks) fun endpoints => ?_
  cases checkEndpoints endpoints <;> trivial

theorem makes_approach (request : Request) : (approach request).Makes BesideStatus := by
  refine makes_bind (makes_debug _) fun _ => makes_bind (makes_imageOf request) fun image =>
    makes_bind ((makes_resolveNetwork _).mono beside_of_looks) fun place =>
      makes_bind ((makes_resolveInstanceType _ _ _).mono beside_of_looks) fun type =>
        makes_bind (makes_ensureGroup _ _) fun group =>
          makes_bind (makes_ensureInstance _) fun instanceId =>
            makes_bind ((makes_checkInstance _).mono beside_of_looks) fun requeue => ?_
  cases requeue with
  | some requeue => trivial
  | none => exact makes_approachRunning request group instanceId

variable {σ : Type} {handler : Handler signature σ} {before after : σ}

theorem suffix_of_returns {α β : Type} {program : PassProgram α} {next : α → PassProgram β}
    {between : σ} {value : α} (returned : program.Returns handler before value between) :
    (next value).transcript handler between <:+ (program >>= next).transcript handler before :=
  ⟨_, (transcript_bind_of_returns returned).symm⟩

/-- The last words of an approach to endpoints: an address is allocated, and the instance is found with
which it makes the endpoints. -/
structure LastWords (request : Request) (endpoints : Endpoints) (instanceId : String) (address : Json)
    (found : Instance) (course : List (Exchange signature)) : Prop where
  ends : [told (.allocateAddress instanceId) address,
    told (.lookupInstance request.options.instanceName) (some found)] <:+ course
  make : endpointsOf request.options.instanceName found address = .ok endpoints
  ready : endpoints.ready = true

theorem LastWords.later {request : Request} {endpoints : Endpoints} {instanceId : String}
    {address : Json} {found : Instance} {last course : List (Exchange signature)}
    (words : LastWords request endpoints instanceId address found last) (ends : last <:+ course) :
    LastWords request endpoints instanceId address found course :=
  ⟨words.ends.trans ends, words.make, words.ready⟩

theorem transcript_cloud (call : Cloud.Call) {operation resource : String}
    {answer : call.method.Answer} {between : σ}
    (returned : ((cloud call).during operation resource).Returns handler before answer between) :
    ((cloud call).during operation resource).transcript handler before = [told call answer] :=
  (transcript_during _ _ _ _).trans (transcript_perform_of_returns (returns_during.1 returned))

theorem instanceEndpoints_words {name : String} {address : Json} {endpoints : Endpoints}
    (returned : (instanceEndpoints name address).Returns handler before endpoints after) :
    ∃ found, endpointsOf name found address = .ok endpoints ∧
      (instanceEndpoints name address).transcript handler before =
        [told (.lookupInstance name) (some found)] := by
  obtain ⟨found, between, asked, rest⟩ := returns_bind.1 returned
  cases found with
  | none => exact (returns_fail.1 rest).elim
  | some found =>
    refine ⟨found, ?_, ?_⟩
    · change (ofExcept (endpointsOf name found address)).Returns handler between endpoints after
        at rest
      cases made : endpointsOf name found address with
      | error failure =>
        rw [made] at rest
        exact (returns_fail.1 rest).elim
      | ok other =>
        rw [made] at rest
        exact congrArg Except.ok (returns_pure.1 rest).1
    · refine (transcript_bind_of_returns asked).trans ?_
      change ((cloud (.lookupInstance name)).during _ _).transcript handler before ++ _ = _
      rw [transcript_cloud (.lookupInstance name) asked]
      change [_] ++ (ofExcept (endpointsOf name found address)).transcript handler between = _
      cases endpointsOf name found address <;> rfl

theorem checkEndpoints_none {endpoints : Endpoints} :
    checkEndpoints endpoints = none ↔ endpoints.ready = true := by
  unfold checkEndpoints
  split <;> simp_all

/-- An approach that is ready ends with the endpoints that were checked. -/
theorem ready_of_checked {made endpoints : Endpoints}
    (returned : Program.Returns handler
      (match checkEndpoints made with
        | some requeue => return .requeue requeue
        | none => return .ready made : PassProgram Approach) before (.ready endpoints) after) :
    made = endpoints ∧ endpoints.ready = true ∧ before = after := by
  cases known : checkEndpoints made with
  | some requeue =>
    rw [known] at returned
    cases (returns_pure.1 returned).1
  | none =>
    rw [known] at returned
    obtain ⟨same, rfl⟩ := returns_pure.1 returned
    obtain rfl := Approach.ready.inj same
    exact ⟨rfl, checkEndpoints_none.1 known, rfl⟩

theorem lastWords_of_running {request : Request} {group instanceId : String} {endpoints : Endpoints}
    (returned : (approachRunning request group instanceId).Returns handler before (.ready endpoints)
      after) :
    ∃ address found, LastWords request endpoints instanceId address found
      ((approachRunning request group instanceId).transcript handler before) := by
  obtain ⟨_, settled, rules, rest⟩ := returns_bind.1 returned
  obtain ⟨address, allocated, asked, ending⟩ := returns_bind.1 rest
  obtain ⟨made, located, looked, checked⟩ := returns_bind.1 ending
  obtain ⟨found, make, words⟩ := instanceEndpoints_words looked
  obtain ⟨rfl, ready, _⟩ := ready_of_checked checked
  refine ⟨address, found, ?_, make, ready⟩
  refine List.IsSuffix.trans ?_ (suffix_of_returns rules)
  rw [transcript_bind_of_returns asked, transcript_bind_of_returns looked, words,
    checkEndpoints_none.2 ready]
  change _ <:+ ((cloud (.allocateAddress instanceId)).during _ _).transcript handler settled ++ _
  rw [transcript_cloud _ asked]
  exact List.suffix_rfl

/-- An approach that is ready has just been told where the instance is reached. -/
theorem lastWords_of_approach {request : Request} {endpoints : Endpoints}
    (returned : (approach request).Returns handler before (.ready endpoints) after) :
    ∃ instanceId address found, LastWords request endpoints instanceId address found
      ((approach request).transcript handler before) := by
  obtain ⟨_, _, logged, rest⟩ := returns_bind.1 returned
  obtain ⟨image, _, imaged, rest⟩ := returns_bind.1 rest
  obtain ⟨place, _, placed, rest⟩ := returns_bind.1 rest
  obtain ⟨type, _, typed, rest⟩ := returns_bind.1 rest
  obtain ⟨group, _, grouped, rest⟩ := returns_bind.1 rest
  obtain ⟨instanceId, _, ensured, rest⟩ := returns_bind.1 rest
  obtain ⟨requeue, _, checked, rest⟩ := returns_bind.1 rest
  cases requeue with
  | some requeue => cases (returns_pure.1 rest).1
  | none =>
    obtain ⟨address, found, words⟩ := lastWords_of_running rest
    refine ⟨instanceId, address, found, words.later ?_⟩
    refine List.IsSuffix.trans ?_ (suffix_of_returns logged)
    refine List.IsSuffix.trans ?_ (suffix_of_returns imaged)
    refine List.IsSuffix.trans ?_ (suffix_of_returns placed)
    refine List.IsSuffix.trans ?_ (suffix_of_returns typed)
    refine List.IsSuffix.trans ?_ (suffix_of_returns grouped)
    refine List.IsSuffix.trans ?_ (suffix_of_returns ensured)
    refine List.IsSuffix.trans ?_ (suffix_of_returns checked)
    exact List.suffix_rfl

end Bastion.Pass
