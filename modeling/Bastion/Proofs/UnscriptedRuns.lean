import Bastion.Proofs.Publication
import Bastion.Proofs.RuleSafety

set_option autoImplicit false

namespace Bastion.Pass

open Program
open Cloud.Memory (Unscripted)

/-- The calls that change something. A public address is no more than told. -/
def changing : signature.Op → Bool
  | .other (.createGroup ..) => true
  | .other (.createInstance _) => true
  | .other (.createRule ..) => true
  | .other (.revokeRule ..) => true
  | .other _ => false
  | .patchStatus .. => true

variable {α β : Type}

/-- The program returns `value` and leaves `after`. Of the calls that it makes these change something. -/
structure Does (program : PassProgram α) (before : Site Cloud.Memory) (value : α)
    (changes : List signature.Op) (after : Site Cloud.Memory) : Prop where
  returns : program.Returns (Site.handler Cloud.Memory.handler) before value after
  calls : (program.run (Site.handler Cloud.Memory.handler) before).calls.filter changing = changes

variable {program : PassProgram α} {next : α → PassProgram β}
  {site before between after : Site Cloud.Memory} {value : α} {result : β}
  {first second : List signature.Op}

theorem does_pure (value : α) (site : Site Cloud.Memory) :
    Does (pure value) site value [] site :=
  ⟨rfl, rfl⟩

theorem Does.bind (does : Does program before value first between)
    (later : Does (next value) between result second after) :
    Does (program >>= next) before result (first ++ second) after := by
  constructor
  case returns => exact does.returns.bind later.returns
  case calls =>
    rw [calls_bind_of_returns does.returns, List.filter_append, does.calls, later.calls]

theorem Does.andStill (does : Does program before value first between)
    (later : Does (next value) between result [] after) :
    Does (program >>= next) before result first after := by
  rw [← List.append_nil first]
  exact does.bind later

theorem Does.logged {answered : Except Failure Unit → PassProgram α}
    (does : Does (answered (.ok ())) before value first after) (line : LogLine) :
    Does (.log line answered) before value first after :=
  ⟨does.returns, does.calls⟩

theorem does_perform (op : signature.Op) {answer : signature.Answer op} (operation resource : String)
    (answered : (Site.handler Cloud.Memory.handler op site).answer = .ok answer) :
    Does ((perform op).during operation resource) site answer ([op].filter changing)
      (Site.handler Cloud.Memory.handler op site).state := by
  have performed : (perform op).Returns (Site.handler Cloud.Memory.handler) site answer _ :=
    returns_perform.2 ⟨answered, rfl⟩
  constructor
  case returns => exact returns_during.2 performed
  case calls =>
    rw [calls_eq_transcript, transcript_during]
    exact congrArg (fun said => (said.map Exchange.op).filter changing)
      (transcript_perform_of_returns performed)

theorem does_call (unscripted : Unscripted site) (call : Cloud.Call) (operation resource : String)
    {answer : call.method.Answer} (answered : (site.world.carryOut call).1 = .ok answer) :
    Does ((cloud call).during operation resource) site answer
      ([StatusOr.other call].filter changing)
      { site with world := (site.world.carryOut call).2 } := by
  have own := Cloud.Memory.handler_of_unscripted unscripted call
  have left : (Site.handler Cloud.Memory.handler (.other call) site).state =
      { site with world := (site.world.carryOut call).2 } :=
    congrArg (fun step : Step _ _ => { site with world := step.state }) own
  rw [← left]
  exact does_perform _ operation resource ((congrArg Step.answer own).trans answered)

theorem does_read (unscripted : Unscripted site) (call : Cloud.Call) {operation resource : String}
    {answer : call.method.Answer} {next : call.method.Answer → PassProgram β}
    (answered : site.world.carryOut call = (.ok answer, site.world))
    (still : changing (.other call) = false) (later : Does (next answer) site result second after) :
    Does ((cloud call).during operation resource >>= next) site result second after := by
  have called := does_call unscripted call operation resource (congrArg Prod.fst answered)
  rw [answered, List.filter_cons_of_neg (by rw [still]; exact Bool.false_ne_true)] at called
  exact called.bind later

theorem does_change (unscripted : Unscripted site) (call : Cloud.Call)
    {operation resource : String} {answer : call.method.Answer}
    {next : call.method.Answer → PassProgram β}
    (answered : (site.world.carryOut call).1 = .ok answer)
    (changes : changing (.other call) = true)
    (later : Does (next answer) { site with world := (site.world.carryOut call).2 } result second
      after) :
    Does ((cloud call).during operation resource >>= next) site result
      (StatusOr.other call :: second) after := by
  have called := does_call unscripted call operation resource answered
  rw [List.filter_cons_of_pos changes] at called
  exact called.bind later

theorem does_imageOf {request : Request} {image : String}
    (imaged : resolveImage request.options request.cluster = .ok image) :
    Does (imageOf request) site image [] site := by
  unfold imageOf
  rw [imaged]
  exact does_pure image site

theorem does_resolveNetwork (unscripted : Unscripted site) (name : String) {zone : String}
    (zoned : site.world.zone = some zone) :
    Does (resolveNetwork name) site ⟨"net-" ++ name, "subnet-1", zone⟩ [] site := by
  apply does_read unscripted (.lookupNetwork name) rfl rfl
  apply does_read unscripted (.lookupSubnet "subnet-1")
  case answered =>
    change (site.world.lookupSubnet "subnet-1", site.world) = _
    unfold Cloud.Memory.lookupSubnet
    rw [zoned]
  · rfl
  · exact does_pure _ site

/-- The type that a memory has available for the first of some numbers of cores. -/
def offeredType (memory : Cloud.Memory) (candidates : List Int) : Option String :=
  candidates.findSome? fun cores =>
    present (((Keyed.get? memory.availability cores).getD (some ⟨[]⟩)).bind
      Cloud.Availability.availableType)

theorem does_availableType (unscripted : Unscripted site) (zone : String) (candidates : List Int) :
    Does (availableType zone candidates) site (offeredType site.world candidates) [] site := by
  induction candidates with
  | nil => exact does_pure none site
  | cons cores rest ih =>
    apply does_read unscripted (.listAvailability cores zone) rfl rfl
    unfold offeredType
    rw [List.findSome?_cons]
    cases present (((Keyed.get? site.world.availability cores).getD (some ⟨[]⟩)).bind
      Cloud.Availability.availableType) with
    | some type => exact does_pure (some type) site
    | none => exact ih

/-- The type that is resolved on a memory: one that it offers, or the first one of the cluster. -/
def resolvedType (memory : Cloud.Memory) (cluster : Cluster) : Option String :=
  (offeredType memory coreCandidates).or (cluster.machineTypes.head?.map (·.name))

theorem does_resolveInstanceType (unscripted : Unscripted site) (zone : String) {cluster : Cluster}
    {type : String} (typed : resolvedType site.world cluster = some type) :
    Does (resolveInstanceType zone cluster coreCandidates) site type [] site := by
  have probed := does_availableType unscripted zone coreCandidates
  unfold resolvedType at typed
  refine probed.bind ?_
  cases offered : offeredType site.world coreCandidates with
  | some found =>
    rw [offered] at typed
    obtain rfl := Option.some.inj typed
    exact does_pure found site
  | none =>
    rw [offered] at typed
    cases machines : cluster.machineTypes with
    | nil =>
      rw [machines] at typed
      cases typed
    | cons machine rest =>
      rw [machines] at typed
      obtain rfl := Option.some.inj typed
      exact (does_pure machine.name site).logged _

theorem does_createdId {operation name id : String} (nonempty : id ≠ "") :
    Does (createdId operation name (some id)) site id [] site := by
  rw [createdId_of_ne nonempty]
  exact does_pure id site

theorem does_ensureGroup_missing (unscripted : Unscripted site) (network : String) {name : String}
    (missing : (Keyed.get? site.world.groups name).filter (·.name = name) = none) :
    Does (ensureGroup name network) site ("sg-" ++ name)
      [StatusOr.other (.createGroup network name)]
      { site with world := (site.world.createGroup network name).2 } := by
  apply does_read unscripted (.lookupGroup name) rfl rfl
  rw [missing]
  apply Does.logged
  apply does_change unscripted (.createGroup network name) rfl rfl
  exact does_createdId (by simp)

theorem does_ensureGroup_found (unscripted : Unscripted site) (network : String) {name : String}
    {group : Cloud.Group}
    (found : (Keyed.get? site.world.groups name).filter (·.name = name) = some group) :
    Does (ensureGroup name network) site group.id [] site := by
  apply does_read unscripted (.lookupGroup name) rfl rfl
  rw [found]
  exact (does_pure group.id site).logged _

theorem does_ensureInstance_missing (unscripted : Unscripted site) (spec : Cloud.InstanceSpec)
    (missing : (Keyed.get? site.world.instances spec.name).filter (·.name = spec.name) = none) :
    Does (ensureInstance spec) site s!"i-{site.world.instances.length + 1}"
      [StatusOr.other (.createInstance spec)]
      { site with world := (site.world.createInstance spec).2 } := by
  apply does_read unscripted (.lookupInstance spec.name) rfl rfl
  rw [missing]
  apply Does.logged
  apply does_change unscripted (.createInstance spec) rfl rfl
  exact does_createdId (by simp)

theorem does_ensureInstance_found (unscripted : Unscripted site) {spec : Cloud.InstanceSpec}
    {found : Cloud.Instance}
    (there : (Keyed.get? site.world.instances spec.name).filter (·.name = spec.name) = some found) :
    Does (ensureInstance spec) site found.id [] site := by
  apply does_read unscripted (.lookupInstance spec.name) rfl rfl
  rw [there]
  exact does_pure found.id site

theorem does_checkInstance (unscripted : Unscripted site) {name : String} {found : Cloud.Instance}
    (there : Keyed.get? site.world.instances name = some found) :
    Does (checkInstance name) site
      (if found.status = .running then none else some (.instanceNotReady name found.status)) []
      site := by
  apply does_read unscripted (.lookupInstance name) rfl rfl
  rw [there]
  exact does_pure _ site

/-! ### Rules -/

def RulesApart (before after : Site Cloud.Memory) : Prop :=
  ∃ rules issued, after = { before with world := { before.world with rules := rules, issued := issued } }

theorem RulesApart.trans (first : RulesApart site between) (second : RulesApart between after) :
    RulesApart site after := by
  obtain ⟨rules, issued, rfl⟩ := first
  obtain ⟨rules, issued, rfl⟩ := second
  exact ⟨rules, issued, rfl⟩

theorem unscripted_carryOut (unscripted : Unscripted site) (call : Cloud.Call) :
    Unscripted { site with world := (site.world.carryOut call).2 } := by
  intro method
  change (site.world.carryOut call).2.script method = []
  rw [Cloud.Memory.script_carryOut, unscripted]

theorem does_makeChanges (direction : Direction) (group : String) {changes : List Change}
    (unscripted : Unscripted site) :
    Does (makeChanges direction group changes) site () (changes.map (Change.op direction group))
      { site with world := site.world.after (changes.map (Change.asked direction group)) } := by
  induction changes generalizing site with
  | nil => exact does_pure () site
  | cons change rest ih =>
    have next := ih (unscripted_carryOut unscripted (change.asked direction group))
    cases change with
    | create rule =>
      apply does_change unscripted (.createRule direction group rule) rfl rfl
      exact next.logged _
    | revoke rule =>
      apply does_change unscripted (.revokeRule direction group rule) rfl rfl
      exact next.logged _

theorem rulesApart_makeChanges (direction : Direction) (group : String) (changes : List Change)
    (site : Site Cloud.Memory) :
    RulesApart site
      { site with world := site.world.after (changes.map (Change.asked direction group)) } := by
  induction changes generalizing site with
  | nil => exact ⟨site.world.rules, site.world.issued, rfl⟩
  | cons change rest ih =>
    obtain ⟨rules, issued, left⟩ := ih
      { site with world := (site.world.carryOut (change.asked direction group)).2 }
    refine ⟨rules, issued, ?_⟩
    refine left.trans ?_
    cases change <;> rfl

/-- What is to be done about one direction of a group. -/
def settling (site : Site Cloud.Memory) (direction : Direction) (group : String)
    (wanted : List Rule) : List Change :=
  changes (Rule.diff wanted ((Cloud.Memory.storeAt group site).rules direction))

def settledAt (site : Site Cloud.Memory) (direction : Direction) (group : String)
    (wanted : List Rule) : Site Cloud.Memory :=
  { site with world :=
    site.world.after ((settling site direction group wanted).map (Change.asked direction group)) }

theorem does_settle (unscripted : Unscripted site) (direction : Direction) (group : String)
    (wanted : List Rule) :
    Does (settle direction group wanted) site ()
      ((settling site direction group wanted).map (Change.op direction group))
      (settledAt site direction group wanted) := by
  let stored := (Cloud.Memory.storeAt group site).rules direction
  have described : Does (currentRules group direction) site stored [] site := by
    apply does_read unscripted (.describeRules group direction) rfl rfl
    exact does_pure stored site
  refine described.bind ?_
  rw [applyDiff_eq]
  exact does_makeChanges direction group unscripted

theorem RulesApart.unscripted (apart : RulesApart before after) (unscripted : Unscripted before) :
    Unscripted after := by
  obtain ⟨rules, issued, rfl⟩ := apart
  exact unscripted

theorem apart_of_settled {direction : Direction} {group : String} {wanted : List Rule}
    (settled : after = settledAt site direction group wanted) : RulesApart site after := by
  rw [settled]
  exact rulesApart_makeChanges direction group _ site

theorem settles_of_settled (unscripted : Unscripted site) {direction : Direction} {group : String}
    {wanted : List Rule} (directed : ∀ rule ∈ wanted, rule.direction = direction)
    (sound : (Cloud.Memory.storeAt group site).Sound)
    (settled : after = settledAt site direction group wanted) :
    (Cloud.Memory.storeAt group site).Settles direction wanted
      (Cloud.Memory.storeAt group after) := by
  rw [settled]
  exact (Cloud.Memory.keeps group).settles_of_settle directed (Cloud.Memory.scripted_of_unscripted unscripted)
    sound (does_settle unscripted direction group wanted).returns

theorem settling_of_bare {direction : Direction} {group : String} {wanted added : List Rule}
    (bare : (Cloud.Memory.storeAt group site).rules direction = [])
    (told : Rule.diff wanted [] = ⟨added, []⟩) :
    (settling site direction group wanted).map (Change.op direction group) =
      added.map fun rule => (Change.create rule).op direction group := by
  unfold settling changes
  rw [bare, told, List.map_nil, List.append_nil, List.map_map]
  rfl

theorem settling_of_keySet {direction : Direction} {group : String} {wanted : List Rule}
    (same : Rule.keySet ((Cloud.Memory.storeAt group site).rules direction) = Rule.keySet wanted) :
    settling site direction group wanted = [] := by
  unfold settling
  rw [Rule.diff_of_keySet_eq same]
  rfl

theorem does_workloadGroup (unscripted : Unscripted site) {name : String} {workload : Cloud.Group}
    (there : Keyed.get? site.world.groups name = some workload) :
    Does (workloadGroup name) site workload [] site := by
  apply does_read unscripted (.lookupGroup name) rfl rfl
  rw [there]
  exact does_pure workload site

theorem does_privateAddress (unscripted : Unscripted site) {name address : String}
    (told : (Keyed.get? site.world.instances name).bind Cloud.Instance.privateAddress =
      some address) :
    Does (privateAddress name) site address [] site := by
  apply does_read unscripted (.lookupInstance name) rfl rfl
  rw [told]
  exact does_pure address site

theorem does_instanceEndpoints (unscripted : Unscripted site) {name : String} {address : Json}
    {found : Cloud.Instance} {endpoints : Endpoints}
    (there : Keyed.get? site.world.instances name = some found)
    (made : endpointsOf name found address = .ok endpoints) :
    Does (instanceEndpoints name address) site endpoints [] site := by
  apply does_read unscripted (.lookupInstance name) rfl rfl
  rw [there]
  change Does (.ofExcept (endpointsOf name found address)) site endpoints [] site
  rw [made]
  exact does_pure endpoints site

theorem does_patchStatus {name : String} {patch : Json} (operation resource : String)
    (accepted : (site.patchStatus name patch).answer = .ok ()) :
    Does ((patchStatus name patch).during operation resource) site () [.patchStatus name patch]
      (site.patchStatus name patch).state :=
  does_perform (.patchStatus name patch) operation resource accepted

theorem does_publish {name : String} {endpoints : Endpoints}
    (accepted : (site.patchStatus name (publishedPatch endpoints)).answer = .ok ()) :
    Does (publish name endpoints) site () [.patchStatus name (publishedPatch endpoints)]
      (site.patchStatus name (publishedPatch endpoints)).state := by
  have patched := does_patchStatus "publish status of bastion" name accepted
  generalize (site.patchStatus name (publishedPatch endpoints)).state = after at patched ⊢
  exact patched.bind ((does_pure () after).logged _)

/-- One direction after the other: what is looked up in between is as it was. -/
theorem does_reconcileRules (unscripted : Unscripted site) {request : Request} (group : String)
    {workload : Cloud.Group} {address : String}
    (there : Keyed.get? site.world.groups request.options.workloadGroupName = some workload)
    (told : (Keyed.get? site.world.instances request.options.instanceName).bind
      Cloud.Instance.privateAddress = some address)
    (settled : between = settledAt site .ingress group (Rule.wantedIngress request.ingress)) :
    Does (reconcileRules request group) site ()
      ((settling site .ingress group (Rule.wantedIngress request.ingress)).map
          (Change.op .ingress group) ++
        (settling between .egress group (Rule.wantedEgress (some address) (some workload.id))).map
          (Change.op .egress group))
      (settledAt between .egress group (Rule.wantedEgress (some address) (some workload.id))) := by
  have apart := apart_of_settled settled
  have done := does_settle unscripted .ingress group (Rule.wantedIngress request.ingress)
  rw [← settled] at done
  clear settled
  have quiet := apart.unscripted unscripted
  obtain ⟨rules, issued, rfl⟩ := apart
  rw [reconcileRules_eq]
  apply done.bind
  have found := does_workloadGroup quiet there
  have located := does_privateAddress quiet told
  have egress := does_settle quiet .egress group
    (Rule.wantedEgress (some address) (some workload.id))
  exact found.bind (located.bind egress)

/-! ### A pass -/

theorem does_finish_requeue {request : Request} {group instanceId : String} {found : Cloud.Instance}
    {endpoints : Endpoints} {requeue : Requeue}
    (ruled : Does (reconcileRules request group) site () first between)
    (unscripted : Unscripted between)
    (there : Keyed.get? between.world.instances request.options.instanceName = some found)
    (made : endpointsOf request.options.instanceName found between.world.publicAddress =
      .ok endpoints)
    (unready : checkEndpoints endpoints = some requeue) :
    Does (finish request group instanceId) site (.requeue requeue) first between := by
  apply ruled.andStill
  apply does_read unscripted (.allocateAddress instanceId) rfl rfl
  apply (does_instanceEndpoints unscripted there made).andStill
  rw [unready]
  apply Does.logged
  exact does_pure _ between

theorem does_finish_succeeded {request : Request} {group instanceId : String}
    {found : Cloud.Instance} {endpoints : Endpoints}
    (ruled : Does (reconcileRules request group) site () first between)
    (unscripted : Unscripted between)
    (there : Keyed.get? between.world.instances request.options.instanceName = some found)
    (made : endpointsOf request.options.instanceName found between.world.publicAddress =
      .ok endpoints)
    (ready : checkEndpoints endpoints = none)
    (accepted : (between.patchStatus request.bastionName (publishedPatch endpoints)).answer = .ok ()) :
    Does (finish request group instanceId) site (.succeeded endpoints)
      (first ++ [.patchStatus request.bastionName (publishedPatch endpoints)])
      (between.patchStatus request.bastionName (publishedPatch endpoints)).state := by
  apply ruled.bind
  apply does_read unscripted (.allocateAddress instanceId) rfl rfl
  apply (does_instanceEndpoints unscripted there made).bind
  rw [ready]
  exact (does_publish accepted).andStill (does_pure _ _)

def whenRunning (request : Request) (group instanceId : String) : PassProgram Outcome := do
  match ← checkInstance request.options.instanceName with
  | some requeue => requeueLater requeue
  | none => finish request group instanceId

theorem does_whenRunning_requeue (unscripted : Unscripted site) {request : Request}
    (group instanceId : String) {found : Cloud.Instance}
    (there : Keyed.get? site.world.instances request.options.instanceName = some found)
    (waiting : found.status ≠ .running) :
    Does (whenRunning request group instanceId) site
      (.requeue (.instanceNotReady request.options.instanceName found.status)) [] site := by
  have looked := does_checkInstance unscripted there
  rw [if_neg waiting] at looked
  refine looked.bind ?_
  apply Does.logged
  exact does_pure _ site

theorem does_whenRunning_finish (unscripted : Unscripted site) {request : Request}
    {group instanceId : String} {found : Cloud.Instance} {outcome : Outcome}
    (there : Keyed.get? site.world.instances request.options.instanceName = some found)
    (running : found.status = .running)
    (finished : Does (finish request group instanceId) site outcome second after) :
    Does (whenRunning request group instanceId) site outcome second after := by
  have looked := does_checkInstance unscripted there
  rw [if_pos running] at looked
  exact looked.bind finished

def specOf (request : Request) (group image zone type : String) : Cloud.InstanceSpec where
  name := request.options.instanceName
  group := group
  image := image
  subnet := "subnet-1"
  zone := zone
  type := type
  userData := request.options.userData

/-- A pass that is told an image, a zone and a type comes to its group and its instance. -/
theorem does_reconcile (unscripted : Unscripted site) {request : Request}
    {image zone type group instanceId : String} {outcome : Outcome}
    {ready : Site Cloud.Memory} {third : List signature.Op}
    (imaged : resolveImage request.options request.cluster = .ok image)
    (zoned : site.world.zone = some zone)
    (typed : resolvedType site.world request.cluster = some type)
    (grouped : Does (ensureGroup request.options.groupName ("net-" ++ request.options.networkName))
      site group first between)
    (ensured : Does (ensureInstance (specOf request group image zone type)) between instanceId
      second ready)
    (later : Does (whenRunning request group instanceId) ready outcome third after) :
    Does (reconcile request) site outcome (first ++ (second ++ third)) after := by
  apply Does.logged
  apply (does_imageOf imaged).bind
  apply (does_resolveNetwork unscripted request.options.networkName zoned).bind
  apply (does_resolveInstanceType unscripted zone typed).bind
  exact grouped.bind (ensured.bind later)

end Bastion.Pass
