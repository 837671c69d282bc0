import Bastion.Proofs.AllowlistRules
import Bastion.Proofs.Ownership
import Bastion.Proofs.UnscriptedRuns

set_option autoImplicit false

namespace Bastion

namespace Rule

/-- The blocks that are let in: all of version 4 where none is named. -/
def allowlist (sources : List Cidr) : List Cidr :=
  if sources.isEmpty then [Cidr.anyV4] else sources

/-- Where no rule is stored, one is added for each block that is let in. -/
theorem diff_wantedIngress_nil (sources : List Cidr) :
    ∃ blocks : List Cidr, blocks.Nodup ∧ (∀ block, block ∈ blocks ↔ block ∈ allowlist sources) ∧
      diff (wantedIngress sources) [] = ⟨blocks.map allowSsh, []⟩ := by
  obtain ⟨blocks, part, told⟩ := List.sublist_map_iff.1 (unseen_sublist [] (wantedIngress sources))
  have distinct := nodup_unseen [] (wantedIngress sources)
  rw [told, List.map_map] at distinct
  refine ⟨blocks, distinct.of_map _, ?_, congrArg (Diff.mk · []) told⟩
  intro block
  constructor
  case mp => exact fun inside => part.subset inside
  case mpr =>
    intro allowed
    have kept : (allowSsh block).key ∈ (unseen [] (wantedIngress sources)).map Rule.key :=
      key_mem_unseen.2 ⟨List.mem_map_of_mem (List.mem_map_of_mem allowed), List.not_mem_nil⟩
    rw [told, List.map_map] at kept
    obtain ⟨other, inside, same⟩ := List.mem_map.1 kept
    obtain rfl := allowSsh_key_injective same
    exact inside

/-- Where no rule is stored, both rules for the way out are added. -/
theorem diff_wantedEgress_nil (address workload : Option String) :
    diff (wantedEgress address workload) [] = ⟨wantedEgress address workload, []⟩ := by
  have apart : denyEgress.key ∉ [(allowWorkload address workload).key] := by
    intro same
    have descriptions : denyEgress.description = some "Allow Bastion egress to workload nodes" :=
      congrArg Key.description (List.mem_singleton.1 same)
    exact absurd descriptions (by decide)
  have added : unseen [] (wantedEgress address workload) = wantedEgress address workload := by
    unfold wantedEgress unseen
    rw [if_neg List.not_mem_nil]
    unfold unseen
    rw [if_neg apart]
    rfl
  exact congrArg (Diff.mk · []) added

end Rule

namespace Pass

open Program
open Cloud.Memory (Unscripted)

/-- What passes need of a cloud and do not make themselves. -/
structure Supplied (request : Request) (workload : Cloud.Group) (site : Site Cloud.Memory) :
    Prop where
  unscripted : Unscripted site
  imaged : ∃ image, resolveImage request.options request.cluster = .ok image
  zoned : ∃ zone, site.world.zone = some zone
  typed : ∃ type, resolvedType site.world request.cluster = some type
  workload : Keyed.get? site.world.groups request.options.workloadGroupName = some workload

/-- The id that a group of the bastion is given. -/
def groupId (request : Request) : String := "sg-" ++ request.options.groupName

structure Vacant (request : Request) (workload : Cloud.Group) (site : Site Cloud.Memory) : Prop
    extends Supplied request workload site where
  apart : request.options.workloadGroupName ≠ request.options.groupName
  missing : ∀ belonging : Belonging, belonging.held request.options site = none
  bare : site.world.rulesOf (groupId request) = []

/-- The group and the instance of the bastion are there. -/
structure Equipped (request : Request) (workload : Cloud.Group) (machine : Cloud.Instance)
    (site : Site Cloud.Memory) : Prop extends Supplied request workload site where
  group : ∃ group, Keyed.get? site.world.groups request.options.groupName = some group ∧
    group.name = request.options.groupName ∧ group.id = groupId request
  found : Keyed.get? site.world.instances request.options.instanceName = some machine
  named : machine.name = request.options.instanceName

variable {request : Request} {workload : Cloud.Group} {machine : Cloud.Instance}
  {site after : Site Cloud.Memory} {outcome : Outcome} {made : List signature.Op}
  {inner outer : String}

/-- Rules and the public address are beside what a bastion is equipped with. -/
theorem Equipped.beside (equipped : Equipped request workload machine site)
    (rules : List (String × List Rule)) (issued : Nat) (told : Json) :
    Equipped request workload machine
      { site with world :=
        { site.world with rules := rules, issued := issued, publicAddress := told } } := by
  obtain ⟨⟨unscripted, imaged, zoned, typed, there⟩, group, found, named⟩ := equipped
  exact ⟨⟨unscripted, imaged, zoned, typed, there⟩, group, found, named⟩

/-- The site where a group and an instance of the bastion have been made. -/
def equip (request : Request) (network : String) (machine : Cloud.Instance)
    (site : Site Cloud.Memory) : Site Cloud.Memory :=
  let group : Cloud.Group := ⟨groupId request, request.options.groupName, some network⟩
  { site with world := { site.world with
      groups := Keyed.put site.world.groups request.options.groupName group
      instances := Keyed.put site.world.instances request.options.instanceName machine } }

theorem Vacant.equipped (vacant : Vacant request workload site) (network : String)
    (machine : Cloud.Instance) (named : machine.name = request.options.instanceName) :
    Equipped request workload machine (equip request network machine site) where
  unscripted := vacant.unscripted
  imaged := vacant.imaged
  zoned := vacant.zoned
  typed := vacant.typed
  workload := (Keyed.get?_put_other _ _ vacant.apart).trans vacant.workload
  group := ⟨_, Keyed.get?_put_same _ _ _, rfl, rfl⟩
  found := Keyed.get?_put_same _ _ _
  named := named

/-- The first pass makes the group and the instance, and waits for the instance. -/
theorem Vacant.first_pass (vacant : Vacant request workload site) :
    ∃ network spec, spec.name = request.options.instanceName ∧ ∃ id,
      Does (reconcile request) site
        (.requeue (.instanceNotReady request.options.instanceName .pending))
        [.other (.createGroup network request.options.groupName), .other (.createInstance spec)]
        (equip request network ⟨id, request.options.instanceName, .pending, [], none⟩ site) := by
  obtain ⟨image, imaged⟩ := vacant.imaged
  obtain ⟨zone, zoned⟩ := vacant.zoned
  obtain ⟨type, typed⟩ := vacant.typed
  have groupless := Option.map_eq_none_iff.1 (vacant.missing .securityGroup)
  have machineless := Option.map_eq_none_iff.1 (vacant.missing .computeInstance)
  let network := "net-" ++ request.options.networkName
  let spec := specOf request (groupId request) image zone type
  let machine : Cloud.Instance :=
    ⟨s!"i-{site.world.instances.length + 1}", request.options.instanceName, .pending, [], none⟩
  have grouped := does_ensureGroup_missing vacant.unscripted network groupless
  have ensured := does_ensureInstance_missing
    (unscripted_carryOut vacant.unscripted (.createGroup network request.options.groupName)) spec
    machineless
  have equipped : Equipped request workload machine (equip request network machine site) :=
    vacant.equipped network machine rfl
  have waits := does_whenRunning_requeue equipped.unscripted (groupId request) machine.id
    equipped.found nofun
  exact ⟨network, spec, rfl, machine.id,
    does_reconcile vacant.unscripted imaged zoned typed grouped ensured waits⟩

/-- A pass that finds the group and the running instance comes to its last steps. -/
theorem Equipped.does_pass (equipped : Equipped request workload machine site)
    (running : machine.status = .running)
    (finished : Does (finish request (groupId request) machine.id) site outcome made after) :
    Does (reconcile request) site outcome made after := by
  obtain ⟨image, imaged⟩ := equipped.imaged
  obtain ⟨zone, zoned⟩ := equipped.zoned
  obtain ⟨type, typed⟩ := equipped.typed
  obtain ⟨group, found, named, same⟩ := equipped.group
  have grouped : Does (ensureGroup request.options.groupName ("net-" ++ request.options.networkName))
      site group.id [] site := by
    apply does_ensureGroup_found equipped.unscripted
    exact Option.filter_eq_some_iff.2 ⟨found, decide_eq_true named⟩
  have ensured : Does (ensureInstance (specOf request group.id image zone type)) site machine.id []
      site := by
    apply does_ensureInstance_found equipped.unscripted
    exact Option.filter_eq_some_iff.2 ⟨equipped.found, decide_eq_true equipped.named⟩
  rw [← same] at finished
  exact does_reconcile equipped.unscripted imaged zoned typed grouped ensured
    (does_whenRunning_finish equipped.unscripted equipped.found running finished)

/-! ### Rules -/

/-- The rules of the bastion's group have the wanted keys. -/
structure Ruled (request : Request) (workload : Cloud.Group) (inner : String)
    (site : Site Cloud.Memory) : Prop where
  ingress : Rule.keySet ((Cloud.Memory.storeAt (groupId request) site).rules .ingress) =
    Rule.keySet (Rule.wantedIngress request.ingress)
  egress : Rule.keySet ((Cloud.Memory.storeAt (groupId request) site).rules .egress) =
    Rule.keySet (Rule.wantedEgress (some inner) (some workload.id))

theorem rules_of_bare {group : String} (bare : site.world.rulesOf group = [])
    (direction : Direction) : (Cloud.Memory.storeAt group site).rules direction = [] := by
  change (site.world.rulesOf group).filter _ = []
  rw [bare]
  rfl

theorem sound_of_bare {group : String} (bare : site.world.rulesOf group = []) :
    (Cloud.Memory.storeAt group site).Sound := by
  have none : (Cloud.Memory.storeAt group site).handles = [] := by
    unfold RuleStore.handles
    rw [rules_of_bare bare, rules_of_bare bare]
    rfl
  constructor
  · rw [none]
    exact List.not_mem_nil
  · rw [none]
    exact List.nodup_nil
  · intro handle _
    rw [none]
    exact List.not_mem_nil

/-- Both directions settled, one after the other, have the wanted keys. -/
theorem ruled_of_settled {between : Site Cloud.Memory} (unscripted : Unscripted site)
    (sound : (Cloud.Memory.storeAt (groupId request) site).Sound)
    (first : between =
      settledAt site .ingress (groupId request) (Rule.wantedIngress request.ingress))
    (second : after = settledAt between .egress (groupId request)
      (Rule.wantedEgress (some inner) (some workload.id))) :
    Ruled request workload inner after := by
  have ingress := settles_of_settled unscripted (Rule.wantedIngress_directed _) sound first
  have quiet := (apart_of_settled first).unscripted unscripted
  -- The handles given for the way in are used up, so the way out starts from a sound store again.
  have egress := settles_of_settled quiet (Rule.wantedEgress_directed _ _) ingress.sound second
  constructor
  · rw [egress.frame .ingress nofun]
    exact ingress.keySet
  · exact egress.keySet

theorem Equipped.located (equipped : Equipped request workload machine site)
    (located : machine.privateAddress = some inner) :
    (Keyed.get? site.world.instances request.options.instanceName).bind
      Cloud.Instance.privateAddress = some inner := by
  rw [equipped.found]
  exact located

/-- The calls by which rules are created where there are none: one for each block, and two for the way
out. -/
def creations (request : Request) (workload : Cloud.Group) (inner : String) (blocks : List Cidr) :
    List signature.Op :=
  (blocks.map fun block => (Change.create (Rule.allowSsh block)).op .ingress (groupId request)) ++
    [(Change.create (Rule.allowWorkload (some inner) (some workload.id))).op .egress
        (groupId request),
      (Change.create Rule.denyEgress).op .egress (groupId request)]

theorem does_reconcileRules_bare (equipped : Equipped request workload machine site)
    (located : machine.privateAddress = some inner)
    (bare : site.world.rulesOf (groupId request) = []) :
    ∃ blocks : List Cidr, ∃ after, blocks.Nodup ∧
      (∀ block, block ∈ blocks ↔ block ∈ Rule.allowlist request.ingress) ∧
      Does (reconcileRules request (groupId request)) site ()
        (creations request workload inner blocks) after ∧
      RulesApart site after ∧ Ruled request workload inner after := by
  obtain ⟨blocks, distinct, same, told⟩ := Rule.diff_wantedIngress_nil request.ingress
  obtain ⟨between, first⟩ : ∃ between, between =
    settledAt site .ingress (groupId request) (Rule.wantedIngress request.ingress) := ⟨_, rfl⟩
  obtain ⟨after, second⟩ : ∃ after, after = settledAt between .egress (groupId request)
    (Rule.wantedEgress (some inner) (some workload.id)) := ⟨_, rfl⟩
  have sound := sound_of_bare bare
  have does := does_reconcileRules equipped.unscripted (groupId request) equipped.workload
    (equipped.located located) first
  have ingress := settles_of_settled equipped.unscripted (Rule.wantedIngress_directed _) sound first
  have exitless : (Cloud.Memory.storeAt (groupId request) between).rules .egress = [] :=
    (ingress.frame .egress nofun).trans (rules_of_bare bare .egress)
  rw [← second, settling_of_bare (rules_of_bare bare .ingress) told,
    settling_of_bare exitless (Rule.diff_wantedEgress_nil _ _), List.map_map] at does
  exact ⟨blocks, after, distinct, same, does,
    (apart_of_settled first).trans (apart_of_settled second),
    ruled_of_settled equipped.unscripted sound first second⟩

theorem does_reconcileRules_ruled (equipped : Equipped request workload machine site)
    (located : machine.privateAddress = some inner) (ruled : Ruled request workload inner site) :
    Does (reconcileRules request (groupId request)) site () [] site := by
  have ingress : settling site .ingress (groupId request) (Rule.wantedIngress request.ingress) = [] :=
    settling_of_keySet ruled.ingress
  have egress : settling site .egress (groupId request)
      (Rule.wantedEgress (some inner) (some workload.id)) = [] := settling_of_keySet ruled.egress
  have same : site =
      settledAt site .ingress (groupId request) (Rule.wantedIngress request.ingress) := by
    unfold settledAt
    rw [ingress]
    rfl
  have does := does_reconcileRules equipped.unscripted (groupId request) equipped.workload
    (equipped.located located) same
  unfold settledAt at does
  rw [ingress, egress] at does
  exact does

/-! ### Endpoints -/

/-- The endpoints of an instance, of which a public address may have been told. -/
def endpointsTold (inner : String) (told : Option String) : Endpoints :=
  ⟨some ⟨none, some inner⟩, told.map fun outer => ⟨none, some outer⟩⟩

theorem endpointsOf_told (name : String) (running : machine.status = .running)
    (located : machine.privateAddress = some inner) (told : Option String) :
    endpointsOf name machine (.ofString? told) = .ok (endpointsTold inner told) := by
  unfold endpointsOf
  rw [if_neg (not_not_intro running), located]
  cases told <;> rfl

/-- An instance is reached where it has an address of either kind. -/
theorem checkEndpoints_told (located : inner ≠ "") (told : Option String) :
    checkEndpoints (endpointsTold inner told) =
      if (present told).isSome then none else some .endpointsMissing := by
  have ready : (endpointsTold inner told).ready = (present told).isSome := by
    unfold endpointsTold Endpoints.ready
    cases told <;> simp [Endpoint.ready, present, located]
  unfold checkEndpoints
  rw [ready]

/-! ### The three passes -/

/-- A running instance of this address, while this is told of the public one. -/
structure Reachable (request : Request) (workload : Cloud.Group) (inner : String)
    (told : Option String) (machine : Cloud.Instance) (site : Site Cloud.Memory) : Prop
    extends Equipped request workload machine site where
  running : machine.status = .running
  located : machine.privateAddress = some inner
  told : site.world.publicAddress = .ofString? told

theorem Reachable.reaches {told : Option String}
    (reachable : Reachable request workload inner told machine site) :
    endpointsOf request.options.instanceName machine site.world.publicAddress =
      .ok (endpointsTold inner told) := by
  rw [reachable.told]
  exact endpointsOf_told _ reachable.running reachable.located told

/-- The second pass makes the rules, and waits for a public address. -/
theorem Reachable.second_pass {told : Option String}
    (reachable : Reachable request workload inner told machine site) (some : inner ≠ "")
    (hidden : present told = none) (bare : site.world.rulesOf (groupId request) = []) :
    ∃ blocks : List Cidr, ∃ after, blocks.Nodup ∧
      (∀ block, block ∈ blocks ↔ block ∈ Rule.allowlist request.ingress) ∧
      Does (reconcile request) site (.requeue .endpointsMissing)
        (creations request workload inner blocks) after ∧
      RulesApart site after ∧ Ruled request workload inner after := by
  obtain ⟨blocks, after, distinct, same, does, apart, ruled⟩ :=
    does_reconcileRules_bare reachable.toEquipped reachable.located bare
  refine ⟨blocks, after, distinct, same, reachable.does_pass reachable.running ?_, apart, ruled⟩
  obtain ⟨rules, issued, rfl⟩ := apart
  apply does_finish_requeue does reachable.unscripted reachable.found reachable.reaches
  rw [checkEndpoints_told some, hidden]
  rfl

/-- The third pass finds the rules as they are wanted, and publishes the endpoints. -/
theorem Reachable.third_pass (reachable : Reachable request workload inner (some outer) machine site)
    (located : inner ≠ "") (offered : outer ≠ "") (ruled : Ruled request workload inner site)
    (accepted : (site.patchStatus request.bastionName
      (publishedPatch (endpointsTold inner (some outer)))).answer = .ok ()) :
    Does (reconcile request) site (.succeeded (endpointsTold inner (some outer)))
      [.patchStatus request.bastionName (publishedPatch (endpointsTold inner (some outer)))]
      (site.patchStatus request.bastionName
        (publishedPatch (endpointsTold inner (some outer)))).state := by
  apply reachable.does_pass reachable.running
  have does := does_reconcileRules_ruled reachable.toEquipped reachable.located ruled
  apply does_finish_succeeded does reachable.unscripted reachable.found reachable.reaches ?_ accepted
  rw [checkEndpoints_told located, present_of_ne offered]
  rfl

def leftBy (request : Request) (site : Site Cloud.Memory) : Site Cloud.Memory :=
  ((reconcile request).run (Site.handler Cloud.Memory.handler) site).state

theorem leftBy_of_does (does : Does (reconcile request) site outcome made after) :
    leftBy request site = after :=
  (outcome_of_returns does.returns).2

/-- The instance of that name has come to run, with these addresses of its own. -/
def started (name : String) (addresses : List String) (site : Site Cloud.Memory) :
    Site Cloud.Memory :=
  match Keyed.get? site.world.instances name with
  | none => site
  | some found =>
    let running := { found with status := .running, privateAddresses := addresses }
    { site with world :=
      { site.world with instances := Keyed.put site.world.instances name running } }

/-- From now on this is told of the public address. -/
def offering (told : Option String) (site : Site Cloud.Memory) : Site Cloud.Memory :=
  { site with world := { site.world with publicAddress := .ofString? told } }

/-- What a pass finds that has been started, while this is told of the public address. -/
theorem Equipped.reachable (equipped : Equipped request workload machine site) (inner : String)
    (others : List String) (told : Option String) :
    Reachable request workload inner told
      { machine with status := .running, privateAddresses := inner :: others }
      (offering told (started request.options.instanceName (inner :: others) site)) := by
  unfold started
  rw [equipped.found]
  obtain ⟨⟨unscripted, imaged, zoned, typed, there⟩, group, _, named⟩ := equipped
  refine ⟨?_, rfl, rfl, rfl⟩
  refine ⟨?_, group, Keyed.get?_put_same _ _ _, named⟩
  exact ⟨unscripted, imaged, zoned, typed, there⟩

theorem rules_started (equipped : Equipped request workload machine site)
    (addresses : List String) (told : Option String) (group : String) :
    (offering told (started request.options.instanceName addresses site)).world.rulesOf group =
      site.world.rulesOf group := by
  unfold started
  rw [equipped.found]
  rfl

theorem Reachable.offering {told : Option String} {before : Site Cloud.Memory}
    (reachable : Reachable request workload inner told machine before)
    (apart : RulesApart before after) (offered : Option String) :
    Reachable request workload inner offered machine (offering offered after) := by
  obtain ⟨rules, issued, rfl⟩ := apart
  exact ⟨reachable.toEquipped.beside rules issued _, reachable.running, reachable.located, rfl⟩

theorem Ruled.offering (ruled : Ruled request workload inner site) (told : Option String) :
    Ruled request workload inner (offering told site) :=
  ⟨ruled.ingress, ruled.egress⟩

/-- Two passes and what comes between them leave all but the cloud as it was. -/
theorem aside_of_passes {first second : Site Cloud.Memory} {network name : String}
    {addresses : List String} {hidden : Option String}
    (starts : second = offering hidden (started name addresses (equip request network machine first)))
    (apart : RulesApart second after) (offered : Option String) :
    ∃ world, offering offered after = { first with world := world } := by
  obtain ⟨rules, issued, rfl⟩ := apart
  subst starts
  unfold started
  split
  · exact ⟨_, rfl⟩
  · exact ⟨_, rfl⟩

/-- From a cloud that has nothing of the bastion three passes of `reconcile` come to its end. The first
one makes a group and an instance. When the instance runs at an address, the second one makes a rule for
each block that is let in and two for the way out. When a public address is told, the third one publishes
it. They change nothing else. -/
theorem converges_from_nothing {first : Site Cloud.Memory} {hidden : Option String}
    (others : List String) (vacant : Vacant request workload first) (located : inner ≠ "")
    (unreachable : present hidden = none) (offered : outer ≠ "")
    (accepted : (first.patchStatus request.bastionName
      (publishedPatch (endpointsTold inner (some outer)))).answer = .ok ()) :
    let second := offering hidden
      (started request.options.instanceName (inner :: others) (leftBy request first))
    let third := offering (some outer) (leftBy request second)
    let endpoints := endpointsTold inner (some outer)
    ∃ waiting soon network spec, ∃ blocks : List Cidr,
      waiting.seconds = 10 ∧ soon.seconds = 5 ∧ spec.name = request.options.instanceName ∧
      blocks.Nodup ∧ (∀ block, block ∈ blocks ↔ block ∈ Rule.allowlist request.ingress) ∧
      Does (reconcile request) first (.requeue waiting)
        [.other (.createGroup network request.options.groupName), .other (.createInstance spec)]
        (leftBy request first) ∧
      Does (reconcile request) second (.requeue soon) (creations request workload inner blocks)
        (leftBy request second) ∧
      Does (reconcile request) third (.succeeded endpoints)
        [.patchStatus request.bastionName (publishedPatch endpoints)]
        (third.patchStatus request.bastionName (publishedPatch endpoints)).state := by
  obtain ⟨network, spec, named, id, makes⟩ := vacant.first_pass
  have equipped := vacant.equipped network ⟨id, _, .pending, [], none⟩ rfl
  have reachable := equipped.reachable inner others hidden
  have bare := (rules_started equipped (inner :: others) hidden (groupId request)).trans vacant.bare
  rw [leftBy_of_does makes]
  -- What comes next is told of any site that was made so, and need not look into how.
  generalize starts : offering hidden (started request.options.instanceName (inner :: others)
    (equip request network _ first)) = second at *
  obtain ⟨blocks, after, distinct, same, settles, apart, ruled⟩ :=
    reachable.second_pass located unreachable bare
  obtain rfl : leftBy request second = after := leftBy_of_does settles
  have accepts : ((offering (some outer) (leftBy request second)).patchStatus
      request.bastionName (publishedPatch (endpointsTold inner (some outer)))).answer = .ok () := by
    obtain ⟨world, aside⟩ := aside_of_passes starts.symm apart (some outer)
    rw [aside, Site.answer_patchStatus]
    exact accepted
  have publishes := (reachable.offering apart (some outer)).third_pass located offered
    (ruled.offering (some outer)) accepts
  exact ⟨_, _, network, spec, blocks, rfl, rfl, named, distinct, same, makes, settles, publishes⟩

/-- The office, which lets in two blocks and names one of them again. -/
def doubledRequest : Request :=
  { stockedRequest with ingress := [officeBlock, annexBlock, officeBlock] }

/-- A cloud that has the group of the workload and nothing else. -/
def newSite : Site Cloud.Memory :=
  let site := officeSite .empty []
  { site with world := { site.world with instances := [] } }

def officeWorkload : Cloud.Group := ⟨"sg-shoot", "shoot-sg", none⟩

/-- The instance that the first pass made runs, and has no public address yet. -/
def startedNewSite : Site Cloud.Memory :=
  offering (some "") (started "bastion-1" ["10.0.0.5"] (leftBy doubledRequest newSite))

def offeredNewSite : Site Cloud.Memory :=
  offering (some "198.51.100.9") (leftBy doubledRequest startedNewSite)

theorem converges_from_nothing_office :
    Vacant doubledRequest officeWorkload newSite ∧ present (some "") = none ∧
      (newSite.patchStatus "bastion-1"
        (publishedPatch (endpointsTold "10.0.0.5" (some "198.51.100.9")))).answer = .ok () ∧
      (∃ soon, ∃ blocks : List Cidr, soon.seconds = 5 ∧ blocks.Perm [officeBlock, annexBlock] ∧
        Does (reconcile doubledRequest) startedNewSite (.requeue soon)
          (creations doubledRequest officeWorkload "10.0.0.5" blocks)
          (leftBy doubledRequest startedNewSite)) ∧
      ∃ after, Does (reconcile doubledRequest) offeredNewSite
        (.succeeded (endpointsTold "10.0.0.5" (some "198.51.100.9")))
        [.patchStatus "bastion-1" (publishedPatch (endpointsTold "10.0.0.5" (some "198.51.100.9")))]
        after := by
  have vacant : Vacant doubledRequest officeWorkload newSite := by
    refine ⟨?_, by decide, ?_, rfl⟩
    · exact ⟨fun _ => rfl, ⟨_, rfl⟩, ⟨_, rfl⟩, ⟨_, rfl⟩, rfl⟩
    intro belonging
    cases belonging <;> rfl
  have hidden : present (some "") = none := rfl
  have accepted : (newSite.patchStatus "bastion-1"
    (publishedPatch (endpointsTold "10.0.0.5" (some "198.51.100.9")))).answer = .ok () := rfl
  obtain ⟨_, soon, _, _, blocks, _, five, _, distinct, same, _, settles, publishes⟩ :=
    converges_from_nothing [] vacant (by decide) hidden (by decide) accepted
  have twice : blocks.Perm [officeBlock, annexBlock] := by
    apply (List.perm_ext_iff_of_nodup distinct (by decide)).2
    intro block
    rw [same]
    change block ∈ [officeBlock, annexBlock, officeBlock] ↔ block ∈ [officeBlock, annexBlock]
    grind
  exact ⟨vacant, hidden, accepted, ⟨soon, blocks, five, twice, settles⟩, _, publishes⟩

end Pass

end Bastion
