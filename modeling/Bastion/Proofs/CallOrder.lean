import Bastion.Pass.Reconcile
import Bastion.Proofs.RuleKeeper
import Bastion.Proofs.Transcripts

set_option autoImplicit false

/- The order of the calls of a pass. A full pass asks for the place, ensures the group and the instance,
finds the bastion running, and only then touches rules, addresses and the status; any other pass is one
that was cut short. -/
namespace Bastion.Pass

open Cloud (Network Subnet Availability Group Instance InstanceSpec Placement)
open Program

def told (call : Cloud.Call) (answer : call.method.Answer) : Exchange signature :=
  ⟨.other call, .ok answer⟩

inductive Places (name : String) : Placement → List (Exchange signature) → Prop
  | found (network : Network) (subnet : Subnet) :
    Places name ⟨network.id, subnet.id, subnet.zone⟩
      [told (.lookupNetwork name) (some network),
        told (.lookupSubnet network.subnet) (some subnet)]

/-- One or more numbers of cores are tried, in their order. -/
structure Probes (zone : String) (candidates : List Int) (course : List (Exchange signature)) :
    Prop where
  tried : candidates ≠ [] → course ≠ []
  order : course.map Exchange.op <+:
    candidates.map fun cores => .other (.listAvailability cores zone)

/-- The group of the name is found and has this id, or else one is made that has it. -/
inductive EnsuresGroup (name network : String) : String → List (Exchange signature) → Prop
  | found (group : Group) (named : group.name = name) :
    EnsuresGroup name network group.id [told (.lookupGroup name) (some group)]
  | made (other : Option Group) (missing : other.filter (·.name = name) = none) (group : Group)
      (identified : group.id ≠ "") :
    EnsuresGroup name network group.id
      [told (.lookupGroup name) other, told (.createGroup network name) (some group)]

inductive EnsuresInstance (spec : InstanceSpec) : String → List (Exchange signature) → Prop
  | found (other : Instance) (named : other.name = spec.name) :
    EnsuresInstance spec other.id [told (.lookupInstance spec.name) (some other)]
  | made (other : Option Instance) (missing : other.filter (·.name = spec.name) = none)
      (made : Instance) (identified : made.id ≠ "") :
    EnsuresInstance spec made.id
      [told (.lookupInstance spec.name) other, told (.createInstance spec) (some made)]

/-- The calls that create these rules, or that revoke them. -/
def changesOf (call : Rule → Cloud.Call) (rules : List Rule) : List signature.Op :=
  rules.map fun rule => .other (call rule)

/-- The rules of one direction are told, what is missing is created, and the rest is revoked. -/
inductive SettlesRules (direction : Direction) (group : String) (wanted : List Rule) :
    List (Exchange signature) → Prop
  | changed (current : List Rule) (changes : List (Exchange signature))
      (asked : changes.map Exchange.op =
        changesOf (.createRule direction group) (Rule.diff wanted current).added ++
          changesOf (.revokeRule direction group) (Rule.diff wanted current).removed) :
    SettlesRules direction group wanted
      (told (.describeRules group direction) (some current) :: changes)

/-- Both directions, with the look-ups that tell what is to lead out. -/
inductive ReconcilesRules (request : Request) (group : String) : List (Exchange signature) → Prop
  | settled (workload : Group) (found : Instance) (address : String)
      (addressed : found.privateAddress = some address) (ingress egress : List (Exchange signature))
      (settlesIn : SettlesRules .ingress group (Rule.wantedIngress request.ingress) ingress)
      (settlesOut : SettlesRules .egress group
        (Rule.wantedEgress (some address) (some workload.id)) egress) :
    ReconcilesRules request group
      (ingress ++ told (.lookupGroup request.options.workloadGroupName) (some workload) ::
        told (.lookupInstance request.options.instanceName) (some found) :: egress)

/-- The address is allocated, the endpoints are told, and the status is patched. -/
inductive Publishes (request : Request) (instanceId : String) : List (Exchange signature) → Prop
  | patched (address : Json) (found : Option Instance) (patch : Json) :
    Publishes request instanceId [told (.allocateAddress instanceId) address,
      told (.lookupInstance request.options.instanceName) found,
      ⟨.patchStatus request.bastionName patch, .ok ()⟩]

variable {σ : Type} {handler : Handler signature σ}

theorem speaks_cloud {α : Type} (call : Cloud.Call) {operation resource : String}
    {next : call.method.Answer → PassProgram α} {course : α → List (Exchange signature) → Prop}
    (usual : ∃ value answer later, course value (told call answer :: later))
    (goes : ∀ answer, (∃ failure, next answer = .fail failure) ∨
      (next answer).Speaks handler fun value later => course value (told call answer :: later)) :
    ((cloud call).during operation resource >>= next).Speaks handler course := by
  obtain ⟨value, answer, later, fits⟩ := usual
  exact speaks_call (S := signature) (.other call) ⟨value, .ok answer, later, fits⟩ goes

theorem opens_cloud {α : Type} (call : Cloud.Call) {operation resource : String}
    {next : call.method.Answer → PassProgram α} {course : List (Exchange signature) → Prop}
    (usual : ∃ answer later, course (told call answer :: later))
    (goes : ∀ answer, (next answer).Silent ∨
      (next answer).Opens handler fun later => course (told call answer :: later)) :
    ((cloud call).during operation resource >>= next).Opens handler course := by
  obtain ⟨answer, later, fits⟩ := usual
  exact opens_call (S := signature) (.other call) ⟨.ok answer, later, fits⟩ goes

theorem speaks_resolveNetwork (name : String) :
    (resolveNetwork name).Speaks handler (Places name) := by
  have network : Network := ⟨"", "", ""⟩
  have subnet : Subnet := ⟨"", "", none⟩
  refine speaks_cloud (.lookupNetwork name) ⟨_, _, _, .found network subnet⟩ fun answer => ?_
  cases answer with
  | none => exact .inl ⟨_, rfl⟩
  | some network =>
    refine .inr (speaks_cloud (.lookupSubnet network.subnet)
      ⟨_, _, _, .found network subnet⟩ fun answer => ?_)
    cases answer with
    | none => exact .inl ⟨_, rfl⟩
    | some subnet =>
      refine .inr ((speaks_pure _).mono ?_)
      rintro _ _ ⟨rfl, rfl⟩
      exact .found network subnet

theorem Probes.cons {zone : String} {cores : Int} {rest : List Int}
    {answer : Option Availability} {later : List (Exchange signature)}
    (order : later.map Exchange.op <+:
      rest.map fun cores => .other (.listAvailability cores zone)) :
    Probes zone (cores :: rest) (told (.listAvailability cores zone) answer :: later) := by
  refine ⟨fun _ => List.cons_ne_nil _ _, ?_⟩
  rw [List.map_cons, List.map_cons]
  exact List.cons_prefix_cons.2 ⟨rfl, order⟩

theorem speaks_availableType (zone : String) (candidates : List Int) :
    (availableType zone candidates).Speaks handler fun _ => Probes zone candidates := by
  induction candidates with
  | nil =>
    refine (speaks_pure _).mono ?_
    rintro _ _ ⟨rfl, rfl⟩
    exact ⟨fun some => absurd rfl some, List.nil_prefix⟩
  | cons cores rest ih =>
    have last {answer : Option Availability} : Probes zone (cores :: rest)
        [told (.listAvailability cores zone) answer] := .cons List.nil_prefix
    refine speaks_cloud (.listAvailability cores zone)
      ⟨none, none, [], last⟩ fun answer => .inr ?_
    cases present (answer.bind Cloud.Availability.availableType) with
    | some type =>
      refine (speaks_pure _).mono ?_
      rintro _ _ ⟨rfl, rfl⟩
      exact last
    | none => exact ih.mono fun probes => .cons probes.order

theorem speaks_resolveInstanceType (zone : String) (cluster : Cluster) (candidates : List Int) :
    (resolveInstanceType zone cluster candidates).Speaks handler fun _ =>
      Probes zone candidates := by
  refine ((speaks_availableType zone candidates).bind_silent fun type => ?_).mono fun fits =>
    fits.choose_spec
  cases type with
  | some type => trivial
  | none =>
    cases cluster.machineTypes with
    | nil => trivial
    | cons machine rest => exact silent_bind (silent_info _) fun _ => trivial

theorem present_of_ne {text : String} (nonempty : text ≠ "") : present (some text) = some text :=
  present_eq_self fun empty => nonempty (Option.some.inj empty)

theorem createdId_of_ne {operation name id : String} (nonempty : id ≠ "") :
    createdId operation name (some id) = pure id := by
  unfold createdId
  rw [present_of_ne nonempty]

theorem speaks_createdId {operation name : String} {id : Option String}
    {course : String → List (Exchange signature) → Prop}
    (fits : ∀ some, id = .some some → some ≠ "" → course some []) :
    (∃ failure, createdId operation name id = .fail failure) ∨
      (createdId operation name id).Speaks handler course := by
  unfold createdId
  cases identified : present id with
  | none => exact .inl ⟨_, rfl⟩
  | some found =>
    obtain ⟨same, nonempty⟩ := Option.filter_eq_some_iff.1 identified
    refine .inr ((speaks_pure found).mono ?_)
    rintro _ _ ⟨rfl, rfl⟩
    exact fits _ same (of_decide_eq_true nonempty)

theorem speaks_ensureGroup (name network : String) :
    (ensureGroup name network).Speaks handler (EnsuresGroup name network) := by
  refine speaks_cloud (.lookupGroup name) ⟨_, _, _, .found ⟨"", name, none⟩ rfl⟩ fun answer =>
    .inr ?_
  cases found : answer.filter (·.name = name) with
  | some group =>
    obtain ⟨rfl, named⟩ := Option.filter_eq_some_iff.1 found
    refine speaks_log ((speaks_pure _).mono ?_)
    rintro _ _ ⟨rfl, rfl⟩
    exact .found group (of_decide_eq_true named)
  | none =>
    have some : ("sg" : String) ≠ "" := by decide
    refine speaks_log (speaks_cloud (.createGroup network name)
      ⟨_, _, _, .made answer found ⟨"sg", name, none⟩ some⟩ fun made => ?_)
    refine speaks_createdId fun id same identified => ?_
    obtain ⟨group, rfl, rfl⟩ := Option.map_eq_some_iff.1 same
    exact .made answer found group identified

theorem speaks_ensureInstance (spec : InstanceSpec) :
    (ensureInstance spec).Speaks handler (EnsuresInstance spec) := by
  refine speaks_cloud (.lookupInstance spec.name)
    ⟨_, _, _, .found ⟨"", spec.name, .unknown, [], none⟩ rfl⟩ fun answer => .inr ?_
  cases found : answer.filter (·.name = spec.name) with
  | some other =>
    obtain ⟨rfl, named⟩ := Option.filter_eq_some_iff.1 found
    refine (speaks_pure _).mono ?_
    rintro _ _ ⟨rfl, rfl⟩
    exact .found other (of_decide_eq_true named)
  | none =>
    have some : ("i" : String) ≠ "" := by decide
    let sample : Instance := ⟨"i", spec.name, .unknown, [], none⟩
    apply speaks_log
    refine speaks_cloud (.createInstance spec) ⟨_, _, _, .made answer found sample some⟩ fun made => ?_
    refine speaks_createdId fun id same identified => ?_
    obtain ⟨other, rfl, rfl⟩ := Option.map_eq_some_iff.1 same
    exact .made answer found other identified

theorem speaks_currentRules (group : String) (direction : Direction) :
    (currentRules group direction).Speaks handler fun rules full =>
      full = [told (.describeRules group direction) (some rules)] := by
  refine speaks_cloud (.describeRules group direction) ⟨[], some [], [], rfl⟩ fun answer => ?_
  cases answer with
  | none => exact .inl ⟨_, rfl⟩
  | some rules =>
    refine .inr ((speaks_pure _).mono ?_)
    rintro _ _ ⟨rfl, rfl⟩
    rfl

theorem speaks_addRules (direction : Direction) (group : String) (rules : List Rule) :
    (addRules direction group rules).Speaks handler fun _ full =>
      full.map Exchange.op = changesOf (.createRule direction group) rules := by
  induction rules with
  | nil =>
    refine (speaks_pure ()).mono ?_
    rintro _ _ ⟨_, rfl⟩
    rfl
  | cons rule rest ih =>
    refine speaks_cloud (.createRule direction group rule) ⟨(), .null,
      rest.map fun rule => told (.createRule direction group rule) .null, ?_⟩ fun answer => .inr ?_
    · exact congrArg (_ :: ·) List.map_map
    · exact speaks_log (ih.mono fun asked => congrArg (_ :: ·) asked)

theorem speaks_revokeRules (direction : Direction) (group : String) (rules : List Rule) :
    (revokeRules direction group rules).Speaks handler fun _ full =>
      full.map Exchange.op = changesOf (.revokeRule direction group) rules := by
  induction rules with
  | nil =>
    refine (speaks_pure ()).mono ?_
    rintro _ _ ⟨_, rfl⟩
    rfl
  | cons rule rest ih =>
    refine speaks_cloud (.revokeRule direction group rule) ⟨(), .null,
      rest.map fun rule => told (.revokeRule direction group rule) .null, ?_⟩ fun answer => .inr ?_
    · exact congrArg (_ :: ·) List.map_map
    · exact speaks_log (ih.mono fun asked => congrArg (_ :: ·) asked)

theorem speaks_settle (direction : Direction) (group : String) (wanted : List Rule) :
    (settle direction group wanted).Speaks handler fun _ => SettlesRules direction group wanted := by
  refine ((speaks_currentRules group direction).bind fun current =>
    (speaks_addRules direction group (Rule.diff wanted current).added).bind fun _ =>
      speaks_revokeRules direction group (Rule.diff wanted current).removed).mono ?_
  rintro _ _ ⟨current, _, _, rfl, ⟨_, added, removed, first, second, rfl⟩, rfl⟩
  refine .changed current (added ++ removed) ?_
  rw [List.map_append, first, second]

theorem speaks_workloadGroup (name : String) :
    (workloadGroup name).Speaks handler fun group full =>
      full = [told (.lookupGroup name) (some group)] := by
  refine speaks_cloud (.lookupGroup name) ⟨⟨"", "", none⟩, _, [], rfl⟩ fun answer => ?_
  cases answer with
  | none => exact .inl ⟨_, rfl⟩
  | some group =>
    refine .inr ((speaks_pure _).mono ?_)
    rintro _ _ ⟨rfl, rfl⟩
    rfl

theorem speaks_privateAddress (name : String) :
    (privateAddress name).Speaks handler fun address full =>
      ∃ found : Instance, found.privateAddress = some address ∧
        full = [told (.lookupInstance name) (some found)] := by
  refine speaks_cloud (.lookupInstance name)
    ⟨"", _, _, ⟨"", name, .running, [""], none⟩, rfl, rfl⟩ fun answer => ?_
  cases located : answer.bind Cloud.Instance.privateAddress with
  | none => exact .inl ⟨_, rfl⟩
  | some address =>
    obtain ⟨found, rfl, addressed⟩ := Option.bind_eq_some_iff.1 located
    refine .inr ((speaks_pure _).mono ?_)
    rintro _ _ ⟨rfl, rfl⟩
    exact ⟨found, addressed, rfl⟩

theorem speaks_reconcileRules (request : Request) (group : String) :
    (reconcileRules request group).Speaks handler fun _ => ReconcilesRules request group := by
  rw [reconcileRules_eq]
  refine ((speaks_settle .ingress group _).bind fun _ =>
    (speaks_workloadGroup _).bind fun workload =>
      (speaks_privateAddress _).bind fun address =>
        speaks_settle .egress group (Rule.wantedEgress (some address) (some workload.id))).mono ?_
  rintro _ _ ⟨_, ingress, _, settlesIn, ⟨workload, _, _, rfl, ⟨address, _, egress,
    ⟨found, addressed, rfl⟩, settlesOut, rfl⟩, rfl⟩, rfl⟩
  exact .settled workload found address addressed ingress egress settlesIn settlesOut

theorem speaks_instanceEndpoints (name : String) (address : Json) :
    (instanceEndpoints name address).Speaks handler fun _ full =>
      ∃ found, full = [told (.lookupInstance name) found] := by
  refine speaks_cloud (.lookupInstance name) ⟨⟨none, none⟩, none, [], none, rfl⟩ fun answer => ?_
  cases answer with
  | none => exact .inl ⟨_, rfl⟩
  | some found =>
    change (∃ failure, ofExcept (endpointsOf name found address) = _) ∨
      (ofExcept (endpointsOf name found address)).Speaks handler _
    cases endpointsOf name found address with
    | error failure => exact .inl ⟨failure, rfl⟩
    | ok endpoints =>
      refine .inr ((speaks_pure endpoints).mono ?_)
      rintro _ _ ⟨rfl, rfl⟩
      exact ⟨some found, rfl⟩

theorem opens_publish (name : String) (endpoints : Endpoints) :
    (publish name endpoints >>= fun _ => pure (Outcome.succeeded endpoints)).Opens handler
      fun full => ∃ patch, full = [⟨.patchStatus name patch, .ok ()⟩] := by
  unfold publish
  rw [bind_assoc]
  exact opens_call (S := signature) (.patchStatus name _) ⟨.ok (), [], _, rfl⟩ fun _ =>
    .inl (silent_bind (silent_info _) fun _ => trivial)

theorem silent_requeueLater (requeue : Requeue) : (requeueLater requeue).Silent :=
  silent_bind (silent_info _) fun _ => trivial

theorem opens_finish (request : Request) (group instanceId : String) :
    (finish request group instanceId).Opens handler fun full => ∃ rules publishing,
      ReconcilesRules request group rules ∧ Publishes request instanceId publishing ∧
        full = rules ++ publishing := by
  refine ((speaks_reconcileRules request group).opens_bind (fun _ => Publishes request instanceId)
    fun _ => ?_).mono ?_
  · refine opens_cloud (.allocateAddress instanceId) ⟨_, _, .patched .null none .null⟩
      fun address => .inr ?_
    refine ((speaks_instanceEndpoints _ address).opens_bind
      (fun _ full => ∃ patch, full = [⟨.patchStatus request.bastionName patch, .ok ()⟩])
      fun endpoints => ?_).mono ?_
    · cases checkEndpoints endpoints with
      | some requeue => exact opens_of_silent (silent_requeueLater requeue) ⟨_, .null, rfl⟩
      | none => exact opens_publish request.bastionName endpoints
    · rintro _ ⟨_, _, _, ⟨found, rfl⟩, ⟨patch, rfl⟩, rfl⟩
      exact .patched address found patch
  · rintro _ ⟨_, rules, publishing, settled, published, rfl⟩
    exact ⟨rules, publishing, settled, published, rfl⟩

/-- Only what comes after a look-up that found the instance running is more than a requeue. -/
theorem opens_checkInstance {α : Type} (name : String) {next : Option Requeue → PassProgram α}
    {later : List (Exchange signature) → Prop} (silent : ∀ requeue, (next (some requeue)).Silent)
    (opens : (next none).Opens handler later) :
    (checkInstance name >>= next).Opens handler fun full => ∃ running rest,
      running.status = .running ∧ later rest ∧
        full = told (.lookupInstance name) (some running) :: rest := by
  unfold checkInstance
  rw [bind_assoc]
  intro state
  obtain ⟨rest, fits, _⟩ := opens state
  refine opens_cloud (.lookupInstance name)
    ⟨_, _, ⟨"", name, .running, [], none⟩, rest, rfl, fits, rfl⟩ (fun answer => ?_) state
  cases answer with
  | none => exact .inl trivial
  | some found =>
    change ((next (if found.status = .running then none else _)).Silent) ∨
      (next (if found.status = .running then none else _)).Opens handler _
    by_cases running : found.status = .running
    · rw [if_pos running]
      exact .inr (opens.mono fun fits => ⟨found, _, running, fits, rfl⟩)
    · rw [if_neg running]
      exact .inl (silent _)

/-- A full pass: what it ensures, the bastion that it then finds running, and all that follows. -/
structure Course (request : Request) where
  placing : List (Exchange signature)
  probing : List (Exchange signature)
  grouping : List (Exchange signature)
  making : List (Exchange signature)
  reconciling : List (Exchange signature)
  publishing : List (Exchange signature)
  place : Placement
  spec : InstanceSpec
  instanceId : String
  running : Instance
  places : Places request.options.networkName place placing
  probes : Probes place.zone coreCandidates probing
  groups : EnsuresGroup request.options.groupName place.network spec.group grouping
  named : spec.name = request.options.instanceName
  instances : EnsuresInstance spec instanceId making
  found : running.status = .running
  reconciles : ReconcilesRules request spec.group reconciling
  publishes : Publishes request instanceId publishing

namespace Course

variable {request : Request}

/-- What a pass says up to the instance that it finds running. -/
def ensuring (course : Course request) : List (Exchange signature) :=
  course.placing ++ course.probing ++ course.grouping ++ course.making ++
    [told (.lookupInstance request.options.instanceName) (some course.running)]

def exchanges (course : Course request) : List (Exchange signature) :=
  course.ensuring ++ course.reconciling ++ course.publishing

end Course

theorem opens_reconcile (request : Request) :
    (reconcile request).Opens handler fun full =>
      ∃ course : Course request, full = course.exchanges := by
  have imageSilent : (imageOf request).Silent := by
    unfold imageOf
    cases resolveImage request.options request.cluster <;> trivial
  have image : (imageOf request).Speaks handler fun _ full => full = [] :=
    speaks_of_silent imageSilent
  change (imageOf request >>= _).Opens handler _
  refine Opens.mono (image.opens_bind _ fun image =>
    (speaks_resolveNetwork _).opens_bind _ fun place =>
      (speaks_resolveInstanceType place.zone request.cluster coreCandidates).opens_bind _ fun type =>
        (speaks_ensureGroup _ place.network).opens_bind _ fun group =>
          (speaks_ensureInstance _).opens_bind _ fun instanceId => opens_checkInstance _
            silent_requeueLater (opens_finish request group instanceId)) ?_
  rintro _ ⟨image, _, _, rfl, ⟨place, placing, _, places, ⟨type, probing, _, probes, ⟨group,
    grouping, _, groups, ⟨instanceId, making, _, instances, ⟨running, _, found, ⟨reconciling,
      publishing, reconciles, publishes, rfl⟩, rfl⟩, rfl⟩, rfl⟩, rfl⟩, rfl⟩, rfl⟩
  let course : Course request :=
    ⟨placing, probing, grouping, making, reconciling, publishing, place, _, instanceId, running,
      places, probes, groups, rfl, instances, found, reconciles, publishes⟩
  refine ⟨course, ?_⟩
  simp only [course, Course.exchanges, Course.ensuring, List.append_assoc, List.nil_append,
    List.cons_append]

/-- Calls on rules and addresses, and patches of the status. -/
def Late : signature.Op → Prop
  | .patchStatus .. => True
  | .other (.describeRules ..) => True
  | .other (.createRule ..) => True
  | .other (.revokeRule ..) => True
  | .other (.allocateAddress _) => True
  | .other _ => False

/-- A call on rules is one on this group, and an address is allocated for this instance. -/
def Carries (group instanceId : String) : signature.Op → Prop
  | .other (.describeRules other _) => other = group
  | .other (.createRule _ other _) => other = group
  | .other (.revokeRule _ other _) => other = group
  | .other (.allocateAddress other) => other = instanceId
  | .other _ => True
  | .patchStatus .. => True

theorem Places.early {name : String} {place : Placement} {course : List (Exchange signature)}
    (places : Places name place course) : ∀ exchange ∈ course, ¬Late exchange.op := by
  cases places
  simp [told, Late]

theorem Probes.early {zone : String} {candidates : List Int} {course : List (Exchange signature)}
    (probes : Probes zone candidates course) : ∀ exchange ∈ course, ¬Late exchange.op := by
  intro exchange member
  obtain ⟨cores, _, same⟩ :=
    List.mem_map.1 (probes.order.subset (List.mem_map_of_mem member))
  rw [← same]
  exact id

theorem EnsuresGroup.early {name network id : String} {course : List (Exchange signature)}
    (ensures : EnsuresGroup name network id course) : ∀ exchange ∈ course, ¬Late exchange.op := by
  cases ensures <;> simp [told, Late]

theorem EnsuresInstance.early {spec : InstanceSpec} {id : String}
    {course : List (Exchange signature)} (ensures : EnsuresInstance spec id course) :
    ∀ exchange ∈ course, ¬Late exchange.op := by
  cases ensures <;> simp [told, Late]

/-- Each exchange is a call on the cloud, for this group or for none. -/
def Serves (group : String) (course : List (Exchange signature)) : Prop :=
  ∀ exchange ∈ course, ∃ call, exchange.op = .other call ∧ ∀ instanceId,
    Carries group instanceId exchange.op

theorem SettlesRules.serves {direction : Direction} {group : String} {wanted : List Rule}
    {course : List (Exchange signature)} (settles : SettlesRules direction group wanted course) :
    Serves group course := by
  obtain ⟨current, changes, asked⟩ := settles
  intro exchange member
  rcases List.mem_cons.1 member with rfl | change
  · exact ⟨_, rfl, fun _ => rfl⟩
  · have op : exchange.op ∈ changes.map Exchange.op := List.mem_map_of_mem change
    rw [asked] at op
    rcases List.mem_append.1 op with added | removed
    · obtain ⟨rule, _, same⟩ := List.mem_map.1 added
      exact ⟨_, same.symm, fun _ => same ▸ rfl⟩
    · obtain ⟨rule, _, same⟩ := List.mem_map.1 removed
      exact ⟨_, same.symm, fun _ => same ▸ rfl⟩

theorem ReconcilesRules.serves {request : Request} {group : String}
    {course : List (Exchange signature)} (reconciles : ReconcilesRules request group course) :
    Serves group course := by
  obtain ⟨workload, found, address, _, ingress, egress, settlesIn, settlesOut⟩ := reconciles
  intro exchange member
  simp only [List.mem_append, List.mem_cons] at member
  rcases member with inside | rfl | rfl | inside
  · exact settlesIn.serves exchange inside
  · exact ⟨_, rfl, fun _ => trivial⟩
  · exact ⟨_, rfl, fun _ => trivial⟩
  · exact settlesOut.serves exchange inside

theorem Publishes.patched_last {request : Request} {instanceId : String}
    {course : List (Exchange signature)} (publishes : Publishes request instanceId course) :
    ∃ before patch, course = before ++ [⟨.patchStatus request.bastionName patch, .ok ()⟩] ∧
      ∀ exchange ∈ before, ∃ call, exchange.op = .other call ∧ ∀ group,
        Carries group instanceId exchange.op := by
  obtain ⟨address, found, patch⟩ := publishes
  refine ⟨[_, _], patch, rfl, ?_⟩
  simp [told, Carries]

/-- Something that the first part lacks is in the second one, wherever the whole is cut there. -/
theorem split_after {α : Type} {first second early rest : List α} {item : α}
    (split : first ++ second = early ++ item :: rest) (missing : item ∉ first) :
    ∃ between, early = first ++ between ∧ second = between ++ item :: rest := by
  rcases List.append_eq_append_iff.1 split with found | ⟨between, same, later⟩
  · exact found
  · cases between with
    | nil =>
      rw [List.append_nil] at same
      exact ⟨[], by rw [same, List.append_nil], later.symm⟩
    | cons other _ =>
      obtain rfl : item = other := (List.cons.inj later).1
      rw [same] at missing
      exact absurd (List.mem_append_right _ List.mem_cons_self) missing

namespace Course

variable {request : Request}

theorem early_of_ensuring (course : Course request) :
    ∀ exchange ∈ course.ensuring, ¬Late exchange.op := by
  intro exchange member
  simp only [ensuring, List.mem_append, List.mem_singleton] at member
  rcases member with (((placed | probed) | grouped) | made) | rfl
  · exact course.places.early exchange placed
  · exact course.probes.early exchange probed
  · exact course.groups.early exchange grouped
  · exact course.instances.early exchange made
  · exact id

theorem mem_of_late (course : Course request) {exchange : Exchange signature}
    (member : exchange ∈ course.exchanges) (late : Late exchange.op) :
    exchange ∈ course.reconciling ∨ exchange ∈ course.publishing := by
  simp only [exchanges, List.mem_append] at member
  rcases member with (ensured | reconciled) | published
  · exact (course.early_of_ensuring exchange ensured late).elim
  · exact .inl reconciled
  · exact .inr published

/-- What comes late in a full pass is for the group and the instance that it ensures. -/
theorem carries_of_late (course : Course request) {exchange : Exchange signature}
    (member : exchange ∈ course.exchanges) (late : Late exchange.op) :
    Carries course.spec.group course.instanceId exchange.op := by
  rcases course.mem_of_late member late with reconciled | published
  · obtain ⟨_, _, carries⟩ := course.reconciles.serves exchange reconciled
    exact carries _
  · obtain ⟨before, patch, same, calls⟩ := course.publishes.patched_last
    rw [same] at published
    rcases List.mem_append.1 published with inside | last
    · obtain ⟨_, _, carries⟩ := calls exchange inside
      exact carries _
    · rw [List.mem_singleton.1 last]
      trivial

theorem ensuring_prefix (course : Course request) {early rest : List (Exchange signature)}
    {exchange : Exchange signature} (split : course.exchanges = early ++ exchange :: rest)
    (late : Late exchange.op) : course.ensuring <+: early := by
  unfold exchanges at split
  rw [List.append_assoc] at split
  obtain ⟨between, rfl, _⟩ :=
    split_after split fun member => course.early_of_ensuring exchange member late
  exact List.prefix_append _ _

theorem last_of_patch (course : Course request) {early rest : List (Exchange signature)}
    {exchange : Exchange signature} (split : course.exchanges = early ++ exchange :: rest)
    {name : String} {patch : Json} (patches : exchange.op = .patchStatus name patch) :
    rest = [] := by
  obtain ⟨before, last, published, calls⟩ := course.publishes.patched_last
  have unpatched : exchange ∉ course.ensuring ++ course.reconciling ++ before := by
    have late : Late exchange.op := by
      rw [patches]
      trivial
    intro member
    rcases List.mem_append.1 member with former | inside
    · rcases List.mem_append.1 former with ensured | reconciled
      · exact course.early_of_ensuring exchange ensured late
      · obtain ⟨_, call, _⟩ := course.reconciles.serves exchange reconciled
        cases call.symm.trans patches
    · obtain ⟨_, call, _⟩ := calls exchange inside
      cases call.symm.trans patches
  unfold exchanges at split
  rw [published, ← List.append_assoc] at split
  obtain ⟨between, _, ends⟩ := split_after split unpatched
  cases between with
  | nil => exact (List.cons.inj ends).2.symm
  | cons other later =>
    have lengths := congrArg List.length ends
    simp at lengths

end Course

/-- Whatever its calls are answered, a pass of `reconcile` makes those of a full pass in their order, up
to where it ends. A call on rules or addresses and a patch of the status come only after the group and the
instance were ensured and the instance was found running, and are for these; and nothing comes after a
patch. -/
theorem calls_in_order (handler : Handler signature σ) (request : Request) (state : σ) :
    ∃ course : Course request,
      ((reconcile request).run handler state).calls <+: course.exchanges.map Exchange.op ∧
      ∀ early exchange later,
        (reconcile request).transcript handler state = early ++ exchange :: later →
          (Late exchange.op → course.ensuring <+: early ∧
            Carries course.spec.group course.instanceId exchange.op) ∧
          ∀ name patch, exchange.op = .patchStatus name patch → later = [] := by
  obtain ⟨_, ⟨course, rfl⟩, begun⟩ := opens_reconcile request state
  refine ⟨course, ?_, fun early exchange later said => ?_⟩
  · rw [calls_eq_transcript]
    exact begun.asked
  rw [said] at begun
  obtain ⟨same, rest, split, op⟩ := begun.split
  refine ⟨fun late => ?_, fun name patch patches => ?_⟩
  · rw [← op] at late ⊢
    have member : same ∈ course.exchanges := by
      rw [split]
      exact List.mem_append_right _ List.mem_cons_self
    exact ⟨course.ensuring_prefix split late, course.carries_of_late member late⟩
  · obtain rfl := course.last_of_patch split (op.trans patches)
    have bound := begun.asked.length_le
    rw [split] at bound
    simp only [List.length_map, List.length_append, List.length_cons, List.length_nil] at bound
    exact List.eq_nil_of_length_eq_zero (by omega)

end Bastion.Pass
