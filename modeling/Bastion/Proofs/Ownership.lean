import Bastion.Proofs.FailStop
import Bastion.Proofs.Proceedings
import Bastion.Proofs.Publication

set_option autoImplicit false

namespace Bastion.Pass

open Program

inductive Belonging where
  | securityGroup
  | computeInstance

namespace Belonging

def nameIn (options : Options) : Belonging → String
  | securityGroup => options.groupName
  | computeInstance => options.instanceName

def madeBy : Belonging → signature.Op → Option String
  | securityGroup, .other (.createGroup _ name) => some name
  | computeInstance, .other (.createInstance spec) => some spec.name
  | _, _ => none

/-- The id of what a call on rules or on a public address works on. -/
def usedBy : Belonging → signature.Op → Option String
  | securityGroup, .other (.describeRules group _) => some group
  | securityGroup, .other (.createRule _ group _) => some group
  | securityGroup, .other (.revokeRule _ group _) => some group
  | computeInstance, .other (.allocateAddress instanceId) => some instanceId
  | _, _ => none

def created (belonging : Belonging) (exchange : Exchange signature) : Bool :=
  (belonging.madeBy exchange.op).isSome && exchange.answer.isOk

/-- The id of the one that is there under its name. -/
def held (options : Options) (site : Site Cloud.Memory) : Belonging → Option String
  | securityGroup =>
    ((Keyed.get? site.world.groups options.groupName).filter (·.name = options.groupName)).map
      (·.id)
  | computeInstance =>
    ((Keyed.get? site.world.instances options.instanceName).filter
      (·.name = options.instanceName)).map (·.id)

end Belonging

/-- A call makes only what is missing, and works on nothing but what is there. -/
structure Due (options : Options) (op : signature.Op) (site : Site Cloud.Memory) : Prop where
  made : ∀ belonging name, Belonging.madeBy belonging op = some name →
    name = belonging.nameIn options ∧ belonging.held options site = none
  used : ∀ belonging id, Belonging.usedBy belonging op = some id →
    belonging.held options site = some id

variable {options : Options} {belonging : Belonging} {op : signature.Op}
  {site before between after : Site Cloud.Memory} {said : List (Exchange signature)}

theorem held_of_world (options : Options) (same : after.world = before.world) :
    belonging.held options after = belonging.held options before := by
  unfold Belonging.held
  rw [same]

theorem held_of_not_made (options : Options) (site : Site Cloud.Memory)
    (other : belonging.madeBy op = none) :
    belonging.held options (Site.handler Cloud.Memory.handler op site).state =
      belonging.held options site := by
  cases op with
  | patchStatus name patch => exact held_of_world options (site.world_patchStatus name patch)
  | other call =>
    change belonging.held options
      { site with world := (Cloud.Memory.handler call site.world).state } = _
    rcases site.world.handler_cases call with ⟨answer, _, result⟩ | result
    · rw [result]
      cases belonging <;> rfl
    · rw [result]
      cases belonging <;> cases call <;> first | rfl | cases other

theorem held_of_error (options : Options) {failure : Failure}
    (failed : (Site.handler Cloud.Memory.handler op site).answer = .error failure) :
    belonging.held options (Site.handler Cloud.Memory.handler op site).state =
      belonging.held options site := by
  cases op with
  | patchStatus name patch => exact held_of_world options (site.world_patchStatus name patch)
  | other call =>
    change belonging.held options
      { site with world := (Cloud.Memory.handler call site.world).state } = _
    rw [Cloud.Memory.handler_of_error failed]
    cases belonging <;> rfl

theorem held_of_made (scripted : Cloud.Memory.Scripted site)
    (made : belonging.madeBy op = some (belonging.nameIn options)) {answer : signature.Answer op}
    (answered : (Site.handler Cloud.Memory.handler op site).answer = .ok answer) :
    (belonging.held options (Site.handler Cloud.Memory.handler op site).state).isSome := by
  cases op with
  | patchStatus name patch => cases belonging <;> cases made
  | other call =>
    change (belonging.held options
      { site with world := (Cloud.Memory.handler call site.world).state }).isSome
    rw [(Cloud.Memory.handler_of_ok scripted answered).2]
    cases belonging with
    | securityGroup =>
      cases call with
      | createGroup network name =>
        obtain rfl := Option.some.inj made
        simp [Belonging.held, Belonging.nameIn, Cloud.Memory.carryOut, Cloud.Memory.createGroup,
          Keyed.get?_put_same]
      | _ => cases made
    | computeInstance =>
      cases call with
      | createInstance spec =>
        have named := Option.some.inj made
        simp [Belonging.held, Belonging.nameIn, Cloud.Memory.carryOut,
          Cloud.Memory.createInstance, named, Keyed.get?_put_same]
      | _ => cases made

/-- How many of a kind are there under the name of the bastion's: none or one. -/
def owned (options : Options) (belonging : Belonging) (site : Site Cloud.Memory) : Nat :=
  (belonging.held options site).isSome.toNat

/-- From one state to a later one, with what was said between. What was there keeps its id, one is made
only where there was none, and whatever was worked on is what is there in the end. -/
structure Owns (options : Options) (belonging : Belonging) (before : Site Cloud.Memory)
    (said : List (Exchange signature)) (after : Site Cloud.Memory) : Prop where
  steady : ∀ id, belonging.held options before = some id → belonging.held options after = some id
  once : owned options belonging before + said.countP belonging.created ≤
    owned options belonging after
  same : ∀ exchange ∈ said, ∀ id, belonging.usedBy exchange.op = some id →
    belonging.held options after = some id

/-- Nothing is said where the world is changed by others, who let what is there stand. -/
theorem owns_of_steady
    (steady : ∀ id, belonging.held options before = some id → belonging.held options after = some id) :
    Owns options belonging before [] after := by
  constructor
  case steady => exact steady
  case once =>
    unfold owned
    cases had : belonging.held options before with
    | none => exact Nat.zero_le _
    | some id =>
      rw [steady id had]
      exact Nat.le_refl _
  case same =>
    intro exchange inside
    cases inside

theorem Owns.trans {later : List (Exchange signature)}
    (first : Owns options belonging before said between)
    (second : Owns options belonging between later after) :
    Owns options belonging before (said ++ later) after := by
  constructor
  case steady =>
    intro id had
    exact second.steady id (first.steady id had)
  case once =>
    have former := first.once
    have latter := second.once
    rw [List.countP_append]
    omega
  case same =>
    intro exchange inside id used
    rcases List.mem_append.1 inside with early | late
    · exact second.steady id (first.same exchange early id used)
    · exact second.same exchange late id used

/-- A call that makes none leaves what is there, and may work on it. -/
theorem Due.owns_of_unchanged (due : Due options op site)
    (unchanged : belonging.held options after = belonging.held options site)
    {answer : Except Failure (signature.Answer op)}
    (none : belonging.created ⟨op, answer⟩ = false) :
    Owns options belonging site [⟨op, answer⟩] after := by
  constructor
  case steady =>
    intro id had
    rw [unchanged, had]
  case once =>
    unfold owned
    rw [unchanged, List.countP_singleton, none]
    exact Nat.le_refl _
  case same =>
    intro exchange inside id used
    rw [List.mem_singleton] at inside
    subst inside
    rw [unchanged]
    exact due.used belonging id used

theorem Due.owns_of_made (missing : belonging.held options site = none)
    (there : (belonging.held options after).isSome) (due : Due options op site)
    (answer : Except Failure (signature.Answer op)) :
    Owns options belonging site [⟨op, answer⟩] after := by
  constructor
  case steady =>
    intro id had
    rw [missing] at had
    cases had
  case once =>
    unfold owned
    rw [missing, there]
    exact Nat.add_le_add (Nat.le_refl 0) List.countP_le_length
  case same =>
    intro exchange inside id used
    rw [List.mem_singleton] at inside
    subst inside
    have had := due.used belonging id used
    rw [missing] at had
    cases had

theorem Due.owns (due : Due options op site) (scripted : Cloud.Memory.Scripted site)
    (belonging : Belonging) :
    Owns options belonging site [⟨op, (Site.handler Cloud.Memory.handler op site).answer⟩]
      (Site.handler Cloud.Memory.handler op site).state := by
  cases made : belonging.madeBy op with
  | none =>
    apply due.owns_of_unchanged (held_of_not_made options site made)
    unfold Belonging.created
    rw [made]
    rfl
  | some name =>
    obtain ⟨rfl, missing⟩ := due.made belonging name made
    cases answered : (Site.handler Cloud.Memory.handler op site).answer with
    | error failure =>
      apply due.owns_of_unchanged (held_of_error options answered)
      unfold Belonging.created
      rw [made]
      rfl
    | ok answer => exact due.owns_of_made missing (held_of_made scripted made answered) _

theorem scripted_handler (op : signature.Op) (scripted : Cloud.Memory.Scripted site) :
    Cloud.Memory.Scripted (Site.handler Cloud.Memory.handler op site).state := by
  cases op with
  | other call => exact Cloud.Memory.onlyFails_handler scripted call
  | patchStatus name patch =>
    change Cloud.Script.OnlyFails (site.patchStatus name patch).state.world.script
    rw [site.world_patchStatus]
    exact scripted

variable {α β : Type} {program : PassProgram α} {done : α → Site Cloud.Memory → Prop}

theorem scripted_run (program : PassProgram α) (scripted : Cloud.Memory.Scripted site) :
    Cloud.Memory.Scripted (program.run (Site.handler Cloud.Memory.handler) site).state := by
  apply run_preserves Cloud.Memory.Scripted ?_ (makes_any program) scripted
  intro op now _ fails
  exact scripted_handler op fails

/-- A part of a pass all whose calls are due in the states that they are made in. -/
def Proper (options : Options) (program : PassProgram α) (done : α → Site Cloud.Memory → Prop)
    (site : Site Cloud.Memory) : Prop :=
  program.Proceeds (Site.handler Cloud.Memory.handler)
    (fun op now => Cloud.Memory.Scripted now ∧ Due options op now) done (fun _ => True) site

theorem Proper.owns (proper : Proper options program done site) (belonging : Belonging) :
    Owns options belonging site (program.transcript (Site.handler Cloud.Memory.handler) site)
      (program.run (Site.handler Cloud.Memory.handler) site).state := by
  induction program generalizing site with
  | done value => exact owns_of_steady fun _ had => had
  | fail failure => exact owns_of_steady fun _ had => had
  | log line rest ih => exact ih _ proper
  | call op rest ih =>
    obtain ⟨⟨scripted, due⟩, goes⟩ := proper
    exact (due.owns scripted belonging).trans (ih _ goes)

def Stays (options : Options) (before after : Site Cloud.Memory) : Prop :=
  ∀ belonging id, Belonging.held options before belonging = some id →
    Belonging.held options after belonging = some id

theorem Proper.stays {value : α} (proper : Proper options program done site)
    (returned : program.Returns (Site.handler Cloud.Memory.handler) site value after) :
    Stays options site after := by
  intro belonging id had
  rw [← (outcome_of_returns returned).2]
  exact (proper.owns belonging).steady id had

theorem Proper.bind {next : α → PassProgram β} {result : β → Site Cloud.Memory → Prop}
    (proper : Proper options program done site) (scripted : Cloud.Memory.Scripted site)
    (later : ∀ value after, done value after → Cloud.Memory.Scripted after →
      Stays options site after → Proper options (next value) result after) :
    Proper options (program >>= next) result site := by
  apply Proceeds.bind proper
  intro value after returned
  apply later value after
  · exact proper.done_of_returns returned
  · rw [← (outcome_of_returns returned).2]
    exact scripted_run program scripted
  · exact proper.stays returned

/-- Calls that are due wherever what is there at first is still there. -/
theorem proper_of_makes {allowed : signature.Op → Prop} (made : program.Makes allowed)
    (due : ∀ op now, allowed op → Stays options site now → Due options op now)
    (scripted : Cloud.Memory.Scripted site) : Proper options program (fun _ _ => True) site := by
  let standing (now : Site Cloud.Memory) : Prop := Cloud.Memory.Scripted now ∧ Stays options site now
  have proceeds : program.Proceeds (Site.handler Cloud.Memory.handler)
      (fun op now => Cloud.Memory.Scripted now ∧ Due options op now) (fun _ => standing) standing
      site := by
    apply proceeds_of_makes standing ?_ made ⟨scripted, fun _ _ had => had⟩
    intro op now fits ⟨fails, stays⟩
    have here := due op now fits stays
    refine ⟨⟨fails, here⟩, scripted_handler op fails, ?_⟩
    intro belonging id had
    exact (here.owns fails belonging).steady id (stays belonging id had)
  exact proceeds.mono id (fun _ => trivial) fun _ => trivial

theorem due_of_looks (looks : OnCloud Looks op) : Due options op site := by
  obtain ⟨call, looks, rfl⟩ := looks
  constructor
  · intro belonging name made
    cases looks <;> cases belonging <;> cases made
  · intro belonging id used
    cases looks <;> cases belonging <;> cases used

theorem proper_of_looks (made : program.Makes (OnCloud Looks))
    (scripted : Cloud.Memory.Scripted site) : Proper options program (fun _ _ => True) site := by
  apply proper_of_makes made ?_ scripted
  intro op now looks _
  exact due_of_looks looks

theorem proper_cloud (call : Cloud.Call) {operation resource : String}
    {next : call.method.Answer → PassProgram α} (scripted : Cloud.Memory.Scripted site)
    (due : Due options (.other call) site)
    (goes : ∀ answer after, ((site.world.used call.method).carryOut call).1 = .ok answer →
      after = { site with world := ((site.world.used call.method).carryOut call).2 } →
      Cloud.Memory.Scripted after → Proper options (next answer) done after) :
    Proper options ((cloud call).during operation resource >>= next) done site := by
  unfold Proper cloud
  rw [proceeds_call]
  refine ⟨⟨scripted, due⟩, ?_⟩
  cases answered : (Site.handler Cloud.Memory.handler (.other call) site).answer with
  | error failure => trivial
  | ok answer =>
    obtain ⟨own, left⟩ := Cloud.Memory.handler_of_ok scripted answered
    apply goes answer _ own ?_ (scripted_handler _ scripted)
    exact congrArg (fun world => { site with world := world }) left

theorem proper_createdId {operation name id : String} (there : id ≠ "")
    (held : belonging.held options site = some id) :
    Proper options (createdId operation name (some id))
      (fun id after => belonging.held options after = some id) site := by
  rw [createdId_of_ne there]
  exact held

theorem proper_makeGroup (network : String) (scripted : Cloud.Memory.Scripted site)
    (missing : Belonging.held options site .securityGroup = none) :
    Proper options (makeGroup options.groupName network)
      (fun id after => Belonging.held options after .securityGroup = some id) site := by
  apply proper_cloud (.createGroup network options.groupName) scripted
  · constructor
    · intro belonging name made
      cases belonging with
      | securityGroup => exact ⟨(Option.some.inj made).symm, missing⟩
      | computeInstance => cases made
    · intro belonging id used
      cases belonging <;> cases used
  · rintro created after own rfl scripted
    obtain rfl := Except.ok.inj own
    apply proper_createdId
    · simp
    · simp [Belonging.held, Cloud.Memory.carryOut, Cloud.Memory.createGroup, Keyed.get?_put_same]

theorem proper_makeInstance (spec : Cloud.InstanceSpec) (named : spec.name = options.instanceName)
    (scripted : Cloud.Memory.Scripted site)
    (missing : Belonging.held options site .computeInstance = none) :
    Proper options (makeInstance spec)
      (fun id after => Belonging.held options after .computeInstance = some id) site := by
  apply proper_cloud (.createInstance spec) scripted
  · constructor
    · intro belonging name made
      cases belonging with
      | securityGroup => cases made
      | computeInstance => exact ⟨(Option.some.inj made).symm.trans named, missing⟩
    · intro belonging id used
      cases belonging <;> cases used
  · rintro created after own rfl scripted
    obtain rfl := Except.ok.inj own
    apply proper_createdId
    · simp
    · simp [Belonging.held, Cloud.Memory.carryOut, Cloud.Memory.createInstance, named,
        Keyed.get?_put_same]

theorem proper_ensureGroup (network : String) (scripted : Cloud.Memory.Scripted site) :
    Proper options (ensureGroup options.groupName network)
      (fun id after => Belonging.held options after .securityGroup = some id) site := by
  apply proper_cloud (.lookupGroup options.groupName) scripted (due_of_looks ⟨_, .group _, rfl⟩)
  intro found after own left scripted
  obtain rfl : Keyed.get? site.world.groups options.groupName = found := Except.ok.inj own
  have there : Belonging.held options after .securityGroup =
      ((Keyed.get? site.world.groups options.groupName).filter
        (·.name = options.groupName)).map (·.id) := by
    rw [left]
    rfl
  cases kept : (Keyed.get? site.world.groups options.groupName).filter
      (·.name = options.groupName) with
  | some group =>
    rw [kept] at there
    exact there
  | none =>
    rw [kept] at there
    exact proper_makeGroup network scripted there

theorem proper_ensureInstance (spec : Cloud.InstanceSpec) (named : spec.name = options.instanceName)
    (scripted : Cloud.Memory.Scripted site) :
    Proper options (ensureInstance spec)
      (fun id after => Belonging.held options after .computeInstance = some id) site := by
  apply proper_cloud (.lookupInstance spec.name) scripted (due_of_looks ⟨_, .machine _, rfl⟩)
  intro found after own left scripted
  obtain rfl : Keyed.get? site.world.instances spec.name = found := Except.ok.inj own
  have there : Belonging.held options after .computeInstance =
      ((Keyed.get? site.world.instances spec.name).filter (·.name = spec.name)).map (·.id) := by
    rw [left, named]
    rfl
  cases kept : (Keyed.get? site.world.instances spec.name).filter (·.name = spec.name) with
  | some found =>
    rw [kept] at there
    exact there
  | none =>
    rw [kept] at there
    exact proper_makeInstance spec named scripted there

def Belonging.idAmong (group instanceId : String) : Belonging → String
  | securityGroup => group
  | computeInstance => instanceId

/-- A call that makes nothing, and works on nothing but the group and the instance of these ids. -/
structure WorksOn (group instanceId : String) (op : signature.Op) : Prop where
  made : ∀ belonging, Belonging.madeBy belonging op = none
  used : ∀ belonging id, Belonging.usedBy belonging op = some id →
    id = belonging.idAmong group instanceId

theorem worksOn_of_looks {group instanceId : String} (looks : OnCloud Looks op) :
    WorksOn group instanceId op := by
  obtain ⟨call, looks, rfl⟩ := looks
  constructor
  · intro belonging
    cases looks <;> cases belonging <;> rfl
  · intro belonging id used
    cases looks <;> cases belonging <;> cases used

theorem worksOn_of_rules {group instanceId : String} (ofRules : OnCloud (RuleCall group) op) :
    WorksOn group instanceId op := by
  obtain ⟨call, ofRules, rfl⟩ := ofRules
  constructor
  · intro belonging
    rcases ofRules with ⟨⟨⟩ | ⟨⟩ | ⟨⟩⟩ | ⟨⟩ | ⟨⟩ <;> cases belonging <;> rfl
  · intro belonging id used
    rcases ofRules with ⟨⟨⟩ | ⟨⟩ | ⟨⟩⟩ | ⟨⟩ | ⟨⟩ <;> cases belonging <;> cases used <;> rfl

theorem worksOn_allocate (group instanceId : String) :
    WorksOn group instanceId (.other (.allocateAddress instanceId)) := by
  constructor
  · intro belonging
    cases belonging <;> rfl
  · intro belonging id used
    cases belonging <;> cases used
    rfl

theorem worksOn_patch (group instanceId name : String) (patch : Json) :
    WorksOn group instanceId (.patchStatus name patch) := by
  constructor
  · intro belonging
    cases belonging <;> rfl
  · intro belonging id used
    cases belonging <;> cases used

theorem makes_finish (request : Request) (group instanceId : String) :
    (finish request group instanceId).Makes (WorksOn group instanceId) := by
  apply makes_bind ((makes_reconcileRules request group).mono worksOn_of_rules)
  intro _
  apply makes_bind (makes_during (makes_perform (worksOn_allocate group instanceId)))
  intro address
  apply makes_bind ((makes_instanceEndpoints _ address).mono worksOn_of_looks)
  intro endpoints
  cases checkEndpoints endpoints with
  | some requeue => exact makes_bind (makes_info _) fun _ => trivial
  | none =>
    apply makes_bind
    · apply makes_bind (makes_during (makes_perform (worksOn_patch group instanceId _ _)))
      intro _
      exact makes_info _
    · intro _
      trivial

theorem proper_finish (request : Request) {group instanceId : String}
    (scripted : Cloud.Memory.Scripted site)
    (grouped : Belonging.held options site .securityGroup = some group)
    (ensured : Belonging.held options site .computeInstance = some instanceId) :
    Proper options (finish request group instanceId) (fun _ _ => True) site := by
  apply proper_of_makes (makes_finish request group instanceId) ?_ scripted
  intro op now works stays
  constructor
  · intro belonging name made
    rw [works.made belonging] at made
    cases made
  · intro belonging id used
    obtain rfl := works.used belonging id used
    cases belonging with
    | securityGroup => exact stays _ _ grouped
    | computeInstance => exact stays _ _ ensured

theorem proper_reconcile (request : Request) (scripted : Cloud.Memory.Scripted site) :
    Proper request.options (reconcile request) (fun _ _ => True) site := by
  change Proper request.options (imageOf request >>= _) _ site
  apply (proper_of_looks (makes_imageOf request) scripted).bind scripted
  intro image _ _ scripted _
  apply (proper_of_looks (makes_resolveNetwork _) scripted).bind scripted
  intro place _ _ scripted _
  apply (proper_of_looks (makes_resolveInstanceType place.zone request.cluster coreCandidates)
    scripted).bind scripted
  intro type _ _ scripted _
  apply (proper_ensureGroup place.network scripted).bind scripted
  intro group _ grouped scripted _
  apply (proper_ensureInstance _ rfl scripted).bind scripted
  intro instanceId _ ensured scripted stays
  replace grouped := stays _ _ grouped
  apply (proper_of_looks (makes_checkInstance _) scripted).bind scripted
  intro requeue _ _ scripted stays
  cases requeue with
  | some requeue => trivial
  | none => exact proper_finish request scripted (stays _ _ grouped) (stays _ _ ensured)

/-- A history of passes for one request. Between two passes others may change the world, and the calls
that are going to fail, in any way that lets the group and the instance of the bastion stand. -/
inductive Passes (request : Request) (first : Site Cloud.Memory) :
    List (Exchange signature) → Site Cloud.Memory → Prop
  | start : Passes request first [] first
  | pass {said : List (Exchange signature)} {site : Site Cloud.Memory}
      (history : Passes request first said site) :
      Passes request first
        (said ++ (reconcile request).transcript (Site.handler Cloud.Memory.handler) site)
        ((reconcile request).run (Site.handler Cloud.Memory.handler) site).state
  | elsewhere {said : List (Exchange signature)} {site changed : Site Cloud.Memory}
      (history : Passes request first said site) (scripted : Cloud.Memory.Scripted changed)
      (stays : Stays request.options site changed) : Passes request first said changed

theorem Passes.owns {request : Request} {first last : Site Cloud.Memory}
    (history : Passes request first said last) (scripted : Cloud.Memory.Scripted first) :
    Cloud.Memory.Scripted last ∧
      ∀ belonging, Owns request.options belonging first said last := by
  induction history with
  | start => exact ⟨scripted, fun _ => owns_of_steady fun _ had => had⟩
  | @pass said site history ih =>
    obtain ⟨fails, owns⟩ := ih
    have proper := proper_reconcile request fails
    constructor
    · exact scripted_run (reconcile request) fails
    · intro belonging
      exact (owns belonging).trans (proper.owns belonging)
  | elsewhere history fails stays ih =>
    constructor
    · exact fails
    · intro belonging
      have whole := (ih.2 belonging).trans (owns_of_steady (stays belonging))
      rwa [List.append_nil] at whole

/-- Over a history of passes of `reconcile`, however they were cut short, a group is made at most once and
an instance at most once, and all that is done about rules and about the public address is for one group
and for one instance. -/
theorem nothing_made_twice {request : Request} {first last : Site Cloud.Memory}
    (scripted : Cloud.Memory.Scripted first) (history : Passes request first said last)
    (belonging : Belonging) :
    said.countP belonging.created ≤ 1 ∧
      ∃ id, ∀ exchange ∈ said, ∀ used, belonging.usedBy exchange.op = some used → used = id := by
  have owns := (history.owns scripted).2 belonging
  constructor
  · have once := owns.once
    have most : owned request.options belonging last ≤ 1 := Bool.toNat_le _
    omega
  · refine ⟨(belonging.held request.options last).getD "", ?_⟩
    intro exchange inside used uses
    rw [owns.same exchange inside used uses]
    rfl

/-- A cloud that has no bastion yet, and will not make its instance at first. -/
def brokenSite : Site Cloud.Memory :=
  let site := officeSite
    (Cloud.Script.empty.set .createInstance [some (.error (.foreign .runtime "exploded"))]) []
  { site with world := { site.world with instances := [] } }

def passAt (site : Site Cloud.Memory) : Run signature (Site Cloud.Memory) Outcome :=
  (reconcile stockedRequest).run (Site.handler Cloud.Memory.handler) site

def transcriptAt (site : Site Cloud.Memory) : List (Exchange signature) :=
  (reconcile stockedRequest).transcript (Site.handler Cloud.Memory.handler) site

/-- What the second pass left, where the instance has come to run. -/
def startedSite : Site Cloud.Memory :=
  let site := (passAt (passAt brokenSite).state).state
  let running : Cloud.Instance := ⟨"i-1", "bastion-1", .running, ["10.0.0.5"], none⟩
  { site with world := { site.world with
      instances := [("bastion-1", running)], publicAddress := .string "198.51.100.9" } }

/-- What is said in the pass that was cut short and in the two after it. -/
def resumedSaid : List (Exchange signature) :=
  transcriptAt brokenSite ++ transcriptAt (passAt brokenSite).state ++ transcriptAt startedSite

theorem nothing_made_twice_resumed :
    Cloud.Memory.Scripted brokenSite ∧
      Passes stockedRequest brokenSite resumedSaid (passAt startedSite).state ∧
      ∀ belonging : Belonging, resumedSaid.countP belonging.created = 1 ∧
        ∃ id, ∀ exchange ∈ resumedSaid, ∀ used,
          belonging.usedBy exchange.op = some used → used = id := by
  have scripted : Cloud.Memory.Scripted brokenSite := by
    apply Cloud.onlyFails_empty.set
    intro value member
    cases List.mem_singleton.1 member
  have history : Passes stockedRequest brokenSite resumedSaid (passAt startedSite).state := by
    apply Passes.pass
    apply Passes.elsewhere (.pass (.pass .start))
    · exact scripted_run _ (scripted_run _ scripted)
    · intro belonging id had
      cases belonging <;> exact had
  refine ⟨scripted, history, ?_⟩
  intro belonging
  constructor
  · cases belonging <;> rfl
  · exact (nothing_made_twice scripted history belonging).2

end Bastion.Pass
