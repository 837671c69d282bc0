import Bastion.Proofs.Approach
import Bastion.Proofs.Journals
import Bastion.Proofs.RuleConvergence

set_option autoImplicit false

/- Calls that fail. The first one is the last call of a pass, and what it was answered comes out as a
terminal error. Nothing else comes out of a pass, so long as its calls are answered with what they ask
for. -/
namespace Bastion

variable {S : Signature} {σ α β : Type}

/-- What a call is about: what is being done, and to which resource. -/
structure Subject where
  operation : String
  resource : String

/-- What comes out where a call was answered with a failure: a terminal error as it is, any other one in
an error of the provider that tells what was being done, and the text of the failure. -/
def Subject.Surfaces (subject : Subject) (raised : Failure) (result : Except Failure α) : Prop :=
  match raised with
  | .terminal own => result = .error (.terminal own)
  | raised => ∃ error, result = .error (.terminal error) ∧ error.family = .provider ∧
      error.message =
        "failed to " ++ subject.operation ++ " " ++ subject.resource ++ ": " ++ raised.message

theorem Failure.during_terminal (failure : Failure) (operation resource : String) :
    ∃ error, failure.during operation resource = .terminal error := by
  cases failure <;> exact ⟨_, rfl⟩

theorem TerminalError.message_provider (operation resource cause : String) :
    (TerminalError.provider operation resource (some cause)).message =
      "failed to " ++ operation ++ " " ++ resource ++ ": " ++ cause := by
  change "failed to " ++ operation ++ " " ++ resource ++ (": " ++ cause) = _
  rw [← String.append_assoc]

theorem Subject.surfaces_during (subject : Subject) (raised : Failure) :
    subject.Surfaces raised
      (.error (raised.during subject.operation subject.resource) : Except Failure α) := by
  have told := TerminalError.message_provider subject.operation subject.resource raised.message
  cases raised with
  | terminal own => rfl
  | _ => exact ⟨_, rfl, rfl, told⟩

/-- A call that returned was answered with a value that fits it. -/
def Exchange.Fits (fits : (op : S.Op) → S.Answer op → Prop) (exchange : Exchange S) : Prop :=
  ∀ answer, exchange.answer = .ok answer → fits exchange.op answer

namespace Program

theorem fits_of_answers {handler : Handler S σ} {fits : (op : S.Op) → S.Answer op → Prop}
    (answers : ∀ op state answer, (handler op state).answer = .ok answer → fits op answer)
    (program : Program S α) (state : σ) :
    ∀ exchange ∈ program.transcript handler state, exchange.Fits fits := by
  induction program generalizing state with
  | done value => nofun
  | fail failure => nofun
  | log line rest ih => exact ih _ state
  | call op rest ih =>
    intro exchange said
    rcases List.mem_cons.1 said with rfl | later
    · exact answers op state
    · exact ih _ _ exchange later

/-- A call that fails ends the program by what the call is about, and a line that is refused by what it is
refused with. All else that the program fails with is its `own`, and `post` holds of what it returns, while
every value that it is answered fits. -/
def StopsAtFailure (about : S.Op → Subject) (fits : (op : S.Op) → S.Answer op → Prop)
    (own : Failure → Prop) (post : α → Prop) : Program S α → Prop
  | .done value => post value
  | .fail failure => own failure
  | .log _ rest =>
    (∀ failure, rest (.error failure) = .fail failure) ∧
      (rest (.ok ())).StopsAtFailure about fits own post
  | .call op rest =>
    (∀ failure, rest (.error failure) =
      .fail (failure.during (about op).operation (about op).resource)) ∧
    ∀ answer, fits op answer → (rest (.ok answer)).StopsAtFailure about fits own post

variable {about : S.Op → Subject} {fits : (op : S.Op) → S.Answer op → Prop} {own : Failure → Prop}

theorem stops_bind {middle : α → Prop} {post : β → Prop} {program : Program S α}
    {next : α → Program S β} (first : program.StopsAtFailure about fits own middle)
    (second : ∀ value, middle value → (next value).StopsAtFailure about fits own post) :
    (program >>= next).StopsAtFailure about fits own post := by
  change (program.bind next).StopsAtFailure about fits own post
  induction program with
  | done value => exact second value first
  | fail failure => exact first
  | log line rest ih =>
    obtain ⟨refused, taken⟩ := first
    refine ⟨fun failure => ?_, ih _ taken⟩
    change (rest (.error failure)).bind next = _
    rw [refused]
    rfl
  | call op rest ih =>
    obtain ⟨fails, answers⟩ := first
    constructor
    · intro failure
      change (rest (.error failure)).bind next = _
      rw [fails]
      rfl
    · intro answer fitting
      exact ih (.ok answer) (answers answer fitting)

theorem stops_call {op : S.Op} {operation resource : String}
    (subject : about op = ⟨operation, resource⟩) :
    ((perform op).during operation resource).StopsAtFailure about fits own (fits op) := by
  constructor
  · intro failure
    rw [subject]
    rfl
  · intro answer fitting
    exact fitting

theorem stops_log (line : LogLine) {post : Unit → Prop} (holds : post ()) :
    (log line ofExcept : Program S Unit).StopsAtFailure about fits own post :=
  ⟨fun _ => rfl, holds⟩

variable {handler : Handler S σ} {journal : Journal} {post : α → Prop} {program : Program S α}

/-- Once a line is written the program goes on, or ends with what the line was refused with. -/
theorem StopsAtFailure.after_line {line : LogLine} {rest : Except Failure Unit → Program S α}
    (stops : (Program.log line rest).StopsAtFailure about fits own post) (journal : Journal) :
    (rest (journal.take line)).StopsAtFailure about fits own post ∨
      ∃ message, journal.refusal? line = some message ∧
        rest (journal.take line) = .fail (.unrendered message) := by
  obtain ⟨refused, taken⟩ := stops
  cases answered : journal.take line with
  | ok value => exact .inl taken
  | error failure =>
    obtain ⟨message, refuses, rfl⟩ := Journal.take_error.1 answered
    exact .inr ⟨message, refuses, refused _⟩

/-- Once a call is answered the program goes on, or ends with what the call was about. -/
theorem StopsAtFailure.after_call {op : S.Op} {rest : Except Failure (S.Answer op) → Program S α}
    (stops : (Program.call op rest).StopsAtFailure about fits own post)
    {answer : Except Failure (S.Answer op)} (fitting : Exchange.Fits fits ⟨op, answer⟩) :
    (rest answer).StopsAtFailure about fits own post ∨
      ∃ raised : Failure,
        rest answer = .fail (raised.during (about op).operation (about op).resource) := by
  obtain ⟨fails, answers⟩ := stops
  cases answer with
  | ok value => exact .inl (answers value (fitting value rfl))
  | error raised => exact .inr ⟨raised, fails raised⟩

theorem failure_of_stops (stops : program.StopsAtFailure about fits own post) (state : σ)
    (fitting : ∀ exchange ∈ (program.loggedTo journal).transcript handler state, exchange.Fits fits)
    {failure : Failure}
    (failed : ((program.loggedTo journal).run handler state).result = .error failure) :
    own failure ∨ (∃ error, failure = .terminal error) ∨
      journal.Refuses ((program.loggedTo journal).run handler state).log failure := by
  induction program generalizing state with
  | done value => cases failed
  | fail other =>
    obtain rfl := Except.error.inj failed
    exact .inl stops
  | log line rest ih =>
    change (((rest (journal.take line)).loggedTo journal).run handler state).result = _ at failed
    change _ ∨ _ ∨ journal.Refuses
      (line :: (((rest (journal.take line)).loggedTo journal).run handler state).log) failure
    rcases stops.after_line journal with onward | ⟨message, refused, ended⟩
    · refine (ih _ onward state fitting failed).imp_right (Or.imp_right fun refuses => ?_)
      exact refuses.cons line
    · rw [ended] at failed
      obtain rfl := Except.error.inj failed
      exact .inr (.inr ⟨line, List.mem_cons_self, message, refused, rfl⟩)
  | call op rest ih =>
    have later := fun exchange inside => fitting exchange (List.mem_cons_of_mem _ inside)
    change (((rest (handler op state).answer).loggedTo journal).run handler
      (handler op state).state).result = _ at failed
    change _ ∨ _ ∨ journal.Refuses ((handler op state).log ++
      (((rest (handler op state).answer).loggedTo journal).run handler _).log) failure
    rcases stops.after_call (fitting _ List.mem_cons_self) with onward | ⟨raised, ended⟩
    · refine (ih _ onward _ later failed).imp_right (Or.imp_right fun refuses => ?_)
      exact refuses.append_left _
    · rw [ended] at failed
      obtain rfl := Except.error.inj failed
      exact .inr (.inl (raised.during_terminal _ _))

end Program

namespace Pass

open Program

def subjectOf (request : Request) : signature.Op → Subject
  | .patchStatus name _ => ⟨"publish status of bastion", name⟩
  | .other asked =>
    match asked with
    | .lookupNetwork name => ⟨"look up network", name⟩
    | .lookupSubnet id => ⟨"look up subnet", id⟩
    | .listAvailability cores zone => ⟨"list instance types in", s!"{zone} ({cores} cores)"⟩
    | .lookupGroup name => ⟨"look up security group", name⟩
    | .createGroup _ name => ⟨"create security group", name⟩
    | .lookupInstance name => ⟨"look up instance", name⟩
    | .createInstance spec => ⟨"create instance", spec.name⟩
    | .describeRules group direction => ⟨s!"describe {direction.text} rules of", group⟩
    | .createRule _ _ rule => ⟨s!"add security group {rule.direction.text} rule", rule.label⟩
    | .revokeRule _ _ rule => ⟨s!"delete security group {rule.direction.text} rule", rule.label⟩
    | .allocateAddress _ => ⟨"allocate public address for", request.options.instanceName⟩

/-- The answers that a call asks for: a public address is a text, or null while there is none. -/
def Declared : (op : signature.Op) → signature.Answer op → Prop
  | .other (.allocateAddress _) => fun address => address = .null ∨ ∃ text, address = .string text
  | _ => fun _ => True

/-- What a part of a pass may be answered, and what it may fail with by itself: any terminal error, and
what is wrong with an address that it may be told. -/
structure Own (fits : (op : signature.Op) → signature.Answer op → Prop) (own : Failure → Prop) :
    Prop where
  terminal : ∀ error, own (.terminal error)
  address : ∀ {instanceId address}, fits (.other (.allocateAddress instanceId)) address →
    ∀ {name found failure}, endpointsOf name found address = .error failure → own failure

/-- A part of a pass whose failed calls and refused lines end it. -/
def Stops {α : Type} (request : Request) (fits : (op : signature.Op) → signature.Answer op → Prop)
    (own : Failure → Prop) (program : PassProgram α) (post : α → Prop) : Prop :=
  program.StopsAtFailure (subjectOf request) fits own post

variable {request : Request} {α β : Type} {fits : (op : signature.Op) → signature.Answer op → Prop}
  {own : Failure → Prop}

def Any (_ : α) : Prop := True

theorem Stops.bind {middle : α → Prop} {post : β → Prop} {program : PassProgram α}
    {next : α → PassProgram β} (first : Stops request fits own program middle)
    (second : ∀ value, middle value → Stops request fits own (next value) post) :
    Stops request fits own (program >>= next) post :=
  stops_bind first second

theorem stops_cloud (call : Cloud.Call) {operation resource : String} {post : α → Prop}
    {next : call.method.Answer → PassProgram α}
    (subject : subjectOf request (.other call) = ⟨operation, resource⟩)
    (goes : ∀ answer, fits (.other call) answer → Stops request fits own (next answer) post) :
    Stops request fits own ((cloud call).during operation resource >>= next) post :=
  stops_bind (stops_call (S := signature) subject) goes

theorem Stops.noted (line : LogLine) {post : α → Prop} {next : Unit → PassProgram α}
    (goes : Stops request fits own (next ()) post) :
    Stops request fits own (.log line .ofExcept >>= next) post := by
  have logged : Stops request fits own (.log line .ofExcept) fun _ => True := stops_log line trivial
  exact stops_bind logged fun _ _ => goes

section Parts

variable (regards : Own fits own)

include regards

theorem stops_imageOf (request : Request) : Stops request fits own (imageOf request) Any := by
  unfold imageOf
  cases resolveImage request.options request.cluster with
  | ok image => trivial
  | error error => exact regards.terminal error

theorem stops_resolveNetwork (name : String) :
    Stops request fits own (resolveNetwork name) Any := by
  apply stops_cloud (.lookupNetwork name) rfl
  intro network _
  cases network with
  | none => exact regards.terminal _
  | some network =>
    apply stops_cloud (.lookupSubnet network.subnet) rfl
    intro subnet _
    cases subnet with
    | none => exact regards.terminal _
    | some subnet => trivial

omit regards in
theorem stops_availableType (zone : String) (candidates : List Int) :
    Stops request fits own (availableType zone candidates) Any := by
  induction candidates with
  | nil => trivial
  | cons cores rest ih =>
    apply stops_cloud (.listAvailability cores zone) rfl
    intro availability _
    cases present (availability.bind Cloud.Availability.availableType) with
    | some type => trivial
    | none => exact ih

theorem stops_resolveInstanceType (zone : String) (cluster : Cluster) (candidates : List Int) :
    Stops request fits own (resolveInstanceType zone cluster candidates) Any := by
  apply (stops_availableType zone candidates).bind
  intro type _
  cases type with
  | some type => trivial
  | none =>
    cases cluster.machineTypes with
    | nil => exact regards.terminal _
    | cons machine _ =>
      apply Stops.noted
      trivial

theorem stops_createdId (operation name : String) (id : Option String) :
    Stops request fits own (createdId operation name id) Any := by
  unfold createdId
  cases present id with
  | some id => trivial
  | none => exact regards.terminal _

theorem stops_ensureGroup (name network : String) :
    Stops request fits own (ensureGroup name network) Any := by
  apply stops_cloud (.lookupGroup name) rfl
  intro found _
  cases found.filter (·.name = name) with
  | some group =>
    apply Stops.noted
    trivial
  | none =>
    apply Stops.noted
    apply stops_cloud (.createGroup network name) rfl
    intro created _
    exact stops_createdId regards _ _ _

theorem stops_ensureInstance (spec : Cloud.InstanceSpec) :
    Stops request fits own (ensureInstance spec) Any := by
  apply stops_cloud (.lookupInstance spec.name) rfl
  intro found _
  cases found.filter (·.name = spec.name) with
  | some found => trivial
  | none =>
    apply Stops.noted
    apply stops_cloud (.createInstance spec) rfl
    intro created _
    exact stops_createdId regards _ _ _

theorem stops_checkInstance (name : String) :
    Stops request fits own (checkInstance name) Any := by
  apply stops_cloud (.lookupInstance name) rfl
  intro found _
  cases found with
  | none => exact regards.terminal _
  | some found => trivial

theorem stops_currentRules (group : String) (direction : Direction) :
    Stops request fits own (currentRules group direction) Any := by
  apply stops_cloud (.describeRules group direction) rfl
  intro rules _
  cases rules with
  | none => exact regards.terminal _
  | some rules => trivial

omit regards in
theorem stops_addRules (direction : Direction) (group : String) (rules : List Rule) :
    Stops request fits own (addRules direction group rules) Any := by
  induction rules with
  | nil => trivial
  | cons rule rest ih =>
    apply stops_cloud (.createRule direction group rule) rfl
    intro _ _
    apply Stops.noted
    exact ih

omit regards in
theorem stops_revokeRules (direction : Direction) (group : String) (rules : List Rule) :
    Stops request fits own (revokeRules direction group rules) Any := by
  induction rules with
  | nil => trivial
  | cons rule rest ih =>
    apply stops_cloud (.revokeRule direction group rule) rfl
    intro _ _
    apply Stops.noted
    exact ih

theorem stops_settle (direction : Direction) (group : String) (wanted : List Rule) :
    Stops request fits own (settle direction group wanted) Any := by
  apply (stops_currentRules regards group direction).bind
  intro current _
  apply (stops_addRules direction group _).bind
  intro _ _
  exact stops_revokeRules direction group _

theorem stops_workloadGroup (name : String) :
    Stops request fits own (workloadGroup name) Any := by
  apply stops_cloud (.lookupGroup name) rfl
  intro found _
  cases found with
  | none => exact regards.terminal _
  | some group => trivial

theorem stops_privateAddress (name : String) :
    Stops request fits own (privateAddress name) Any := by
  apply stops_cloud (.lookupInstance name) rfl
  intro found _
  cases found.bind Cloud.Instance.privateAddress with
  | none => exact regards.terminal _
  | some address => trivial

theorem stops_reconcileRules (group : String) :
    Stops request fits own (reconcileRules request group) Any := by
  rw [reconcileRules_eq]
  apply (stops_settle regards .ingress group _).bind
  intro _ _
  apply (stops_workloadGroup regards _).bind
  intro workload _
  apply (stops_privateAddress regards _).bind
  intro address _
  exact stops_settle regards .egress group _

theorem stops_instanceEndpoints (name : String) {instanceId : String} {address : Json}
    (fitting : fits (.other (.allocateAddress instanceId)) address) :
    Stops request fits own (instanceEndpoints name address) Any := by
  apply stops_cloud (.lookupInstance name) rfl
  intro found _
  cases found with
  | none => exact regards.terminal _
  | some found =>
    change Stops request fits own (.ofExcept (endpointsOf name found address)) Any
    cases made : endpointsOf name found address with
    | ok endpoints => trivial
    | error failure => exact regards.address fitting made

theorem stops_approachRunning (group instanceId : String) :
    Stops request fits own (approachRunning request group instanceId) Any := by
  apply (stops_reconcileRules regards group).bind
  intro _ _
  apply stops_cloud (.allocateAddress instanceId) rfl
  intro address fitting
  apply (stops_instanceEndpoints regards _ fitting).bind
  intro endpoints _
  cases checkEndpoints endpoints <;> trivial

theorem stops_approach (request : Request) : Stops request fits own (approach request) Any := by
  apply Stops.noted
  apply (stops_imageOf regards request).bind
  intro image _
  apply (stops_resolveNetwork regards _).bind
  intro place _
  apply (stops_resolveInstanceType regards place.zone request.cluster coreCandidates).bind
  intro type _
  apply (stops_ensureGroup regards _ place.network).bind
  intro group _
  apply (stops_ensureInstance regards _).bind
  intro instanceId _
  apply (stops_checkInstance regards _).bind
  intro requeue _
  cases requeue with
  | some requeue => trivial
  | none => exact stops_approachRunning regards group instanceId

omit regards in
theorem stops_publish (name : String) (endpoints : Endpoints) :
    Stops request fits own (publish name endpoints) Any := by
  apply stops_bind (stops_call (S := signature) rfl)
  intro _ _
  exact stops_log _ trivial

omit regards in
theorem stops_announce (name : String) (ending : Approach) :
    Stops request fits own (announce name ending) Any := by
  cases ending with
  | requeue requeue =>
    apply Stops.noted
    trivial
  | ready endpoints =>
    apply (stops_publish name endpoints).bind
    intro _ _
    trivial

theorem stops_reconcile (request : Request) : Stops request fits own (reconcile request) Any := by
  rw [reconcile_eq]
  apply (stops_approach regards request).bind
  intro ending _
  exact stops_announce request.bastionName ending

end Parts

/-- Endpoints are refused with a terminal error, where the address has its shape. -/
theorem own_declared : Own Declared fun failure => ∃ error, failure = .terminal error := by
  refine ⟨fun error => ⟨error, rfl⟩, ?_⟩
  intro instanceId address shaped name found failure refused
  have valid : ∃ outer, Endpoint.ofJson? .null address = .valid outer := by
    rcases shaped with rfl | ⟨text, rfl⟩ <;> exact ⟨_, rfl⟩
  obtain ⟨outer, valid⟩ := valid
  unfold endpointsOf at refused
  split at refused
  · exact ⟨_, (Except.error.inj refused).symm⟩
  · split at refused
    · exact ⟨_, (Except.error.inj refused).symm⟩
    · rw [valid] at refused
      cases refused

variable {σ : Type}

/-- By itself a pass fails with terminal errors, or else as one of its lines is refused. -/
theorem failure_of_pass {handler : Handler signature σ} {journal : Journal} {request : Request}
    {state : σ}
    (declared : ∀ exchange ∈ ((reconcile request).loggedTo journal).transcript handler state,
      exchange.Fits Declared) {failure : Failure}
    (failed : (((reconcile request).loggedTo journal).run handler state).result = .error failure) :
    (∃ error, failure = .terminal error) ∨
      journal.Refuses (((reconcile request).loggedTo journal).run handler state).log failure := by
  rcases failure_of_stops (stops_reconcile own_declared request) state declared failed with
    terminal | other
  · exact .inl terminal
  · exact other

/-- The office, with a machine type for the bastion. -/
def stockedRequest : Request :=
  { officeRequest with cluster := ⟨[⟨"m.small", none, none⟩], []⟩ }

end Pass

end Bastion
