import Bastion.CommandLine.Report
import Bastion.Proofs.FailStop
import Bastion.Proofs.FileTree
import Bastion.Proofs.PageText
import Bastion.Proofs.RequestText
import Bastion.Proofs.ServiceKeeper

set_option autoImplicit false

namespace Bastion

namespace Endpoint

theorem check_toJson (endpoint : Endpoint) : check endpoint.toJson = .valid endpoint := by
  obtain ⟨hostname, ip⟩ := endpoint
  cases hostname <;> cases ip <;> rfl

theorem optional_toJson (endpoint : Option Endpoint) :
    Json.Shape.optional check ((endpoint.map toJson).getD .null) = .valid endpoint := by
  cases endpoint with
  | none => rfl
  | some endpoint =>
    change (check endpoint.toJson).map some = _
    rw [check_toJson]
    rfl

theorem settled_toJson (endpoint : Option Endpoint) :
    ((endpoint.map toJson).getD .null).settled = (endpoint.map toJson).getD .null := by
  cases endpoint with
  | none => rfl
  | some endpoint =>
    obtain ⟨hostname, ip⟩ := endpoint
    cases hostname <;> cases ip <;> rfl

theorem toJson_fits (endpoint : Option Endpoint) (room : Nat) :
    Json.obstacleWithin? (room + 1) ((endpoint.map toJson).getD .null) = none := by
  cases endpoint with
  | none => exact Json.obstacle_null
  | some endpoint => simp [toJson, Json.obstacle_object]

end Endpoint

namespace Endpoints

theorem check_members (endpoints : Endpoints) (word : Json) :
    check (.object (("outcome", word) :: endpoints.toJson.members)) = .valid endpoints := by
  change mk <$> (Json.Shape.optional Endpoint.check
      ((endpoints.inner.map Endpoint.toJson).getD .null)).inside (.member "private") <*>
    (Json.Shape.optional Endpoint.check
      ((endpoints.outer.map Endpoint.toJson).getD .null)).inside (.member "public") = _
  rw [Endpoint.optional_toJson, Endpoint.optional_toJson]
  rfl

end Endpoints

namespace Compute.Account

open Program

variable {σ : Type}

/-- A service as it answers the calls of a pass, with what is logged of them shown in a journal. -/
def serveTo (journal : Journal) (account : Account) (service : Handler signature σ) :
    Handler Cloud.signature σ :=
  through (fun call => (account.carryOut call).loggedTo journal) service

/-- It is a text that answers where an address is asked for. -/
theorem declared_serveTo (journal : Journal) (account : Account) (service : Handler signature σ)
    (call : Cloud.Call) (world : σ) (answer : call.method.Answer)
    (answered : (account.serveTo journal service call world).answer = .ok answer) :
    Pass.Declared (.other call) answer := by
  cases call with
  | allocateAddress instanceId =>
    have returned : ((Json.ofString? <$> account.allocateAddress instanceId).loggedTo journal).Returns
        service world answer _ := returns_of_ok answered
    rw [loggedTo_map] at returned
    obtain ⟨address, _, rfl⟩ := returns_map.1 returned
    cases address with
    | none => exact .inl rfl
    | some text => exact .inr ⟨text, rfl⟩
  | _ => trivial

/-- A pass over a service fails with a terminal error, or as a line of its log is refused. -/
theorem failure_of_pass {journal : Journal} {account : Account} {service : Handler signature σ}
    {request : Request} {site : Site σ} {failure : Failure}
    (failed : (((CommandLine.pass account request).loggedTo journal).run
      (Site.handlerTo journal service) site).result = .error failure) :
    (∃ error, failure = .terminal error) ∨
      ∃ line message, journal.refusal? line = some message ∧ failure = .unrendered message := by
  have carried := congrArg Prod.fst (outcome_callsBesideStatusByTo (S := Cloud.signature) journal
    (fun call => (account.carryOut call).loggedTo journal) service
    ((Pass.reconcile request).loggedTo journal) site)
  unfold CommandLine.pass at failed
  rw [loggedTo_callsBesideStatusBy] at failed
  have served : (((Pass.reconcile request).loggedTo journal).run
      (Site.handlerTo journal (account.serveTo journal service)) site).result = .error failure :=
    carried.symm.trans failed
  have declared : ∀ exchange ∈ ((Pass.reconcile request).loggedTo journal).transcript
      (Site.handlerTo journal (account.serveTo journal service)) site, exchange.Fits Pass.Declared := by
    refine fits_of_answers (S := Pass.signature) ?_ _ site
    rintro (call | ⟨name, patch⟩) state answer answered
    · exact account.declared_serveTo journal service call state.world answer answered
    · trivial
  rcases Pass.failure_of_pass declared served with terminal | ⟨line, _, message, refused, lost⟩
  · exact .inl terminal
  · exact .inr ⟨line, message, refused, lost⟩

end Compute.Account

namespace CommandLine

open Compute (Account Service)
open Files (Path Tree)
open Pass (Outcome)

/-- All of an outcome can be read in the members of an object. -/
def Telling (members : List (String × Json)) : Outcome → Prop
  | .succeeded endpoints =>
    Keyed.get? members "outcome" = some (.string "succeeded") ∧
      Endpoints.check (.object members) = .valid endpoints
  | .requeue requeue =>
    Keyed.get? members "outcome" = some (.string "requeue") ∧
      Keyed.get? members "cause" = some (.string requeue.cause) ∧
      ∃ wait, Keyed.get? members "wait_seconds" = some (.float wait) ∧
        wait.toInt? = some requeue.seconds

def exitOf : Outcome → ExitCode
  | .succeeded _ => .success
  | .requeue _ => .tryLater

/-- What a pass came to is told by the exit code and one JSON object, of which all that it returned can be
read. What it failed with is a terminal error. -/
def Report.Tells (report : Report) (result : Except Failure Outcome) : Prop :=
  ∃ members, Json.parse report.output = .ok (.object members) ∧
    match result with
    | .ok outcome => report.exit = exitOf outcome ∧ Telling members outcome
    | .error failure =>
      report.exit = .failure ∧ Keyed.get? members "outcome" = some (.string "error") ∧
        ∃ error, failure = .terminal error ∧
          Keyed.get? members "error" = some (.string error.message)

/-- Standard output is one JSON object, whose outcome is in step with the exit code. -/
def Report.TellsOutcome (report : Report) : Prop :=
  ∃ members outcome, Json.parse report.output = .ok (.object members) ∧
    Keyed.get? members "outcome" = some (.string outcome) ∧
    (outcome = "succeeded" ↔ report.exit.number = 0) ∧
    (outcome = "requeue" ↔ report.exit.number = 75) ∧
    (outcome = "error" ↔ report.exit.number = 1)

theorem Report.Tells.outcome {report : Report} {result : Except Failure Outcome}
    (tells : report.Tells result) : report.TellsOutcome := by
  obtain ⟨members, parsed, told⟩ := tells
  match result with
  | .ok (.succeeded endpoints) =>
    obtain ⟨exit, outcome, _⟩ := told
    exact ⟨members, "succeeded", parsed, outcome, by rw [exit, exitOf]; decide⟩
  | .ok (.requeue requeue) =>
    obtain ⟨exit, outcome, _⟩ := told
    exact ⟨members, "requeue", parsed, outcome, by rw [exit, exitOf]; decide⟩
  | .error failure =>
    obtain ⟨exit, outcome, _⟩ := told
    exact ⟨members, "error", parsed, outcome, by rw [exit]; decide⟩

theorem not_tellsOutcome_silent {report : Report} (silent : report.output = "") :
    ¬report.TellsOutcome := by
  rintro ⟨members, outcome, parsed, _⟩
  rw [silent] at parsed
  cases parsed

/-- The object of an outcome is out of step with a run that failed after it was printed. -/
theorem not_tellsOutcome_failed {report : Report} {members : List (String × Json)}
    {outcome : Outcome} (parsed : Json.parse report.output = .ok (.object members))
    (telling : Telling members outcome) (failed : report.exit = .failure) : ¬report.TellsOutcome := by
  rintro ⟨others, word, again, held, _, _, error⟩
  obtain rfl := Json.object.inj (Except.ok.inj (again.symm.trans parsed))
  rw [failed] at error
  have wrong : word = "error" := error.2 rfl
  cases outcome with
  | succeeded endpoints =>
    obtain rfl := Json.string.inj (Option.some.inj (held.symm.trans telling.1))
    exact absurd wrong (by decide)
  | requeue requeue =>
    obtain rfl := Json.string.inj (Option.some.inj (held.symm.trans telling.1))
    exact absurd wrong (by decide)

variable {installation : Installation} {options : Options}

/-- Where JSON is asked for the object is printed, whatever becomes of the line. -/
theorem output_close (json : options.json = true) (closing : Closing) :
    (installation.close options closing).output =
      match closing.object with
      | some object => Json.print .line object ++ "\n"
      | none => "" := by
  unfold Installation.close
  cases closing.object <;> cases installation.render closing.line <;> simp [json]

theorem exit_close_shown {closing : Closing} {shown : String}
    (rendered : installation.render closing.line = .ok shown) :
    (installation.close options closing).exit = closing.exit := by
  unfold Installation.close
  rw [rendered]

theorem close_unrendered (options : Options) {closing : Closing} {message : String}
    (broken : installation.render closing.line = .error message) :
    (installation.close options closing).exit = .failure ∧
      (installation.close options closing).uncaught = some (.unrendered message) := by
  unfold Installation.close
  rw [broken]
  exact ⟨rfl, rfl⟩

theorem exit_close_failure {closing : Closing} (failure : closing.exit = .failure) :
    (installation.close options closing).exit = .failure := by
  cases rendered : installation.render closing.line with
  | ok shown => exact (exit_close_shown rendered).trans failure
  | error message => exact (close_unrendered options rendered).1

theorem parse_close (json : options.json = true) {closing : Closing} {object : Json}
    (holds : closing.object = some object) (fits : object.obstacle? = none)
    (lawful : object.settled = object) :
    Json.parse (installation.close options closing).output = .ok object := by
  have read := Json.parse_of_written fun reading =>
    Json.parseWritten_print_line Json.legible_line fits fun number _ => Json.faithful reading number
  rw [lawful] at read
  rw [output_close json, holds]
  exact read

theorem wait_read (requeue : Pass.Requeue) :
    (Binary64.ofRatio false requeue.seconds 1).toInt? = some (requeue.seconds : Int) := by
  have waits : ∀ seconds ∈ [10, 5],
      (Binary64.ofRatio false seconds 1).toInt? = some (seconds : Int) := by decide +kernel
  cases requeue with
  | instanceNotReady name status => exact waits 10 (by decide)
  | endpointsMissing => exact waits 5 (by decide)

/-- A terminal error is told, even where its line cannot be shown. -/
theorem tells_failure (json : options.json = true) (error : TerminalError) :
    (installation.close options (failureClosing error)).Tells (.error (.terminal error)) :=
  ⟨_, parse_close json rfl rfl rfl, exit_close_failure rfl, rfl, error, rfl, rfl⟩

theorem telling_success (json : options.json = true) (bastion : String) (endpoints : Endpoints) :
    ∃ members, Json.parse (installation.close options (successClosing bastion endpoints)).output =
        .ok (.object members) ∧ Telling members (.succeeded endpoints) := by
  have fits : Json.obstacleWithin? (984 + 1)
      (.object (("outcome", .string "succeeded") :: endpoints.toJson.members)) = none := by
    refine Json.obstacle_object.2 ?_
    simp [Endpoints.toJson, Json.members, Endpoint.toJson_fits]
  have lawful : (Json.object (("outcome", .string "succeeded") :: endpoints.toJson.members)).settled =
      .object (("outcome", .string "succeeded") :: endpoints.toJson.members) := by
    refine Json.settled_object_iff.2 ⟨?_, ?_⟩
    · simp [Endpoints.toJson, Json.members, Keyed.names]
    · simp [Endpoints.toJson, Json.members, Endpoint.settled_toJson, Json.settled]
  exact ⟨_, parse_close json rfl fits lawful, rfl, endpoints.check_members _⟩

theorem telling_outcome (installation : Installation) (json : options.json = true)
    (request : Request) (outcome : Outcome) :
    ∃ members, Json.parse (installation.close options (outcomeClosing request outcome)).output =
        .ok (.object members) ∧ Telling members outcome := by
  cases outcome with
  | succeeded endpoints => exact telling_success json request.bastionName endpoints
  | requeue requeue =>
    exact ⟨_, parse_close json rfl rfl rfl, rfl, rfl, _, rfl, wait_read requeue⟩

/-- A pass came to what the command can tell: an outcome of which the line can be shown, or a terminal
error. -/
def Tellable (installation : Installation) (request : Request) : Except Failure Outcome → Prop
  | .ok outcome => ∃ shown, installation.render (outcomeClosing request outcome).line = .ok shown
  | .error failure => ∃ error, failure = .terminal error

theorem tells_report (json : options.json = true) {request : Request}
    {result : Except Failure Outcome} (tellable : Tellable installation request result) :
    (installation.report options request result).Tells result := by
  match result with
  | .ok outcome =>
    obtain ⟨shown, rendered⟩ := tellable
    obtain ⟨members, parsed, telling⟩ := telling_outcome installation json request outcome
    refine ⟨members, parsed, (exit_close_shown rendered).trans ?_, telling⟩
    cases outcome <;> rfl
  | .error failure =>
    obtain ⟨error, lost⟩ := tellable
    subst lost
    exact tells_failure json error

theorem uncaught_report (options : Options) {request : Request} {result : Except Failure Outcome}
    (untellable : ¬Tellable installation request result) :
    (installation.report options request result).exit = .failure ∧
      ∃ failure, (installation.report options request result).uncaught = some failure := by
  match result with
  | .ok outcome =>
    cases rendered : installation.render (outcomeClosing request outcome).line with
    | ok shown => exact absurd ⟨shown, rendered⟩ untellable
    | error message =>
      obtain ⟨exit, uncaught⟩ := close_unrendered options rendered
      exact ⟨exit, _, uncaught⟩
  | .error failure =>
    cases failure with
    | terminal error => exact absurd ⟨error, rfl⟩ untellable
    | _ => exact ⟨rfl, _, rfl⟩

theorem report_told_iff (json : options.json = true) {request : Request}
    {result : Except Failure Outcome} :
    (installation.report options request result).TellsOutcome ↔
      Tellable installation request result := by
  refine ⟨fun told => ?_, fun tellable => (tells_report json tellable).outcome⟩
  by_contra untellable
  obtain ⟨failed, _⟩ := uncaught_report options untellable
  match result with
  | .ok outcome =>
    obtain ⟨members, parsed, telling⟩ := telling_outcome installation json request outcome
    exact not_tellsOutcome_failed parsed telling failed told
  | .error failure =>
    cases failure with
    | terminal error => exact untellable ⟨error, rfl⟩
    | _ => exact not_tellsOutcome_silent rfl told

/-- The request file can be read and holds this request. -/
def Requested (options : Options) (tree : Tree) (request : Request) : Prop :=
  ∃ text, tree.read (.ofString options.request) = .ok text ∧ Request.ofText text = .valid request

theorem requested_of_text {tree : Tree} {spot : Files.Spot} {request : Request}
    (normal : request.cluster.Normal) (located : tree.locate (.ofString options.request) = .ok spot)
    (there : tree.entry? spot = some (.file request.text)) : Requested options tree request :=
  ⟨request.text, Tree.read_ok.2 ⟨spot, _, located, there,
    Json.unifyLineEnds_print Json.clean_dense request.toJson⟩, Request.ofText_text normal⟩

theorem requested_unique {tree : Tree} {request other : Request}
    (requested : Requested options tree request) (again : Requested options tree other) :
    other = request := by
  obtain ⟨text, read, valid⟩ := requested
  obtain ⟨text', read', valid'⟩ := again
  obtain rfl := Except.ok.inj (read.symm.trans read')
  exact Checked.valid.inj (valid'.symm.trans valid)

section

variable {σ : Type} (service : Handler Compute.signature σ) (world : σ)

theorem execute_requested {tree : Tree} {request : Request}
    (requested : Requested options tree request) :
    installation.execute options service world tree =
      installation.perform options service world tree (.ok request) := by
  obtain ⟨text, read, valid⟩ := requested
  unfold Installation.execute Installation.requestOf
  rw [read]
  simp only [valid]

/-- The run failed without a word and has done nothing. -/
structure Finished.Mute (finished : Finished σ) (options : Options) (world : σ) (tree : Tree) :
    Prop where
  exit : finished.report.exit = .failure
  output : finished.report.output = ""
  site : finished.site = siteOf options world tree
  calls : finished.calls = []

theorem mute_refused (json : options.json = true) (tree : Tree) (reason : String) :
    (installation.perform options service world tree (.error reason)).Mute options world tree :=
  ⟨exit_close_failure rfl, output_close json _, rfl, rfl⟩

theorem requestOf_refused (installation : Installation) {tree : Tree}
    (none : ¬∃ request, Requested options tree request) :
    ∃ reason, installation.requestOf (tree.read (.ofString options.request)) = .error reason := by
  cases read : tree.read (.ofString options.request) with
  | error error => exact ⟨_, rfl⟩
  | ok text =>
    unfold Installation.requestOf
    cases valid : Request.ofText text with
    | valid request => exact absurd ⟨request, text, read, valid⟩ none
    | invalid problems => simp only [valid, Except.error.injEq, exists_eq']

/-- What is no request ends the run at once, and where JSON is asked for it is passed over in silence. -/
theorem mute_execute (json : options.json = true) {tree : Tree}
    (none : ¬∃ request, Requested options tree request) :
    (installation.execute options service world tree).Mute options world tree := by
  obtain ⟨reason, refused⟩ := requestOf_refused installation none
  unfold Installation.execute
  split
  · exact ⟨rfl, rfl, rfl, rfl⟩
  · rw [refused]
    exact mute_refused service world json tree reason

theorem command_of_run {arguments : List String} (asked : parse arguments = .run options)
    (tree : Tree) :
    command installation arguments service world tree =
      installation.execute options service world tree := by
  unfold command
  rw [asked]

/-- What the pass that is made for a request comes to. -/
def Installation.resultOf (installation : Installation) (options : Options)
    (service : Handler Compute.signature σ) (world : σ) (tree : Tree) (request : Request) :
    Except Failure Outcome :=
  (installation.passRun options service world tree request).result

/-- Where all text can be shown every pass comes to what can be told. -/
theorem tellable_of_rendering (renders : ∀ text, ∃ shown, installation.render text = .ok shown)
    (tree : Tree) (request : Request) :
    Tellable installation request (installation.resultOf options service world tree request) := by
  cases result : installation.resultOf options service world tree request with
  | ok outcome => exact renders _
  | error failure =>
    rcases Account.failure_of_pass result with terminal | ⟨line, message, refused, _⟩
    · exact terminal
    · obtain ⟨shown, rendered⟩ := renders line.text
      simp [Installation.journal, rendered] at refused

end

/-- What a run of `main` with `--json` tells, over whatever service answers its calls. It tells its outcome,
in step with the exit code, exactly if the request file holds a request and the pass comes to what can be
told; then it tells all of what the pass came to. What can be told is a terminal error, and an outcome whose
line can be shown, so every pass comes to it where any text can be shown. What cannot be told ends the run
with a failure that nothing catches. Where the file holds no request the run fails without a word, and has
done nothing. -/
theorem outcome_told_iff (installation : Installation) {arguments : List String}
    (asked : parse arguments = .run options) (json : options.json = true) {σ : Type}
    (service : Handler Compute.signature σ) (world : σ) (tree : Tree) :
    let finished := command installation arguments service world tree
    let result := installation.resultOf options service world tree
    (finished.report.TellsOutcome ↔
      ∃ request, Requested options tree request ∧ Tellable installation request (result request)) ∧
    (∀ request, Requested options tree request →
      (Tellable installation request (result request) → finished.report.Tells (result request)) ∧
      (¬Tellable installation request (result request) → finished.report.exit = .failure ∧
        ∃ failure, finished.report.uncaught = some failure)) ∧
    ((∀ text, ∃ shown, installation.render text = .ok shown) →
      ∀ request, Tellable installation request (result request)) ∧
    ((¬∃ request, Requested options tree request) → finished.Mute options world tree) := by
  intro finished result
  have started : finished = installation.execute options service world tree :=
    command_of_run service world asked tree
  have performed : ∀ request, Requested options tree request →
      finished.report = installation.report options request (result request) := by
    intro request requested
    rw [started, execute_requested service world requested]
    rfl
  have mute : (¬∃ request, Requested options tree request) → finished.Mute options world tree := by
    intro none
    rw [started]
    exact mute_execute service world json none
  have tellsIff : finished.report.TellsOutcome ↔
      ∃ request, Requested options tree request ∧ Tellable installation request (result request) := by
    constructor
    · intro told
      by_cases found : ∃ request, Requested options tree request
      · obtain ⟨request, requested⟩ := found
        rw [performed request requested] at told
        exact ⟨request, requested, (report_told_iff json).1 told⟩
      · exact absurd told (not_tellsOutcome_silent (mute found).output)
    · rintro ⟨request, requested, tellable⟩
      rw [performed request requested]
      exact (report_told_iff json).2 tellable
  refine ⟨tellsIff, ?_, ?_, mute⟩
  · intro request requested
    rw [performed request requested]
    exact ⟨tells_report json, uncaught_report options⟩
  · intro renders request
    exact tellable_of_rendering service world renders tree request

def officeOptions : Options :=
  ⟨"bastion.json", "project-1", "region-1-a", "bastion-status.json", true, true⟩

def officeArguments : List String :=
  ["--request", "bastion.json", "--project-id", "project-1", "--zone", "region-1-a", "--json", "-v"]

/-- An installation where one closing tag is not to be found open. -/
def office : Installation where
  version := some "0.1.0"
  help := ""
  render text :=
    if Text.contains "[/x]" text then .error "closing tag '[/x]' doesn't match any open tag"
    else .ok (withoutTags text)
  explain _ := ""

def treeWith (request : Request) : Tree :=
  Tree.empty.put (Path.ofString "bastion.json").spot (.file request.text)

theorem treeWith_requested {request : Request} (normal : request.cluster.Normal) :
    Requested officeOptions (treeWith request) request := by
  have located : (treeWith request).locate (.ofString officeOptions.request) =
      .ok (Path.ofString "bastion.json").spot := by
    rfl
  exact requested_of_text normal located (Tree.entry?_put_same _ _ (by decide +kernel))

theorem nothing_requested : ¬∃ request, Requested officeOptions .empty request := by
  rintro ⟨request, text, read, _⟩
  cases read

/-- The office, under a name that is a closing tag. -/
def markedRequest : Request := { Pass.officeRequest with bastionName := "[/x]" }

/-- The command at the office, where nothing is in the cloud. -/
def officeRun (tree : Tree) : Finished Service :=
  command office officeArguments Service.handler .empty tree

def officeResult (request : Request) : Except Failure Outcome :=
  office.resultOf officeOptions Service.handler .empty (treeWith request) request

/-- An error is told of the office. The name that is a closing tag cannot be shown in the log, and nothing
is told of it, as nothing is in an empty directory. -/
theorem outcome_told_iff_at_office :
    parse officeArguments = .run officeOptions ∧
      (officeRun (treeWith Pass.officeRequest)).report.TellsOutcome ∧
      ¬(officeRun (treeWith markedRequest)).report.TellsOutcome ∧
      (officeRun .empty).report.output = "" := by
  have asked : parse officeArguments = .run officeOptions := by decide +kernel
  have normal : Pass.officeRequest.cluster.Normal := ⟨nofun, nofun⟩
  have requested : Requested officeOptions (treeWith markedRequest) markedRequest :=
    treeWith_requested normal
  have lost : ∃ error, officeResult Pass.officeRequest = .error (.terminal error) := ⟨_, rfl⟩
  have broken : ∃ message, officeResult markedRequest = .error (.unrendered message) := ⟨_, rfl⟩
  refine ⟨asked, ?_, ?_, ?_⟩
  · obtain ⟨told, _⟩ :=
      outcome_told_iff office asked rfl Service.handler .empty (treeWith Pass.officeRequest)
    obtain ⟨error, result⟩ := lost
    apply told.2
    refine ⟨_, treeWith_requested normal, ?_⟩
    change Tellable office Pass.officeRequest (officeResult Pass.officeRequest)
    rw [result]
    exact ⟨error, rfl⟩
  · intro tells
    obtain ⟨told, _⟩ := outcome_told_iff office asked rfl Service.handler .empty (treeWith markedRequest)
    obtain ⟨request, found, tellable⟩ := told.1 tells
    obtain rfl := requested_unique requested found
    obtain ⟨message, result⟩ := broken
    change Tellable office markedRequest (officeResult markedRequest) at tellable
    rw [result] at tellable
    obtain ⟨error, same⟩ := tellable
    cases same
  · obtain ⟨_, _, _, silent⟩ := outcome_told_iff office asked rfl Service.handler .empty .empty
    exact (silent nothing_requested).output

end CommandLine

end Bastion
