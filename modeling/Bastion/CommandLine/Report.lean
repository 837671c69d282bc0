import Bastion.CommandLine.Arguments
import Bastion.Compute.Provider
import Bastion.Pass.Reconcile
import Bastion.Text.Columns

set_option autoImplicit false

namespace Bastion.CommandLine

open Compute (Account)
open Files (Path Tree Disk FileError)
open Pass (Outcome)

/-- The parts of a line between its tabs, the first of which starts at the given column. A tab is a
blank, and more of them up to the next multiple of eight columns. -/
def expandTabs (column : Nat) : List (List Char) → List Char
  | [] => []
  | [part] => part
  | part :: rest =>
    let column := column + Text.columns (part ++ [' '])
    let gap := (8 - column % 8) % 8
    part ++ ' ' :: (List.replicate gap ' ' ++ expandTabs (column + gap) rest)

def expandLine (line : List Char) : List Char := expandTabs 0 (line.splitOn '\t')

/-- Bell, backspace, vertical tab, form feed and carriage return. -/
def cursorControls : List Nat := [0x7, 0x8, 0xB, 0xC, 0xD]

/-- What a terminal is sent: without controls that would move its cursor. -/
def terminalText (text : String) : String :=
  let kept := text.toList.filter fun c => !(cursorControls.contains c.toNat)
  String.ofList (['\n'].intercalate ((kept.splitOn '\n').map expandLine))

/-- The tags that the command itself puts around its words. -/
def ownTags : List String :=
  ["[red]", "[/red]", "[bold red]", "[/bold red]", "[yellow]", "[/yellow]", "[bold green]",
    "[/bold green]"]

/-- A text without these tags, as it is shown where nothing else in it is markup. -/
def withoutTags (text : String) : String :=
  ownTags.foldl (fun text tag => String.join (text.splitOn tag)) text

inductive ExitCode where
  | success
  | failure
  | usage
  /-- To be called again later. -/
  | tryLater
  deriving DecidableEq, Repr

def ExitCode.number : ExitCode → Nat
  | .success => 0
  | .failure => 1
  | .usage => 2
  | .tryLater => 75

/-- What the command finds where it is installed. -/
structure Installation where
  version : Option String
  help : String
  /-- The text that marked up text is shown as, or why its markup is broken. -/
  render : String → Except String String
  /-- What is told of the problems of a request, after their number. -/
  explain : List Problem → String

def Installation.versionText (installation : Installation) : String :=
  "Skybastion v" ++ installation.version.getD "unknown"

def Options.shows (options : Options) : LogLevel → Bool
  | .debug => options.verbose
  | .info => true

/-- The log is marked up text. Lines that are not shown are not rendered. -/
def Installation.journal (installation : Installation) (options : Options) : Journal where
  refusal? line :=
    if options.shows line.level then
      match installation.render line.text with
      | .ok _ => none
      | .error message => some message
    else none

/-- Exit code and standard output, and the failure that cut the run short. -/
structure Report where
  exit : ExitCode
  output : String
  uncaught : Option Failure
  deriving DecidableEq, Repr

/-- How a run is to end: the JSON object to tell of it, if there is one, and a line of marked up text. -/
structure Closing where
  exit : ExitCode
  object : Option Json
  line : String

/-- Where JSON is asked for the object is printed, and the line is rendered all the same. -/
def Installation.close (installation : Installation) (options : Options) (closing : Closing) :
    Report :=
  let told :=
    match closing.object with
    | some object => if options.json then Json.print .line object ++ "\n" else ""
    | none => ""
  match installation.render closing.line with
  | .error message => ⟨.failure, told, some (.unrendered message)⟩
  | .ok shown => ⟨closing.exit, if options.json then told else terminalText shown ++ "\n", none⟩

/-- A request that cannot be used is told in text only. -/
def invalidClosing (options : Options) (reason : String) : Closing :=
  ⟨.failure, none, s!"[red]Invalid request {options.request}: {reason}[/red]"⟩

def failureClosing (error : TerminalError) : Closing where
  exit := .failure
  object := some (.object [("outcome", .string "error"), ("error", .string error.message)])
  line := s!"[bold red]Reconcile failed:[/bold red] {error.message}"

def requeueClosing (requeue : Pass.Requeue) : Closing where
  exit := .tryLater
  object := some (.object [("outcome", .string "requeue"),
    ("wait_seconds", .float (.ofRatio false requeue.seconds 1)),
    ("cause", .string requeue.cause)])
  line := s!"[yellow]Not ready:[/yellow] {requeue.cause} (retry in {requeue.seconds}s)"

def locationText (endpoints : Endpoints) : String :=
  match endpoints.outer with
  | none => "unknown"
  | some endpoint => endpoint.location.getD "None"

def successClosing (bastion : String) (endpoints : Endpoints) : Closing where
  exit := .success
  object := some (.object (("outcome", .string "succeeded") :: endpoints.toJson.members))
  line := s!"[bold green]Bastion {bastion} ready[/bold green] at {locationText endpoints}"

def outcomeClosing (request : Request) : Outcome → Closing
  | .requeue requeue => requeueClosing requeue
  | .succeeded endpoints => successClosing request.bastionName endpoints

/-- A terminal error is told; any other failure of a pass goes uncaught. -/
def Installation.report (installation : Installation) (options : Options) (request : Request) :
    Except Failure Outcome → Report
  | .ok outcome => installation.close options (outcomeClosing request outcome)
  | .error (.terminal error) => installation.close options (failureClosing error)
  | .error failure => ⟨.failure, "", some failure⟩

def countText (problems : Nat) : String :=
  s!"{problems} validation error" ++ (if problems = 1 then "" else "s") ++ " for ReconcileRequest"

/-- What the request file comes to: a request, or the reason why it is none. -/
def Installation.requestOf (installation : Installation) :
    Except FileError String → Except String Request
  | .error error => .error error.message
  | .ok text =>
    match Request.ofText text with
    | .invalid problems => .error (countText problems.length ++ installation.explain problems)
    | .valid request => .ok request

def pass (account : Account) (request : Request) :
    Program Compute.signature.withStatus Outcome :=
  (Pass.reconcile request).callsBesideStatusBy account.carryOut

/-- What a run did: its report, the service and the files after it, and the calls it made. -/
structure Finished (σ : Type) where
  report : Report
  site : Site σ
  calls : List (StatusOr Compute.signature)

variable {σ : Type}

def siteOf (options : Options) (world : σ) (tree : Tree) : Site σ where
  world := world
  disk := Disk.ofTree tree
  statusPath := Path.ofString options.statusFile
  writerFaults := []

/-- The pass that is made for a request, with its log shown. -/
def Installation.passRun (installation : Installation) (options : Options)
    (service : Handler Compute.signature σ) (world : σ) (tree : Tree) (request : Request) :
    Run Compute.signature.withStatus (Site σ) Outcome :=
  let journal := installation.journal options
  ((pass ⟨options.project, options.zone⟩ request).loggedTo journal).run
    (Site.handlerTo journal service) (siteOf options world tree)

def Installation.perform (installation : Installation) (options : Options)
    (service : Handler Compute.signature σ) (world : σ) (tree : Tree) :
    Except String Request → Finished σ
  | .error reason =>
    ⟨installation.close options (invalidClosing options reason), siteOf options world tree, []⟩
  | .ok request =>
    let run := installation.passRun options service world tree request
    ⟨installation.report options request run.result, run.state, run.calls⟩

def unstarted (report : Report) (options : Options) (world : σ) (tree : Tree) : Finished σ :=
  ⟨report, siteOf options world tree, []⟩

/-- A request path with a null character is no path at all, which nothing catches. -/
def Installation.execute (installation : Installation) (options : Options)
    (service : Handler Compute.signature σ) (world : σ) (tree : Tree) : Finished σ :=
  match tree.read (.ofString options.request) with
  | .error .nullCharacter =>
    let failure := .foreign .value FileError.nullCharacter.message
    unstarted ⟨.failure, "", some failure⟩ options world tree
  | found => installation.perform options service world tree (installation.requestOf found)

/-- A run of the command, over whatever service answers its calls. -/
def command (installation : Installation) (arguments : List String)
    (service : Handler Compute.signature σ) (world : σ) (tree : Tree) : Finished σ :=
  let answer (exit : ExitCode) (output : String) : Finished σ :=
    unstarted ⟨exit, output, none⟩ ⟨"", "", "", "", false, false⟩ world tree
  match parse arguments with
  | .wrongUsage => answer .usage ""
  | .showHelp => answer .success installation.help
  | .showVersion => answer .success (installation.versionText ++ "\n")
  | .run options => installation.execute options service world tree

end Bastion.CommandLine
