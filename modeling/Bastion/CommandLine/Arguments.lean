import Bastion.Keyed
import Bastion.Text.Digit
import Bastion.Text.Split

set_option autoImplicit false

namespace Bastion.CommandLine

/-- What an option is for. The first four take no value. -/
inductive Purpose where
  | help
  | version
  | json
  | verbose
  | request
  | project
  | zone
  | statusFile
  deriving DecidableEq, Repr

def Purpose.takesValue : Purpose → Bool
  | .help | .version | .json | .verbose => false
  | .request | .project | .zone | .statusFile => true

def optionNames : List (String × Purpose) :=
  [("-h", .help), ("--help", .help), ("--version", .version), ("--request", .request),
    ("--project-id", .project), ("--zone", .zone), ("--status-file", .statusFile),
    ("--json", .json), ("-v", .verbose), ("--verbose", .verbose)]

inductive Token where
  | plain (text : String)
  | option (purpose : Purpose)
  /-- An option of two dashes with a value joined to it. -/
  | joined (purpose : Purpose) (value : String)
  /-- An option of one dash and one letter with letters after it, perhaps past an equals sign. -/
  | cluster (purpose : Purpose) (letters : List Char)
  | unknown
  /-- The two dashes after which all arguments are plain. -/
  | separator
  deriving DecidableEq, Repr

/-- Digits, or a point with digits after it and perhaps before it. -/
def isNumeral (text : List Char) : Bool :=
  let (whole, fraction) := Text.cutChars '.' text
  if '.' ∈ text then whole.all Text.isDigit && !fraction.isEmpty && fraction.all Text.isDigit
  else !whole.isEmpty && whole.all Text.isDigit

/-- A minus and a numeral, after which the line may end. -/
def isNegativeNumber (text : List Char) : Bool :=
  match text with
  | '-' :: rest => isNumeral (if rest.getLast? = some '\n' then rest.dropLast else rest)
  | _ => false

/-- The options that an argument may be short for. -/
def completions (argument : List Char) : List (String × Purpose) :=
  optionNames.filter fun (name, _) => argument.isPrefixOf name.toList

/-- An argument that is no option in full; none where it is short for several. -/
def classifyShort (argument : String) : Option Token :=
  let chars := argument.toList
  let other : Token :=
    if isNegativeNumber chars || chars.contains ' ' then .plain argument else .unknown
  match chars with
  | '-' :: '-' :: _ =>
    let (name, value) := Text.cutChars '=' chars
    match completions name with
    | [] => some other
    | [(_, purpose)] =>
      some (if '=' ∈ chars then .joined purpose (String.ofList value) else .option purpose)
    | _ => none
  | '-' :: letter :: letters =>
    match Keyed.get? optionNames (String.ofList ['-', letter]) with
    | some purpose => some (.cluster purpose letters)
    | none => some other
  | _ => some (.plain argument)

/-- What an argument is taken for. On an equals sign after the letter of a switch, as in `-v=v`, releases
of `argparse` differ; here it is passed over, and the letters after it are switches. -/
def classify (argument : String) : Option Token :=
  if argument = "-" ∨ argument.toList.head? ≠ some '-' then some (.plain argument)
  else
    match Keyed.get? optionNames argument with
    | some purpose => some (.option purpose)
    | none =>
      let (name, value) := Text.cut '=' argument
      match Keyed.get? optionNames name with
      | some purpose =>
        if name.toList.length = 2 then some (.cluster purpose value.toList)
        else some (.joined purpose value)
      | none => classifyShort argument

/-- Tells all arguments apart; none where one is ambiguous. -/
def classifyAll : List String → Option (List Token)
  | [] => some []
  | "--" :: rest => some (.separator :: rest.map .plain)
  | argument :: rest => do
    let token ← classify argument
    let tokens ← classifyAll rest
    return token :: tokens

/-- The purposes of letters that each stand for an option. -/
def letterPurposes (letters : List Char) : Option (List Purpose) :=
  letters.mapM fun letter => Keyed.get? optionNames (String.ofList ['-', letter])

structure Settings where
  request : Option String
  project : Option String
  zone : Option String
  statusFile : String
  json : Bool
  verbose : Bool
  /-- Whether there was an argument that nothing takes. -/
  surplus : Bool
  deriving DecidableEq, Repr

def Settings.initial : Settings :=
  ⟨none, none, none, "bastion-status.json", false, false, false⟩

structure Options where
  request : String
  project : String
  zone : String
  statusFile : String
  json : Bool
  verbose : Bool
  deriving DecidableEq, Repr

inductive Parsed where
  | wrongUsage
  | showHelp
  | showVersion
  | run (options : Options)
  deriving DecidableEq, Repr

def Settings.set (settings : Settings) (purpose : Purpose) (value : String) : Settings :=
  match purpose with
  | .request => { settings with request := some value }
  | .project => { settings with project := some value }
  | .zone => { settings with zone := some value }
  | .statusFile => { settings with statusFile := value }
  | _ => settings

def Settings.finish (settings : Settings) : Parsed :=
  match settings.request, settings.project, settings.zone with
  | some request, some project, some zone =>
    if settings.surplus then .wrongUsage
    else .run ⟨request, project, zone, settings.statusFile, settings.json, settings.verbose⟩
  | _, _, _ => .wrongUsage

/-- Acts upon options without values. Help and the version end the matter at once. -/
def Settings.switchOn (settings : Settings) : List Purpose → Except Parsed Settings
  | [] => .ok settings
  | .help :: _ => .error .showHelp
  | .version :: _ => .error .showVersion
  | .json :: rest => { settings with json := true }.switchOn rest
  | .verbose :: rest => { settings with verbose := true }.switchOn rest
  | _ :: rest => settings.switchOn rest

def act (settings : Settings) : List Token → Parsed
  | [] => settings.finish
  | .plain _ :: rest => act { settings with surplus := true } rest
  | .unknown :: rest => act { settings with surplus := true } rest
  | .separator :: rest => act { settings with surplus := true } rest
  | .joined purpose value :: rest =>
    if purpose.takesValue then act (settings.set purpose value) rest else .wrongUsage
  | .cluster purpose letters :: rest =>
    match letterPurposes letters with
    | none | some [] => .wrongUsage
    | some purposes =>
      match settings.switchOn (purpose :: purposes) with
      | .error parsed => parsed
      | .ok settings => act settings rest
  | .option purpose :: rest =>
    if purpose.takesValue then
      match rest with
      | .plain value :: rest => act (settings.set purpose value) rest
      | _ => .wrongUsage
    else
      match settings.switchOn [purpose] with
      | .error parsed => parsed
      | .ok settings => act settings rest

def parse (arguments : List String) : Parsed :=
  match classifyAll arguments with
  | none => .wrongUsage
  | some tokens => act .initial tokens

end Bastion.CommandLine
