import Bastion.CommandLine.Report
import Bastion.Compute.Service

set_option autoImplicit false

namespace Bastion.Main

open Files (Path Spot Entry Tree)

/-- What is at a path: a file that can be read, a directory, which can be opened but not read, or
nothing. -/
def readEntry (path : Path) : IO (List (Spot × Entry)) := do
  try
    return [(path.spot, .file (← IO.FS.readFile path.text))]
  catch _ =>
    try
      discard (IO.FS.Handle.mk path.text .read)
      return [(path.spot, .directory)]
    catch _ => return []

/-- The entries at the paths and on the way to them. -/
def treeOf (paths : List Path) : IO Tree := do
  let steps := (paths.flatMap Path.prefixes).eraseDups
  return ⟨(← steps.mapM readEntry).flatten⟩

def pathsOf (arguments : List String) : List Path :=
  match CommandLine.parse arguments with
  | .run options => [Path.ofString options.request, Path.ofString options.statusFile]
  | _ => []

def writeEntry (before : Tree) (spot : Spot) : Entry → IO Unit
  | .directory => IO.FS.createDirAll spot.text
  | .file text => do
    if before.entry? spot ≠ some (.file text) then IO.FS.writeFile spot.text text

def helpText : String :=
  "usage: skybastion [-h] [" ++ "--version] --request REQUEST --project-id PROJECT_ID
                  --zone ZONE [" ++ "--status-file STATUS_FILE] [" ++ "--json] [-v]

Skybastion: reconcile a temporary SSH bastion host

options:
  -h, --help            show this help message and exit
  --version             show program's version number and exit
  --request REQUEST     JSON file holding the reconcile request
  --project-id PROJECT_ID
                        GCP Project ID
  --zone ZONE           Zone to place the bastion in
  --status-file STATUS_FILE
                        JSON file the published endpoints are merged into
  --json                Output outcome as JSON
  -v, --verbose         Debug logging

Exit codes: 0 = endpoint published, 75 = not ready (call again later),
1 = terminal error.
"

/-- Where the command is run by itself. Of a request that cannot be used it tells the number of problems. -/
def installation : CommandLine.Installation where
  version := some "0.1.0"
  help := helpText
  render text := .ok (CommandLine.withoutTags text)
  explain _ := ""

def run (arguments : List String) : IO UInt32 := do
  let tree ← treeOf (pathsOf arguments)
  let finished := CommandLine.command installation arguments Compute.Service.handler .empty tree
  for (spot, entry) in finished.site.disk.tree.entries do
    writeEntry tree spot entry
  IO.print finished.report.output
  if let some failure := finished.report.uncaught then
    throw (IO.userError failure.message)
  return finished.report.exit.number.toUInt32

end Bastion.Main

def main (arguments : List String) : IO UInt32 := Bastion.Main.run arguments
