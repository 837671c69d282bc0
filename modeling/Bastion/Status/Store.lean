import Bastion.Files.Disk

set_option autoImplicit false

/- Statuses of bastions in one document, by name. A patch reads the document, merges, and puts the new
document in the place of the old one in one step, so a reader finds one or the other. -/
namespace Bastion.Status

open Files (Path fileExists readText makeDirectories createTemporary writeText replaceFile removeFile)

abbrev FileProgram := Program Files.signature

def parseDocument (text : String) : Except Failure Json :=
  (Json.parse text).mapError fun error => .status (.unreadable error)

/-- The document, empty where there is no file. -/
def load (path : Path) : FileProgram Json := do
  if ← fileExists path then
    let text ← readText path
    .ofExcept (parseDocument text)
  else return .object []

/-- The entries of the document, which has to be an object. -/
def entries : Json → Except Failure (List (String × Json))
  | .object members => .ok members
  | document => .error (.status (.notObject document.kind))

def entryOf (members : List (String × Json)) (name : String) : Json :=
  (Keyed.get? members name).getD (.object [])

def get (path : Path) (name : String) : FileProgram Json := do
  let members ← .ofExcept (entries (← load path))
  return entryOf members name

def patched (document : Json) (name : String) (patch : Json) : Except Failure Json := do
  let members ← entries document
  let entry ← ((entryOf members name).mergePatch patch).mapError fun e => .status (.patch e)
  return .object (Keyed.put members name entry)

/-- The text of a document, unless something in it cannot be written. -/
def documentText (document : Json) : Except Failure String :=
  match document.obstacle? with
  | some obstacle => .error (.status (.unwritable obstacle))
  | none => .ok (Json.print .page document)

/-- Writes the whole document beside its place and moves it there. What was written is removed where
that fails. -/
def save (path : Path) (document : Json) : FileProgram Unit := do
  makeDirectories path.parent
  let temporary ← createTemporary path.parent s!".{path.name}."
  (do
    let text ← .ofExcept (documentText document)
    writeText temporary text
    replaceFile temporary path : FileProgram Unit).recover fun failure => do
      removeFile temporary
      .fail failure

/-- Reads the document and puts the patched one in its place. -/
def rewrite (path : Path) (name : String) (patch : Json) : FileProgram Unit := do
  let document ← load path
  let document ← .ofExcept (patched document name patch)
  save path document

/-- What is logged of a patch, once it is done. -/
def doneText (path : Path) (name : String) : String := s!"Patched status of {name} in {path.text}"

def patch (path : Path) (name : String) (patch : Json) : FileProgram Unit := do
  rewrite path name patch
  .debug (doneText path name)

end Bastion.Status
