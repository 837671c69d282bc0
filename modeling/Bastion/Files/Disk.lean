import Bastion.Program

set_option autoImplicit false

namespace Bastion.Files

inductive Op where
  | exists (path : Path)
  | read (path : Path)
  | makeDirectories (path : Path)
  | createTemporary (directory : Path) (stem : String)
  | write (path : Path) (text : String)
  | replace (source target : Path)
  | remove (path : Path)
  deriving DecidableEq, Repr

@[reducible]
def signature : Signature where
  Op := Op
  Answer
    | .exists _ => Bool
    | .read _ => String
    | .makeDirectories _ => Unit
    | .createTemporary .. => Path
    | .write .. => Unit
    | .replace .. => Unit
    | .remove _ => Unit

/-- How much of the text still reaches the file, and why no more. -/
structure WriteFault where
  written : Nat
  reason : String
  deriving DecidableEq, Repr

structure Disk where
  tree : Tree
  fault : Option WriteFault
  deriving DecidableEq, Repr

namespace Disk

def ofTree (tree : Tree) : Disk := ⟨tree, none⟩

/-- A step that changes the tree, or fails and changes nothing. -/
def change (disk : Disk) (after : Except FileError Tree) : Step Disk Unit :=
  match after with
  | .ok tree => ⟨.ok (), { disk with tree := tree }, []⟩
  | .error error => ⟨.error (.status (.file error)), disk, []⟩

/-- A faulty medium keeps the start of the text, once. -/
def write (disk : Disk) (path : Path) (text : String) : Step Disk Unit :=
  match disk.fault with
  | none => ⟨.ok (), { disk with tree := disk.tree.put path.spot (.file text) }, []⟩
  | some fault =>
    let start := String.ofList (text.toList.take fault.written)
    ⟨.error (.status (.file (.writing fault.reason))),
      ⟨disk.tree.put path.spot (.file start), none⟩, []⟩

def makeDirectories (disk : Disk) (path : Path) : Step Disk Unit :=
  let (answer, tree) := disk.tree.makeDirectories path
  ⟨answer.mapError fun error => .status (.file error), { disk with tree := tree }, []⟩

def createTemporary (disk : Disk) (directory : Path) (stem : String) : Step Disk Path :=
  match disk.tree.createTemporary directory stem with
  | .ok (path, tree) => ⟨.ok path, { disk with tree := tree }, []⟩
  | .error error => ⟨.error (.status (.file error)), disk, []⟩

def handler : Handler signature Disk
  | .exists path, disk =>
    ⟨(disk.tree.has path).mapError fun error => .status (.file error), disk, []⟩
  | .read path, disk =>
    ⟨(disk.tree.read path).mapError fun error => .status (.file error), disk, []⟩
  | .makeDirectories path, disk => disk.makeDirectories path
  | .createTemporary directory stem, disk => disk.createTemporary directory stem
  | .write path text, disk => disk.write path text
  | .replace source target, disk => disk.change (disk.tree.replace source target)
  | .remove path, disk => ⟨.ok (), { disk with tree := disk.tree.erase path.spot }, []⟩

end Disk

def fileExists (path : Path) : Program signature Bool := .perform (S := signature) (.exists path)

def readText (path : Path) : Program signature String := .perform (S := signature) (.read path)

def makeDirectories (path : Path) : Program signature Unit :=
  .perform (S := signature) (.makeDirectories path)

def createTemporary (directory : Path) (stem : String) : Program signature Path :=
  .perform (S := signature) (.createTemporary directory stem)

def writeText (path : Path) (text : String) : Program signature Unit :=
  .perform (S := signature) (.write path text)

def replaceFile (source target : Path) : Program signature Unit :=
  .perform (S := signature) (.replace source target)

def removeFile (path : Path) : Program signature Unit := .perform (S := signature) (.remove path)

end Bastion.Files
