import Bastion.Files.Path
import Bastion.Keyed
import Bastion.Text.Quoted

set_option autoImplicit false

namespace Bastion.Files

inductive Entry where
  | directory
  | file (text : String)
  deriving DecidableEq, Repr

inductive FileError where
  | missing (path : Path)
  | alreadyThere (path : Path)
  | notDirectory (path : Path)
  | isDirectory (path : Path)
  | nameTooLong (path : Path)
  /-- Too many directories are missing on the way to one. -/
  | tooDeep
  /-- A null character ends every path, so none may hold one. -/
  | nullCharacter
  /-- Writing fails for a reason of the medium. -/
  | writing (reason : String)
  deriving DecidableEq, Repr

def FileError.message : FileError → String
  | .missing path => s!"[Errno 2] No such file or directory: {Text.quoted path.text}"
  | .alreadyThere path => s!"[Errno 17] File exists: {Text.quoted path.text}"
  | .notDirectory path => s!"[Errno 20] Not a directory: {Text.quoted path.text}"
  | .isDirectory path => s!"[Errno 21] Is a directory: {Text.quoted path.text}"
  | .nameTooLong path => s!"[Errno 36] File name too long: {Text.quoted path.text}"
  | .tooDeep => "maximum recursion depth exceeded while calling a Python object"
  | .nullCharacter => "embedded null byte"
  | .writing reason => reason

structure Tree where
  entries : List (Spot × Entry)
  deriving DecidableEq, Repr

def nameLimit : Nat := 255

def pathLimit : Nat := 4095

def levelLimit : Nat := 986

/-- How many characters tell temporary files with the same start of their names apart. -/
def temporaryWidth : Nat := 8

namespace Tree

def empty : Tree := ⟨[]⟩

def entry? (tree : Tree) (spot : Spot) : Option Entry :=
  if spot.names.isEmpty then some .directory else Keyed.get? tree.entries spot

def put (tree : Tree) (spot : Spot) (entry : Entry) : Tree := ⟨Keyed.put tree.entries spot entry⟩

def erase (tree : Tree) (spot : Spot) : Tree := ⟨Keyed.erase tree.entries spot⟩

/-- Follows names from a spot. Each of them is looked up in a directory. -/
def follow (tree : Tree) (path : Path) (spot : Spot) : List String → Except FileError Spot
  | [] => .ok spot
  | name :: rest =>
    match tree.entry? spot with
    | some .directory =>
      if nameLimit < name.utf8ByteSize then .error (.nameTooLong path)
      else follow tree path (spot.step name) rest
    | some (.file _) => .error (.notDirectory path)
    | none => .error (.missing path)

def locate (tree : Tree) (path : Path) : Except FileError Spot :=
  if path.text.toList.contains '\x00' then .error .nullCharacter
  else if pathLimit < path.text.utf8ByteSize then .error (.nameTooLong path)
  else tree.follow path path.anchor.spot path.names

def has (tree : Tree) (path : Path) : Except FileError Bool :=
  match tree.locate path with
  | .ok spot => .ok (tree.entry? spot).isSome
  | .error (.nameTooLong path) => .error (.nameTooLong path)
  | .error _ => .ok false

def read (tree : Tree) (path : Path) : Except FileError String :=
  match tree.locate path with
  | .error error => .error error
  | .ok spot =>
    match tree.entry? spot with
    | some (.file text) => .ok (String.ofList (Text.unifyLineEnds text.toList))
    | some .directory => .error (.isDirectory path)
    | none => .error (.missing path)

def overwrite (tree : Tree) (path : Path) (text : String) : Except FileError Tree :=
  match tree.locate path with
  | .error error => .error error
  | .ok spot =>
    if tree.entry? spot = some .directory then .error (.isDirectory path)
    else .ok (tree.put spot (.file text))

def makeAt (tree : Tree) (path : Path) : Except FileError Spot → Except FileError Spot × Tree
  | .error error => (.error error, tree)
  | .ok spot =>
    match tree.entry? spot with
    | some .directory => (.ok spot, tree)
    | some (.file _) => (.error (.alreadyThere path), tree)
    | none => (.ok spot, tree.put spot .directory)

/-- Makes a directory, and those on the way to it where one of them is missing, but at most so many.
Those made before a failure stay. -/
def makeUpTo (tree : Tree) : Nat → Path → Except FileError Spot × Tree
  | 0, _ => (.error .tooDeep, tree)
  | levels + 1, path =>
    match tree.makeAt path (tree.locate path) with
    | (.error (.missing _), _) =>
      match tree.makeUpTo levels path.parent with
      | (.ok spot, tree) => tree.makeAt path (tree.follow path spot [path.name])
      | failed => failed
    | made => made

def makeDirectories (tree : Tree) (path : Path) : Except FileError Unit × Tree :=
  let (made, tree) := tree.makeUpTo levelLimit path
  (made.map fun _ => (), tree)

def longestName (tree : Tree) : Nat :=
  (tree.entries.map fun entry => entry.1.name.length).foldl max 0

/-- A path in a directory that nothing has, a name longer than all others. -/
def freshPath (tree : Tree) (directory : Path) (stem : String) : Path :=
  directory.child (stem ++ String.ofList (List.replicate (tree.longestName + 1) '0'))

def temporaryName (stem : String) : String :=
  stem ++ String.ofList (List.replicate temporaryWidth '0')

/-- Makes an empty file in a directory that is there, under a new name that starts with the stem. -/
def createTemporary (tree : Tree) (directory : Path) (stem : String) :
    Except FileError (Path × Tree) :=
  let pattern := directory.child (temporaryName stem)
  if stem.toList.contains '\x00' then .error .nullCharacter
  else if nameLimit < pattern.name.utf8ByteSize ∨ pathLimit < pattern.text.utf8ByteSize then
    .error (.nameTooLong pattern)
  else
    let path := tree.freshPath directory stem
    .ok (path, tree.put path.spot (.file ""))

def replace (tree : Tree) (source target : Path) : Except FileError Tree :=
  match tree.entry? source.spot with
  | some (.file text) =>
    if tree.entry? target.spot = some .directory then .error (.isDirectory target)
    else .ok ((tree.erase source.spot).put target.spot (.file text))
  | _ => .error (.missing source)

def nearby (tree : Tree) : List (Spot × Entry) :=
  tree.entries.filter fun entry => entry.1.base = .here

/-- Every path below the working directory, sorted by its text. -/
def listing (tree : Tree) : List String :=
  (tree.nearby.map fun entry => entry.1.text).mergeSort fun a b => decide (a ≤ b)

end Tree

end Bastion.Files
