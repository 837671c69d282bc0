import Bastion.Text.Split

set_option autoImplicit false

namespace Bastion.Files

/-- Where the names of a path start. The root may also be written with two strokes. -/
inductive Anchor where
  | here
  | root
  | doubleRoot
  deriving DecidableEq, Repr

/-- The anchor of a path that starts with so many strokes. -/
def Anchor.ofStrokes : Nat → Anchor
  | 0 => .here
  | 2 => .doubleRoot
  | _ => .root

def Anchor.text : Anchor → String
  | .here => ""
  | .root => "/"
  | .doubleRoot => "//"

structure Path where
  anchor : Anchor
  names : List String
  deriving DecidableEq, Repr

namespace Path

def ofString (text : String) : Path where
  anchor := .ofStrokes (text.toList.takeWhile (· = '/')).length
  names := (Text.pieces "/" text).filter fun name => name ≠ "" ∧ name ≠ "."

/-- The working directory itself is written as a dot. -/
def text (path : Path) : String :=
  let written := path.anchor.text ++ String.intercalate "/" path.names
  if written = "" then "." else written

def parent (path : Path) : Path := { path with names := path.names.dropLast }

def name (path : Path) : String := path.names.getLast?.getD ""

def child (path : Path) (name : String) : Path := { path with names := path.names ++ [name] }

/-- The paths on the way to a path, itself included, the nearest to its anchor first. -/
def prefixes (path : Path) : List Path :=
  (List.range path.names.length).map fun i => { path with names := path.names.take (i + 1) }

end Path

/-- A directory that is always there: the working directory, one that lies some levels above its
parent, or the root. -/
inductive Base where
  | here
  | above (levels : Nat)
  | root
  deriving DecidableEq, Repr

/-- A place among directories. It is the same for all paths that lead there. Spots of different depth
are told apart without a look at their names. -/
structure Spot where
  base : Base
  names : Array String
  deriving DecidableEq, Repr

namespace Spot

def parent (spot : Spot) : Spot :=
  if spot.names.isEmpty then
    match spot.base with
    | .here => ⟨.above 0, #[]⟩
    | .above levels => ⟨.above (levels + 1), #[]⟩
    | .root => spot
  else { spot with names := spot.names.pop }

def step (spot : Spot) (name : String) : Spot :=
  if name = ".." then spot.parent else { spot with names := spot.names.push name }

def text (spot : Spot) : String :=
  let start :=
    match spot.base with
    | .here => ""
    | .above levels => String.join (List.replicate (levels + 1) "../")
    | .root => "/"
  start ++ String.intercalate "/" spot.names.toList

def name (spot : Spot) : String := spot.names.back?.getD ""

end Spot

def Anchor.spot : Anchor → Spot
  | .here => ⟨.here, #[]⟩
  | .root => ⟨.root, #[]⟩
  | .doubleRoot => ⟨.root, #[]⟩

/-- Where a path leads, if all directories on the way are there. -/
def Path.spot (path : Path) : Spot := path.names.foldl Spot.step path.anchor.spot

end Bastion.Files
