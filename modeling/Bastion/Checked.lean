set_option autoImplicit false

namespace Bastion

inductive Mismatch where
  | notJson
  | missing
  | notString
  | notInteger
  | notFinite
  | fractional
  | unreadableInteger
  | longInteger
  | notList
  | notTuple
  | notMapping
  | notObject
  | notChoice
  | notLiteral
  | notNetwork
  deriving DecidableEq, Repr

/-- One step on the way to a part of a value. -/
inductive Place where
  | member (name : String)
  | item (index : Nat)
  deriving DecidableEq, Repr

structure Problem where
  mismatch : Mismatch
  path : List Place
  deriving DecidableEq, Repr

inductive Checked (α : Type) where
  | valid (value : α)
  | invalid (problems : List Problem)
  deriving DecidableEq, Repr

namespace Checked

variable {α β : Type}

def mismatch (mismatch : Mismatch) : Checked α := .invalid [⟨mismatch, []⟩]

def map (f : α → β) : Checked α → Checked β
  | .valid value => .valid (f value)
  | .invalid problems => .invalid problems

/-- Both checks are made; their problems follow each other. -/
def apply (f : Checked (α → β)) (value : Checked α) : Checked β :=
  match f, value with
  | .valid f, .valid value => .valid (f value)
  | .valid _, .invalid problems => .invalid problems
  | .invalid problems, .valid _ => .invalid problems
  | .invalid first, .invalid second => .invalid (first ++ second)

instance : Functor Checked := ⟨map, fun value => map fun _ => value⟩

instance : Seq Checked := ⟨fun f value => apply f (value ())⟩

/-- The problems of a part, told from the whole. -/
def inside (place : Place) : Checked α → Checked α
  | .valid value => .valid value
  | .invalid problems =>
    .invalid (problems.map fun problem => ⟨problem.mismatch, place :: problem.path⟩)

/-- Checks every item of a list, the first of which has the given index. -/
def items {γ : Type} (check : γ → Checked α) (index : Nat) : List γ → Checked (List α)
  | [] => .valid []
  | item :: rest =>
    apply (map List.cons (inside (.item index) (check item))) (items check (index + 1) rest)

def members {γ : Type} (check : γ → Checked α) : List (String × γ) → Checked (List (String × α))
  | [] => .valid []
  | (name, value) :: rest =>
    apply (map (fun value rest => (name, value) :: rest) (inside (.member name) (check value)))
      (members check rest)

def toOption : Checked α → Option α
  | .valid value => some value
  | .invalid _ => none

end Checked

end Bastion
