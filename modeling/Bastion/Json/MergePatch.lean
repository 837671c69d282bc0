import Bastion.Json.Printer

set_option autoImplicit false

/- Merge patches (RFC 7386). In a patch, null removes a member, an object patches the member in
place, and any other value replaces it. A target that is no object still counts as one when it
lists pairs; its names may then be any scalars. -/
namespace Bastion.Json

def members : Json → List (String × Json)
  | .object members => members
  | _ => []

mutual

def patchValue (current : Option Json) : Json → Option Json
  | .null => none
  | .object patch => some (.object (patchMembers ((current.map members).getD []) patch))
  | value => some value

def patchMembers (target : List (String × Json)) :
    List (String × Json) → List (String × Json)
  | [] => target
  | (name, patch) :: rest =>
    match patchValue (Keyed.get? target name) patch with
    | none => patchMembers (Keyed.erase target name) rest
    | some value => patchMembers (Keyed.put target name value) rest

end

/-- The name of a member in a target that lists pairs. Names that are equal as numbers are one
name. -/
inductive Name where
  | null
  | number (value : Binary64)
  | whole (value : Int)
  | text (value : String)
  deriving DecidableEq

inductive Kind where
  | null
  | bool
  | int
  | float
  | string
  | array
  | object
  deriving DecidableEq, Repr

def kind : Json → Kind
  | .null => .null
  | .bool _ => .bool
  | .int _ => .int
  | .float _ => .float
  | .string _ => .string
  | .array _ => .array
  | .object _ => .object

def Kind.text : Kind → String
  | .null => "NoneType"
  | .bool => "bool"
  | .int => "int"
  | .float => "float"
  | .string => "str"
  | .array => "list"
  | .object => "dict"

inductive PatchError where
  /-- The target lists nothing. -/
  | noEntries (kind : Kind)
  /-- An entry of the target lists nothing. -/
  | noPair (index : Nat)
  /-- An entry of the target does not list two things. -/
  | wrongLength (index length : Nat)
  /-- The first thing of an entry is a container. -/
  | badName (kind : Kind)
  | patchNotObject (kind : Kind)
  deriving DecidableEq, Repr

def PatchError.message : PatchError → String
  | .noEntries kind => s!"'{kind.text}' object is not iterable"
  | .noPair index => s!"cannot convert dictionary update sequence element #{index} to a sequence"
  | .wrongLength index length =>
    s!"dictionary update sequence element #{index} has length {length}; 2 is required"
  | .badName kind => s!"unhashable type: '{kind.text}'"
  | .patchNotObject kind => s!"'{kind.text}' object has no attribute 'items'"

def listed? : Json → Option (List Json)
  | .array items => some items
  | .string value => some (value.toList.map fun c => .string (String.singleton c))
  | .object members => some (members.map fun member => .string member.1)
  | _ => none

def name? : Json → Except PatchError Name
  | .null => .ok .null
  | .bool value => .ok (.whole (if value then 1 else 0))
  | .int value => .ok (.whole value)
  | .float value => .ok (match value.toInt? with | some n => .whole n | none => .number value)
  | .string value => .ok (.text value)
  | value => .error (.badName value.kind)

def nameText : Json → String
  | .string value => value
  | scalar => print .line scalar

/-- A member of a target that lists pairs: its name, the text that the name is written with, and its
value. -/
structure Entry where
  name : Name
  text : String
  value : Json

/-- Adds a pair. The first spelling of a name stays. -/
def putEntry (entries : List Entry) (entry : Entry) : List Entry :=
  match entries with
  | [] => [entry]
  | first :: rest =>
    if first.name = entry.name then { first with value := entry.value } :: rest
    else first :: putEntry rest entry

def readEntries (index : Nat) (read : List Entry) : List Json → Except PatchError (List Entry)
  | [] => .ok read
  | item :: items =>
    match item.listed? with
    | none => .error (.noPair index)
    | some [first, value] => do
      let name ← first.name?
      readEntries (index + 1) (putEntry read ⟨name, first.nameText, value⟩) items
    | some things => .error (.wrongLength index things.length)

def entries (target : Json) : Except PatchError (List Entry) :=
  match target with
  | .object members => .ok (members.map fun (name, value) => ⟨.text name, name, value⟩)
  | target =>
    match target.listed? with
    | none => .error (.noEntries target.kind)
    | some items => readEntries 0 [] items

def patchEntries (target : List Entry) : List (String × Json) → List Entry
  | [] => target
  | (name, patch) :: rest =>
    let current := (target.find? fun entry => entry.name = .text name).map Entry.value
    match patchValue current patch with
    | none => patchEntries (target.filter fun entry => entry.name ≠ .text name) rest
    | some value => patchEntries (putEntry target ⟨.text name, name, value⟩) rest

def mergePatch (target patch : Json) : Except PatchError Json :=
  match target, patch with
  | .object target, .object patch => .ok (.object (patchMembers target patch))
  | target, patch => do
    let listed ← target.entries
    match patch with
    | .object patch =>
      return .object ((patchEntries listed patch).map fun entry => (entry.text, entry.value))
    | patch => throw (.patchNotObject patch.kind)

end Bastion.Json
