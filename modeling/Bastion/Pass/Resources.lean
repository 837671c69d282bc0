import Bastion.Pass.Calls

set_option autoImplicit false

namespace Bastion.Pass

open Cloud (InstanceSpec)

/-- The id of what was made, which must have one. -/
def createdId (operation name : String) (id : Option String) : PassProgram String :=
  match present id with
  | some id => return id
  | none => nothing operation name "no id returned"

def makeGroup (name network : String) : PassProgram String := do
  .info s!"Creating security group {name}"
  let created ← (createGroup network name).during "create security group" name
  createdId "create security group" name (created.map (·.id))

def ensureGroup (name network : String) : PassProgram String := do
  let found ← (lookupGroup name).during "look up security group" name
  match found.filter (·.name = name) with
  | some group =>
    .info s!"Security group {name} found ({group.id})"
    return group.id
  | none => makeGroup name network

def makeInstance (spec : InstanceSpec) : PassProgram String := do
  .info s!"Creating bastion instance {spec.name} ({spec.type})"
  let created ← (createInstance spec).during "create instance" spec.name
  createdId "create instance" spec.name (created.map (·.id))

def ensureInstance (spec : InstanceSpec) : PassProgram String := do
  let found ← (lookupInstance spec.name).during "look up instance" spec.name
  match found.filter (·.name = spec.name) with
  | some found => return found.id
  | none => makeInstance spec

end Bastion.Pass
