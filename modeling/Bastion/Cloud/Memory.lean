import Bastion.Cloud.Call

set_option autoImplicit false

namespace Bastion.Cloud

/-- For each method the answers to come; none is an answer of the cloud itself. -/
abbrev Script := (method : Method) → List (Option (Except Failure method.Answer))

def Script.empty : Script := fun _ => []

def Script.set (script : Script) (method : Method)
    (answers : List (Option (Except Failure method.Answer))) : Script :=
  fun other => if same : method = other then same ▸ answers else script other

structure Memory where
  script : Script
  groups : List (String × Group)
  instances : List (String × Instance)
  /-- The rules of each group, by the group's id. -/
  rules : List (String × List Rule)
  /-- What is told of each number of cores; of some, nothing. -/
  availability : List (Int × Option Availability)
  publicAddress : Json
  /-- The zone of every subnet, none where what was told is no name. -/
  zone : Option String
  /-- How many rules were ever created. -/
  issued : Nat

namespace Memory

def empty : Memory where
  script := .empty
  groups := []
  instances := []
  rules := []
  availability := []
  publicAddress := .null
  zone := some "zone-a"
  issued := 0

def rulesOf (memory : Memory) (group : String) : List Rule :=
  (Keyed.get? memory.rules group).getD []

def createGroup (memory : Memory) (network name : String) : Group × Memory :=
  let group : Group := ⟨"sg-" ++ name, name, some network⟩
  (group, { memory with groups := Keyed.put memory.groups name group })

def createInstance (memory : Memory) (spec : InstanceSpec) : Instance × Memory :=
  let created : Instance :=
    ⟨s!"i-{memory.instances.length + 1}", spec.name, .pending, [], none⟩
  (created, { memory with instances := Keyed.put memory.instances spec.name created })

/-- Stores a copy of the rule, last of the group's rules, under a handle that no rule had before. -/
def createRule (memory : Memory) (group : String) (rule : Rule) : Memory :=
  let issued := memory.issued + 1
  let stored := { rule with handle := some s!"rule-{issued}" }
  { memory with
    rules := Keyed.put memory.rules group (memory.rulesOf group ++ [stored])
    issued := issued }

/-- Removes the rules of the group that have the rule's handle. -/
def revokeRule (memory : Memory) (group : String) (rule : Rule) : Memory :=
  let kept := (memory.rulesOf group).filter fun stored => stored.handle ≠ rule.handle
  { memory with rules := Keyed.put memory.rules group kept }

def lookupSubnet (memory : Memory) (id : String) : Except Failure (Option Subnet) :=
  match memory.zone with
  | some zone => .ok (some ⟨id, zone, none⟩)
  | none => .error (.invalid [⟨.notString, [.member "zone_id"]⟩])

def carryOut (memory : Memory) : (call : Call) → Except Failure call.method.Answer × Memory
  | .lookupNetwork name => (.ok (some ⟨"net-" ++ name, name, "subnet-1"⟩), memory)
  | .lookupSubnet id => (memory.lookupSubnet id, memory)
  | .listAvailability cores _ =>
    (.ok ((Keyed.get? memory.availability cores).getD (some ⟨[]⟩)), memory)
  | .lookupGroup name => (.ok (Keyed.get? memory.groups name), memory)
  | .createGroup network name =>
    let (group, memory) := memory.createGroup network name
    (.ok (some group), memory)
  | .lookupInstance name => (.ok (Keyed.get? memory.instances name), memory)
  | .createInstance spec =>
    let (created, memory) := memory.createInstance spec
    (.ok (some created), memory)
  | .describeRules group direction =>
    (.ok (some ((memory.rulesOf group).filter fun rule => rule.direction = direction)), memory)
  | .createRule _ group rule => (.ok .null, memory.createRule group rule)
  | .revokeRule _ group rule => (.ok .null, memory.revokeRule group rule)
  | .allocateAddress _ => (.ok memory.publicAddress, memory)

def handler : Handler signature Memory := fun call memory =>
  match memory.script call.method with
  | some answer :: rest =>
    ⟨answer, { memory with script := memory.script.set call.method rest }, []⟩
  | answers =>
    let memory := { memory with script := memory.script.set call.method answers.tail }
    let (answer, memory) := memory.carryOut call
    ⟨answer, memory, []⟩

end Memory

end Bastion.Cloud
