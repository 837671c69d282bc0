import Bastion.Pass.Calls
import Bastion.Request
import Bastion.Rule.Diff
import Bastion.Rule.Wanted

set_option autoImplicit false

namespace Bastion.Pass

def currentRules (group : String) (direction : Direction) : PassProgram (List Rule) := do
  let operation := s!"describe {direction.text} rules of"
  match ← (describeRules group direction).during operation group with
  | none => nothing operation group "no rule list returned"
  | some rules => return rules

/-- `direction` is that of the calls; the rules are wanted in it. -/
def addRules (direction : Direction) (group : String) : List Rule → PassProgram Unit
  | [] => return ()
  | rule :: rest => do
    let kind := rule.direction.text
    let _ ← (createRule direction group rule).during s!"add security group {kind} rule" rule.label
    .info s!"Added {kind} rule {rule.label} to {group}"
    addRules direction group rest

def revokeRules (direction : Direction) (group : String) : List Rule → PassProgram Unit
  | [] => return ()
  | rule :: rest => do
    let kind := rule.direction.text
    let _ ← (revokeRule direction group rule).during s!"delete security group {kind} rule" rule.label
    .info s!"Revoked {kind} rule {rule.label} from {group}"
    revokeRules direction group rest

def applyDiff (direction : Direction) (group : String) (wanted current : List Rule) :
    PassProgram Unit := do
  let diff := Rule.diff wanted current
  addRules direction group diff.added
  revokeRules direction group diff.removed

/-- The workload nodes are set up by others, so their group has to be there. -/
def workloadGroup (name : String) : PassProgram Cloud.Group := do
  match ← (lookupGroup name).during "look up security group" name with
  | none => stop (.workloadGroupMissing name)
  | some group => return group

def privateAddress (name : String) : PassProgram String := do
  let found ← (lookupInstance name).during "look up instance" name
  match found.bind Cloud.Instance.privateAddress with
  | none => stop (.noPrivateAddress name)
  | some address => return address

def reconcileRules (request : Request) (group : String) : PassProgram Unit := do
  let currentIngress ← currentRules group .ingress
  applyDiff .ingress group (Rule.wantedIngress request.ingress) currentIngress
  let workload ← workloadGroup request.options.workloadGroupName
  let address ← privateAddress request.options.instanceName
  let currentEgress ← currentRules group .egress
  applyDiff .egress group (Rule.wantedEgress (some address) (some workload.id)) currentEgress

end Bastion.Pass
