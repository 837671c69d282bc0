import Bastion.Compute.Call
import Bastion.Compute.Ports
import Bastion.Rule.Wanted
import Bastion.Text.Digest
import Bastion.Text.LowerCase

set_option autoImplicit false

/- Groups and rules as firewalls. A group is a tag, held by a firewall of that name which denies what
is denied anyway. A rule is one firewall for the tag; its description is the rule as a document. -/
namespace Bastion.Compute

def anchorPriority : Int := 65535

def anchorSpec (network name : String) : FirewallSpec where
  name := name
  network := network
  direction := "INGRESS"
  priority := anchorPriority
  description := s!"Bastion security group {name}"
  targetTags := [name]
  sourceRanges := [Rule.anyV4]
  destinationRanges := []
  allowed := []
  denied := [⟨Rule.allProtocols, []⟩]

/-- The firewall of a rule is named for its group and its key. -/
def ruleName (tag : String) (rule : Rule) : String :=
  let mark := match rule.direction with | .ingress => "-i-" | .egress => "-e-"
  String.ofList (tag.toList.take 48) ++ mark ++
    String.ofList ((Text.digest rule.key.text).take 10)

def ruleDescription (rule : Rule) : String := Json.print .dense (.object rule.meaning)

def directionWord : Direction → String
  | .ingress => "INGRESS"
  | .egress => "EGRESS"

/-- The firewall of a rule. `destinations` are the ranges of the group that an egress rule leads to,
or else its block of addresses. -/
def ruleSpec (tag network : String) (rule : Rule) (destinations : List String) : FirewallSpec where
  name := ruleName tag rule
  network := network
  direction := directionWord rule.direction
  priority := rule.priority
  description := ruleDescription rule
  targetTags := [tag]
  sourceRanges :=
    match rule.direction with
    | .ingress => [present rule.sourceV4, present rule.sourceV6].filterMap id
    | .egress => []
  destinationRanges := destinations
  allowed :=
    match rule.policy with
    | .accept => [⟨rule.protocol, portEntries rule.ports⟩]
    | .drop => []
  denied :=
    match rule.policy with
    | .accept => []
    | .drop => [⟨rule.protocol, portEntries rule.ports⟩]

/-- The rule that a firewall's description holds, with the firewall's own name and priority. -/
def describedRule? (firewall : Firewall) : Option Rule :=
  (Json.Shape.documentOfText Rule.check firewall.description).toOption.map fun rule =>
    { rule with handle := some firewall.name, priority := firewall.priority }

def isV6Range (range : String) : Bool := range.toList.contains ':'

/-- The rule that the fields of a firewall amount to. -/
def rawRule (firewall : Firewall) : Except ComputeError Rule :=
  let word := Text.lowerCase firewall.direction
  match Keyed.get? Direction.choices word with
  | none => .error (.unknownDirection (.string word))
  | some direction =>
    let traffic := (if firewall.allowed.isEmpty then firewall.denied else firewall.allowed).head?
    .ok {
      direction := direction
      description := present (some firewall.description)
      protocol := (traffic.map Traffic.protocol).getD Rule.allProtocols
      ports := portRange ((traffic.map Traffic.ports).getD [])
      sourceV4 := firewall.sourceRanges.find? fun range => !isV6Range range
      sourceV6 := firewall.sourceRanges.find? isV6Range
      destination := firewall.destinationRanges.head?
      destinationGroup := none
      policy := if firewall.allowed.isEmpty then .drop else .accept
      priority := firewall.priority
      handle := some firewall.name }

/-- Reads a rule back, from the description or else from the fields. -/
def readRule (firewall : Firewall) : Program signature Rule := do
  match describedRule? firewall with
  | some rule => return rule
  | none =>
    .debug s!"Firewall {firewall.name} has a foreign description"
    match rawRule firewall with
    | .ok rule => return rule
    | .error error => .fail (.compute error)

end Bastion.Compute
