import Bastion.Endpoint
import Bastion.Text.Quoted

set_option autoImplicit false

namespace Bastion

inductive Direction where
  | ingress
  | egress
  deriving DecidableEq, Repr

def Direction.text : Direction → String
  | .ingress => "ingress"
  | .egress => "egress"

def Direction.choices : List (String × Direction) :=
  [("ingress", .ingress), ("egress", .egress)]

theorem Direction.get?_choices (direction : Direction) :
    Keyed.get? choices direction.text = some direction := by
  cases direction <;> rfl

inductive Policy where
  | accept
  | drop
  deriving DecidableEq, Repr

def Policy.text : Policy → String
  | .accept => "accept"
  | .drop => "drop"

def Policy.choices : List (String × Policy) := [("accept", .accept), ("drop", .drop)]

theorem Policy.get?_choices (policy : Policy) : Keyed.get? choices policy.text = some policy := by
  cases policy <;> rfl

structure Rule where
  direction : Direction
  description : Option String
  protocol : String
  /-- Both ends with a stroke between them, each minus one for all ports. -/
  ports : String
  sourceV4 : Option String
  sourceV6 : Option String
  destination : Option String
  destinationGroup : Option String
  policy : Policy
  priority : Int
  /-- What the provider knows the rule by. -/
  handle : Option String
  deriving DecidableEq, Repr

namespace Rule

/-- What an egress rule is told apart by, over and above what every rule is. -/
structure Target where
  destination : Option String
  destinationGroup : Option String
  policy : Policy
  deriving DecidableEq, Repr

structure Key where
  direction : Direction
  description : Option String
  protocol : String
  ports : String
  sourceV4 : Option String
  sourceV6 : Option String
  target : Option Target
  deriving DecidableEq, Repr

def key (rule : Rule) : Key where
  direction := rule.direction
  description := rule.description
  protocol := rule.protocol
  ports := rule.ports
  sourceV4 := rule.sourceV4
  sourceV6 := rule.sourceV6
  target :=
    match rule.direction with
    | .ingress => none
    | .egress => some ⟨rule.destination, rule.destinationGroup, rule.policy⟩

/-- The key as a list of texts, six for an ingress rule and nine for an egress rule. -/
def Key.fields (key : Key) : List (Option String) :=
  [some key.direction.text, key.description, some key.protocol, some key.ports, key.sourceV4,
    key.sourceV6] ++
    match key.target with
    | none => []
    | some target => [target.destination, target.destinationGroup, some target.policy.text]

/-- The key as one text, which is what names are derived from. -/
def Key.text (key : Key) : String :=
  "(" ++ String.intercalate ", " (key.fields.map Text.quoted?) ++ ")"

/-- The rule in a message: its description and the fields that tell rules of one description apart. -/
def label (rule : Rule) : String :=
  let source := ((present rule.sourceV4).or (present rule.sourceV6)).getD "any"
  let target := (present rule.destination).or (present rule.destinationGroup)
  s!"{Text.quoted? rule.description} ({rule.protocol} {rule.ports} from {source}" ++
    (match target with
      | some target => " to " ++ target
      | none => "") ++
    (match rule.direction with
      | .ingress => ""
      | .egress => ", " ++ rule.policy.text) ++
    ")"

def meaning (rule : Rule) : List (String × Json) :=
  [("direction", .string rule.direction.text), ("description", .ofString? rule.description),
    ("ip_protocol", .string rule.protocol), ("port_range", .string rule.ports),
    ("source_cidr_ip", .ofString? rule.sourceV4),
    ("ipv6_source_cidr_ip", .ofString? rule.sourceV6),
    ("dest_cidr_ip", .ofString? rule.destination),
    ("dest_group_id", .ofString? rule.destinationGroup), ("policy", .string rule.policy.text)]

def toJson (rule : Rule) : Json :=
  .object (rule.meaning ++ [("priority", .int rule.priority), ("handle", .ofString? rule.handle)])

open Json.Shape in
def check : Json → Checked Rule :=
  model fun members =>
    Rule.mk
      <$> required members "direction" (choice .notChoice Direction.choices)
      <*> withDefault members "description" none (optional string)
      <*> required members "ip_protocol" string
      <*> required members "port_range" string
      <*> withDefault members "source_cidr_ip" none (optional string)
      <*> withDefault members "ipv6_source_cidr_ip" none (optional string)
      <*> withDefault members "dest_cidr_ip" none (optional string)
      <*> withDefault members "dest_group_id" none (optional string)
      <*> withDefault members "policy" .accept (choice .notLiteral Policy.choices)
      <*> withDefault members "priority" 1 integer
      <*> withDefault members "handle" none (optional string)

end Rule

end Bastion
