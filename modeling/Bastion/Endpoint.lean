import Bastion.Json.Shape

set_option autoImplicit false

namespace Bastion

def present (text : Option String) : Option String := text.filter (· ≠ "")

theorem present_eq_self {text : Option String} (given : text ≠ some "") : present text = text := by
  unfold present
  cases text with
  | none => rfl
  | some text =>
    have nonempty : text ≠ "" := fun empty => given (congrArg some empty)
    simp [nonempty]

structure Endpoint where
  hostname : Option String
  ip : Option String
  deriving DecidableEq, Repr

namespace Endpoint

def of? (hostname ip : Option String) : Option Endpoint :=
  if hostname = none ∧ ip = none then none else some ⟨hostname, ip⟩

/-- The endpoint of a hostname and an address as they were told, null in their absence. -/
def ofJson? (hostname ip : Json) : Checked (Option Endpoint) :=
  of? <$> Checked.inside (.member "hostname") (Json.Shape.optional Json.Shape.string hostname)
    <*> Checked.inside (.member "ip") (Json.Shape.optional Json.Shape.string ip)

def location (endpoint : Endpoint) : Option String :=
  (present endpoint.hostname).or endpoint.ip

def ready (endpoint : Endpoint) : Bool :=
  (present endpoint.hostname).isSome || (present endpoint.ip).isSome

def check : Json → Checked Endpoint :=
  Json.Shape.model fun members =>
    Endpoint.mk
      <$> Json.Shape.withDefault members "hostname" none (Json.Shape.optional Json.Shape.string)
      <*> Json.Shape.withDefault members "ip" none (Json.Shape.optional Json.Shape.string)

def toJson (endpoint : Endpoint) : Json :=
  .object [("hostname", .ofString? endpoint.hostname), ("ip", .ofString? endpoint.ip)]

end Endpoint

/-- The endpoint towards the workload nodes and the one towards the user. -/
structure Endpoints where
  inner : Option Endpoint
  outer : Option Endpoint
  deriving DecidableEq, Repr

namespace Endpoints

def ready (endpoints : Endpoints) : Bool :=
  endpoints.inner.any Endpoint.ready && endpoints.outer.any Endpoint.ready

def check : Json → Checked Endpoints :=
  Json.Shape.model fun members =>
    Endpoints.mk
      <$> Json.Shape.withDefault members "private" none (Json.Shape.optional Endpoint.check)
      <*> Json.Shape.withDefault members "public" none (Json.Shape.optional Endpoint.check)

def toJson (endpoints : Endpoints) : Json :=
  .object [("private", (endpoints.inner.map Endpoint.toJson).getD .null),
    ("public", (endpoints.outer.map Endpoint.toJson).getD .null)]

end Endpoints

end Bastion
