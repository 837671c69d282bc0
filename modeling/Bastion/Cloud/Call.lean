import Bastion.Cloud.Availability
import Bastion.Program
import Bastion.Rule.Basic

set_option autoImplicit false

namespace Bastion.Cloud

inductive Method where
  | lookupNetwork
  | lookupSubnet
  | listAvailability
  | lookupGroup
  | createGroup
  | lookupInstance
  | createInstance
  | describeRules
  | createRule (direction : Direction)
  | revokeRule (direction : Direction)
  | allocateAddress
  deriving DecidableEq, Repr

/-- What a method is answered with. A public address is passed on as it was told, null while there is
none; it has to be a text only where an endpoint is made of it. The answer to a change of the rules is
passed on too, and is null unless a cloud has something to tell. -/
@[reducible]
def Method.Answer : Method → Type
  | .lookupNetwork => Option Network
  | .lookupSubnet => Option Subnet
  | .listAvailability => Option Availability
  | .lookupGroup => Option Group
  | .createGroup => Option Group
  | .lookupInstance => Option Instance
  | .createInstance => Option Instance
  | .describeRules => Option (List Rule)
  | .createRule _ => Json
  | .revokeRule _ => Json
  | .allocateAddress => Json

structure InstanceSpec where
  name : String
  group : String
  image : String
  subnet : String
  zone : String
  type : String
  userData : String
  deriving DecidableEq, Repr

inductive Call where
  | lookupNetwork (name : String)
  | lookupSubnet (id : String)
  | listAvailability (cores : Int) (zone : String)
  | lookupGroup (name : String)
  | createGroup (network name : String)
  | lookupInstance (name : String)
  | createInstance (spec : InstanceSpec)
  | describeRules (group : String) (direction : Direction)
  | createRule (direction : Direction) (group : String) (rule : Rule)
  | revokeRule (direction : Direction) (group : String) (rule : Rule)
  | allocateAddress (instanceId : String)
  deriving DecidableEq, Repr

@[reducible]
def Call.method : Call → Method
  | .lookupNetwork _ => .lookupNetwork
  | .lookupSubnet _ => .lookupSubnet
  | .listAvailability .. => .listAvailability
  | .lookupGroup _ => .lookupGroup
  | .createGroup .. => .createGroup
  | .lookupInstance _ => .lookupInstance
  | .createInstance _ => .createInstance
  | .describeRules .. => .describeRules
  | .createRule direction .. => .createRule direction
  | .revokeRule direction .. => .revokeRule direction
  | .allocateAddress _ => .allocateAddress

@[reducible]
def signature : Signature where
  Op := Call
  Answer call := call.method.Answer

end Bastion.Cloud
