import Bastion.Cloud.Call
import Bastion.Status.Site

set_option autoImplicit false

namespace Bastion.Pass

open Cloud (Network Subnet Availability Group Instance InstanceSpec)

@[reducible]
def signature : Signature := Cloud.signature.withStatus

abbrev PassProgram := Program signature

def cloud (call : Cloud.Call) : PassProgram call.method.Answer :=
  .perform (S := signature) (.other call)

def lookupNetwork (name : String) : PassProgram (Option Network) := cloud (.lookupNetwork name)

def lookupSubnet (id : String) : PassProgram (Option Subnet) := cloud (.lookupSubnet id)

def listAvailability (cores : Int) (zone : String) : PassProgram (Option Availability) :=
  cloud (.listAvailability cores zone)

def lookupGroup (name : String) : PassProgram (Option Group) := cloud (.lookupGroup name)

def createGroup (network name : String) : PassProgram (Option Group) := cloud (.createGroup network name)

def lookupInstance (name : String) : PassProgram (Option Instance) := cloud (.lookupInstance name)

def createInstance (spec : InstanceSpec) : PassProgram (Option Instance) := cloud (.createInstance spec)

def describeRules (group : String) (direction : Direction) : PassProgram (Option (List Rule)) :=
  cloud (.describeRules group direction)

def createRule (direction : Direction) (group : String) (rule : Rule) : PassProgram Json :=
  cloud (.createRule direction group rule)

def revokeRule (direction : Direction) (group : String) (rule : Rule) : PassProgram Json :=
  cloud (.revokeRule direction group rule)

def allocateAddress (instanceId : String) : PassProgram Json := cloud (.allocateAddress instanceId)

def patchStatus (name : String) (patch : Json) : PassProgram Unit :=
  .perform (S := signature) (.patchStatus name patch)

def stop {α : Type} (error : TerminalError) : PassProgram α := .fail (.terminal error)

def nothing {α : Type} (operation resource cause : String) : PassProgram α :=
  stop (.provider operation resource (some cause))

end Bastion.Pass
