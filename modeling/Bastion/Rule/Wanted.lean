import Bastion.Cidr.Parser
import Bastion.Rule.Basic

set_option autoImplicit false

namespace Bastion.Rule

def sshProtocol : String := "tcp"

def sshPorts : String := "22/22"

def allProtocols : String := "all"

def allPorts : String := "-1/-1"

def anyV4 : String := "0.0.0.0/0"

def allowSsh (source : Cidr) : Rule where
  direction := .ingress
  description := some "SSH access for Bastion"
  protocol := sshProtocol
  ports := sshPorts
  sourceV4 := match source with | .v4 .. => some source.text | .v6 .. => none
  sourceV6 := match source with | .v4 .. => none | .v6 .. => some source.text
  destination := none
  destinationGroup := none
  policy := .accept
  priority := 1
  handle := none

/-- One rule for each allowed block, and one for every version 4 address if none is named. -/
def wantedIngress (sources : List Cidr) : List Rule :=
  (if sources.isEmpty then [Cidr.anyV4] else sources).map allowSsh

/-- SSH out from the bastion to the workload group. -/
def allowWorkload (address workloadGroup : Option String) : Rule where
  direction := .egress
  description := some "Allow Bastion egress to workload nodes"
  protocol := sshProtocol
  ports := sshPorts
  sourceV4 := address
  sourceV6 := none
  destination := none
  destinationGroup := workloadGroup
  policy := .accept
  priority := 1
  handle := none

def denyEgress : Rule where
  direction := .egress
  description := some "Bastion egress deny"
  protocol := allProtocols
  ports := allPorts
  sourceV4 := none
  sourceV6 := none
  destination := some anyV4
  destinationGroup := none
  policy := .drop
  priority := 2
  handle := none

def wantedEgress (address workloadGroup : Option String) : List Rule :=
  [allowWorkload address workloadGroup, denyEgress]

end Bastion.Rule
