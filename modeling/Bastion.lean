import Bastion.Cloud.Memory
import Bastion.CommandLine.Report
import Bastion.Json.Wording
import Bastion.Main
import Bastion.Proofs.MemoryKeeper
import Bastion.Proofs.RuleDiff
import Bastion.Proofs.RuleKeeper
import Bastion.Proofs.RuleStore
import Bastion.Proofs.Runs
import Bastion.Proofs.RuleConvergence
import Bastion.Proofs.Carriers
import Bastion.Proofs.JsonNumbers
import Bastion.Proofs.JsonStrings
import Bastion.Proofs.JsonText
import Bastion.Proofs.ServiceRuns
import Bastion.Proofs.FirewallRules
import Bastion.Proofs.ProviderRuns
import Bastion.Proofs.ServiceKeeper
import Bastion.Proofs.ServiceSettling
import Bastion.Proofs.ServiceReconciliation
import Bastion.Proofs.IngressLeft
import Bastion.Proofs.Redescription
import Bastion.Proofs.RulesDescribed
import Bastion.Proofs.CallOrder
import Bastion.Proofs.Rounding
import Bastion.Proofs.ShortestDecimal
import Bastion.Proofs.FloatText
import Bastion.Proofs.FileTree
import Bastion.Proofs.SettledJson
import Bastion.Proofs.MergedIngress
import Bastion.Proofs.PageText
import Bastion.Proofs.Endings
import Bastion.Proofs.StatusStore
import Bastion.Proofs.Approach
import Bastion.Proofs.Publication
import Bastion.Proofs.Inquiries
import Bastion.Proofs.Landscape
import Bastion.Proofs.Tidiness
import Bastion.Proofs.Standing
import Bastion.Proofs.Repetition
import Bastion.Proofs.StatusAgain
import Bastion.Proofs.SecondPass
import Bastion.Proofs.FailStop
import Bastion.Proofs.Proceedings
import Bastion.Proofs.CidrText
import Bastion.Proofs.Ownership
import Bastion.Proofs.RuleSafety
import Bastion.Proofs.UnscriptedRuns
import Bastion.Proofs.EmptyCloud
import Bastion.Proofs.MergedMembers
import Bastion.Proofs.StatusHistory
import Bastion.Proofs.WholeDocument
import Bastion.Proofs.RivalPatches
import Bastion.Proofs.ToldInstance
import Bastion.Proofs.RuleEncoding
import Bastion.Proofs.Confinement
import Bastion.Proofs.RequestText
import Bastion.Proofs.DiffPositions
import Bastion.Proofs.MergeStandard
import Bastion.Proofs.MergedEntries
import Bastion.Proofs.StatusKinds
import Bastion.Proofs.PatchRepeated
import Bastion.Proofs.GroupFirewalls
import Bastion.Proofs.RuleNames
import Bastion.Proofs.Attempts
import Bastion.Proofs.TransientFaults
import Bastion.Proofs.TypeChoice
import Bastion.Proofs.AddressAllocation
import Bastion.Proofs.AllowlistRules
import Bastion.Proofs.TextOccurrences
import Bastion.Proofs.PortText
import Bastion.Proofs.OutcomeReport
import Bastion.Proofs.SubnetChoice
