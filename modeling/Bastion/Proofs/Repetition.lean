import Bastion.Proofs.Landscape
import Bastion.Proofs.Standing

set_option autoImplicit false

namespace Bastion.Compute.Account

open Program

variable {account : Account} {world : Service} {request : Request}

theorem reports_lookupGroup (name operation resource : String) :
    account.Reports world ((Pass.lookupGroup name).during operation resource)
      ((world.firewall? name).map groupOf) := by
  have answers : Answers world (account.carryOut (.lookupGroup name))
      ((world.firewall? name).map groupOf) := by
    have steady := (account.methodical_lookupGroup False name).steady
    refine answers_of_makes steady fun service faultless same => ?_
    rw [← Service.firewall?_of_stock same]
    exact lookupGroup_of_faultless account faultless name
  exact reports_cloud answers _ _

theorem answers_lookupInstance (name : String) :
    Answers world (account.carryOut (.lookupInstance name))
      ((world.machine? name).map Machine.toInstance) := by
  have made : (account.lookupInstance name).Makes Service.Steady :=
    makes_bind (account.methodical_findMachine False _).steady fun _ => trivial
  refine answers_of_makes made fun service faultless same => ?_
  rw [← Service.machine?_of_stock same, ← instanceOf?_eq]
  exact lookupInstance_of_faultless account faultless name

theorem reports_lookupInstance (name operation resource : String) :
    account.Reports world ((Pass.lookupInstance name).during operation resource)
      ((world.machine? name).map Machine.toInstance) :=
  reports_cloud (answers_lookupInstance name) _ _

theorem reports_ensureGroup {name network : String} {anchor : Firewall}
    (held : world.firewall? name = some anchor) :
    account.Reports world (Pass.ensureGroup name network) (toString anchor.id) := by
  refine reports_bind (reports_lookupGroup name _ _) ?_
  have own : ((world.firewall? name).map groupOf).filter (·.name = name) = some (groupOf anchor) := by
    rw [held]
    exact Option.filter_some_pos (decide_eq_true (Service.mem_of_firewall? held).2)
  rw [own]
  exact reports_log _ (reports_pure _)

theorem reports_ensureInstance {spec : Cloud.InstanceSpec} {machine : Machine}
    (held : world.machine? spec.name = some machine) :
    account.Reports world (Pass.ensureInstance spec) (toString machine.id) := by
  refine reports_bind (reports_lookupInstance spec.name _ _) ?_
  have own : ((world.machine? spec.name).map Machine.toInstance).filter (·.name = spec.name) =
      some machine.toInstance := by
    rw [held]
    exact Option.filter_some_pos (decide_eq_true (Service.mem_of_machine? held).2)
  rw [own]
  exact reports_pure _

theorem reports_checkInstance {name : String} {machine : Machine}
    (held : world.machine? name = some machine) (running : machine.toInstance.status = .running) :
    account.Reports world (Pass.checkInstance name) none := by
  refine reports_bind (reports_lookupInstance name _ _) ?_
  rw [held]
  change account.Reports world (pure (if machine.toInstance.status = .running then none else _)) none
  rw [if_pos running]
  exact reports_pure none

theorem reports_instanceEndpoints {name : String} {address : Json} {machine : Machine}
    {endpoints : Endpoints} (held : world.machine? name = some machine)
    (made : Pass.endpointsOf name machine.toInstance address = .ok endpoints) :
    account.Reports world (Pass.instanceEndpoints name address) endpoints := by
  refine reports_bind (reports_lookupInstance name _ _) ?_
  rw [held]
  change account.Reports world (ofExcept (Pass.endpointsOf name machine.toInstance address)) endpoints
  rw [made]
  exact reports_pure endpoints

/-- Where the wanted keys are held nothing is created and nothing is revoked. -/
theorem reports_settle {group : String} {anchor : Firewall} {direction : Direction}
    {wanted : List Rule} (held : anchorIn? world.firewalls group = some anchor)
    (same : Rule.keySet (rulesOf anchor direction world.firewalls) = Rule.keySet wanted) :
    account.Reports world (Pass.settle direction group wanted) () := by
  have described : account.Reports world (Pass.currentRules group direction)
      (rulesOf anchor direction world.firewalls) := by
    have answers : Answers world (account.carryOut (.describeRules group direction))
        (some (rulesOf anchor direction world.firewalls)) := by
      have steady := (account.methodical_describeRules False group direction).steady
      refine answers_map (answers_of_makes steady fun service faultless stocked => ?_) some
      rw [← Service.firewalls_of_stock stocked] at held ⊢
      exact describeRules_of_faultless account faultless held direction
    exact reports_bind (reports_cloud answers _ _) (reports_pure _)
  refine reports_bind described ?_
  unfold Pass.applyDiff
  simp only [Rule.diff_of_keySet_eq same]
  exact reports_pure ()

theorem reports_reconcileRules {group : String} {anchor : Firewall} {wanted : List Rule}
    (held : anchorIn? world.firewalls group = some anchor)
    (told : wantedIn? request world .egress = some wanted)
    (ingress : Rule.keySet (rulesOf anchor .ingress world.firewalls) =
      Rule.keySet (Rule.wantedIngress request.ingress))
    (egress : Rule.keySet (rulesOf anchor .egress world.firewalls) = Rule.keySet wanted) :
    account.Reports world (Pass.reconcileRules request group) () := by
  obtain ⟨workload, present, rest⟩ := Option.bind_eq_some_iff.1 told
  obtain ⟨address, located, rfl⟩ := Option.map_eq_some_iff.1 rest
  rw [instanceOf?_eq] at located
  rw [Pass.reconcileRules_eq]
  refine reports_bind (reports_settle held ingress) ?_
  have grouped : account.Reports world (Pass.workloadGroup request.options.workloadGroupName)
      (groupOf workload) := by
    refine reports_bind (reports_lookupGroup _ _ _) ?_
    rw [present]
    exact reports_pure _
  have addressed : account.Reports world (Pass.privateAddress request.options.instanceName)
      address := by
    refine reports_bind (reports_lookupInstance _ _ _) ?_
    rw [located]
    exact reports_pure _
  exact reports_bind grouped (reports_bind addressed (reports_settle held egress))

theorem answers_allocateAddress {name address : String} {machine : Machine} (tidy : world.Tidy)
    (held : world.machine? name = some machine)
    (told : machine.toInstance.publicAddress = some address) :
    Answers world (account.allocateAddress (toString machine.id)) (some address) := by
  have found : Answers world (account.findMachine (.identified (toString machine.id)))
      (some machine) := by
    have methodical := account.methodical_findMachine False (.identified (toString machine.id))
    refine answers_of_makes methodical.steady fun service faultless same => ?_
    have machines := Service.machines_of_stock same
    rw [← tidy.identified_of_mem (Service.mem_of_machine? held).1, ← machines]
    exact findMachine_of_faultless account faultless _
  refine answers_bind found ?_
  obtain ⟨id, own, status, interfaces⟩ := machine
  cases interfaces with
  | nil => cases told
  | cons first rest =>
    obtain ⟨label, inner, addresses⟩ := first
    cases addresses with
    | nil => cases told
    | cons nat others =>
      rw [← told]
      exact answers_pure _

variable {before after : Site Service} {endpoints : Endpoints}

theorem reports_approachRunning {anchor : Firewall} {machine : Machine} {address : String}
    (standing : Standing request endpoints anchor machine address world) :
    account.Reports world
      (Pass.approachRunning request (toString anchor.id) (toString machine.id)) (.ready endpoints) := by
  obtain ⟨wanted, told, ingress, egress⟩ := standing.rules
  have held := standing.tidy.anchorIn?_of_mem (Service.mem_of_firewall? standing.group).1
  have answers : Answers world (account.carryOut (.allocateAddress (toString machine.id)))
      (.string address) :=
    answers_map (answers_allocateAddress standing.tidy standing.instance_ standing.told) Json.ofString?
  refine reports_bind (reports_reconcileRules held told ingress egress)
    (reports_bind (reports_cloud answers _ _)
      (reports_bind (reports_instanceEndpoints standing.instance_ standing.make) ?_))
  rw [Pass.checkEndpoints_none.2 standing.ready]
  exact reports_pure _

theorem returns_checkInstance {name : String} {requeue : Option Pass.Requeue}
    (returned : (Pass.checkInstance name).Returns (Site.handler account.serve) before requeue after) :
    after.world.stock = before.world.stock := by
  obtain ⟨found, between, looked, rest⟩ := returns_bind.1 returned
  obtain ⟨_, same⟩ := returns_lookupInstance (returns_cloud (returns_during.1 looked))
  cases found with
  | none => exact (returns_fail.1 rest).elim
  | some found =>
    obtain ⟨_, rfl⟩ := returns_pure.1 rest
    exact same

/-- Unless it has revoked the workload group itself, an approach that was ready is ready again, by calls
that only ask. -/
theorem approach_again (tidy : before.world.Tidy)
    (returned : (Pass.approach request).Returns (Site.handler account.serve) before (.ready endpoints)
      after)
    (workload : (after.world.firewall? request.options.workloadGroupName).isSome) :
    account.Reports after.world (Pass.approach request) (.ready endpoints) := by
  have landscape := landscape_site returned
  obtain ⟨_, started, logged, rest⟩ := returns_bind.1 returned
  obtain rfl := returns_debug.1 logged
  obtain ⟨image, imaged, imaging, rest⟩ := returns_bind.1 rest
  obtain ⟨place, placed, placing, rest⟩ := returns_bind.1 rest
  obtain ⟨type, typed, typing, rest⟩ := returns_bind.1 rest
  obtain ⟨group, grouped, grouping, rest⟩ := returns_bind.1 rest
  obtain ⟨instanceId, ensured, ensuring, rest⟩ := returns_bind.1 rest
  obtain ⟨requeue, checked, checking, running⟩ := returns_bind.1 rest
  cases requeue with
  | some requeue => cases (returns_pure.1 running).1
  | none =>
    obtain ⟨anchor, held, rfl⟩ := returns_ensureGroup grouping
    obtain ⟨⟨machine, found, rfl⟩, firewalls⟩ := returns_ensureInstance ensuring
    have same := returns_checkInstance checking
    have tidyEnsured := tidy_site (tidy_site (tidy_site (tidy_site (tidy_site tidy imaging) placing)
      typing) grouping) ensuring
    have heldChecked : checked.world.firewall? request.options.groupName = some anchor := by
      rw [Service.firewall?_of_stock same]
      unfold Service.firewall?
      rw [firewalls]
      exact held
    have foundChecked : checked.world.machine? request.options.instanceName = some machine :=
      (Service.machine?_of_stock same _).trans found
    obtain ⟨now, address, standing⟩ :=
      standing_of_running (tidyEnsured.of_stock same) heldChecked foundChecked running workload
    -- The landscape is that of the first steps, so these tell what they told.
    have reached := landscape.trans (landscape_site imaging).symm
    have located := reached.trans (landscape_site placing).symm
    refine reports_bind (reports_log _ (reports_pure ()))
      (reports_bind (scouts_imageOf request imaging landscape)
        (reports_bind (scouts_resolveNetwork _ placing reached)
          (reports_bind (scouts_resolveInstanceType _ _ _ typing located)
            (reports_bind (reports_ensureGroup standing.group)
              (reports_bind (reports_ensureInstance standing.instance_)
                (reports_bind (reports_checkInstance standing.instance_ ?_)
                  (reports_approachRunning standing)))))))
    exact (Pass.endpointsOf_ok standing.make standing.ready).1

end Bastion.Compute.Account
