import Bastion.CommandLine.Report
import Bastion.Proofs.Repetition
import Bastion.Proofs.PatchRepeated

set_option autoImplicit false

namespace Bastion

open Program
open Status (Patched documentOf entryOf)

namespace Pass

variable {κ : Type} (inner : Handler Cloud.signature κ)

def Patches (op : signature.Op) : Prop := ∃ name patch, op = .patchStatus name patch

theorem makes_announce (name : String) (ending : Approach) :
    (announce name ending).Makes Patches := by
  cases ending with
  | requeue requeue => exact makes_bind (makes_info _) fun _ => trivial
  | ready endpoints =>
    have patches : Patches (.patchStatus name (publishedPatch endpoints)) := ⟨_, _, rfl⟩
    have publishes : (publish name endpoints).Makes Patches :=
      makes_bind (makes_during (makes_perform patches)) fun _ => makes_info _
    exact makes_bind publishes fun _ => trivial

theorem world_announce {name : String} {ending : Approach} {outcome : Outcome}
    {before after : Site κ}
    (returned : (announce name ending).Returns (Site.handler inner) before outcome after) :
    after.world = before.world := by
  rw [← (outcome_of_returns returned).2]
  refine run_preserves (fun site : Site κ => site.world = before.world) ?_ (makes_announce name ending)
    rfl
  rintro _ site ⟨name, patch, rfl⟩ same
  exact (site.world_patchStatus name patch).trans same

theorem patchStatus_of_quiet (site : Site κ) (quiet : ∀ fault ∈ site.writerFaults, fault = none)
    {name : String} {patch : Json} {disk : Files.Disk}
    (patches : (Status.patch site.statusPath name patch).Returns Files.Disk.handler site.disk () disk) :
    (patchStatus name patch).Returns (Site.handler inner) site ()
      { site with disk := disk, writerFaults := site.writerFaults.tail } := by
  obtain ⟨answered, rfl⟩ := outcome_of_returns patches
  refine returns_perform.2 ?_
  change (site.patchStatus name patch).answer = .ok () ∧ (site.patchStatus name patch).state = _
  unfold Site.patchStatus Site.patchStatusTo
  split
  · rename_i failure rest faults
    have clear := quiet (some failure) (faults ▸ List.mem_cons_self)
    cases clear
  · rw [run_silent]
    exact ⟨answered, rfl⟩

/-- A pass that succeeded has announced the endpoints that it found ready. -/
theorem announced_of_succeeded {request : Request} {endpoints : Endpoints} {before after : Site κ}
    (succeeded : (reconcile request).Returns (Site.handler inner) before (.succeeded endpoints) after) :
    ∃ between,
      (approach request).Returns (Site.handler inner) before (.ready endpoints) between ∧
      (announce request.bastionName (.ready endpoints)).Returns (Site.handler inner) between
        (.succeeded endpoints) after := by
  rw [reconcile_eq] at succeeded
  obtain ⟨ending, between, approached, announced⟩ := returns_bind.1 succeeded
  refine ⟨between, ?_⟩
  cases ending with
  | requeue requeue =>
    obtain ⟨_, _, _, rest⟩ := returns_bind.1 announced
    cases (returns_pure.1 rest).1
  | ready made =>
    obtain ⟨succeeded, _⟩ := returns_announce_ready inner announced
    obtain rfl := Outcome.succeeded.inj succeeded
    exact ⟨approached, announced⟩

/-- What a pass has published can be patched into the status again, and the file keeps its text. -/
theorem patch_published {request : Request} {endpoints : Endpoints} {before after : Site κ}
    (succeeded : (reconcile request).Returns (Site.handler inner) before (.succeeded endpoints) after)
    (apart : ∀ members, documentOf before.statusText = some (.object members) →
      (entryOf members request.bastionName).WrittenApart) :
    ∃ disk, (Status.patch after.statusPath request.bastionName (publishedPatch endpoints)).Returns
        Files.Disk.handler after.disk () disk ∧
      disk.tree.textAt? after.statusPath.spot = after.storedText? := by
  obtain ⟨between, approached, announced⟩ := announced_of_succeeded inner succeeded
  have aside := (ends_iff.1 (ends_beside .silent inner (makes_approach request) before)).1 _ _ approached
  obtain ⟨_, path, members, merged, patched⟩ := returns_announce_ready inner announced
  obtain ⟨_, _, _, last⟩ := lastWords_of_approach approached
  obtain ⟨_, _, address, _, _, outer⟩ := endpointsOf_ok last.make last.ready
  have found : documentOf before.statusText = some (.object members) := by
    unfold Site.statusText
    rw [← aside.disk, ← aside.statusPath]
    exact patched.loaded
  rw [publishedPatch_eq outer] at patched ⊢
  have settledEntry := settled_entryOf (Status.settled_documentOf patched.loaded) request.bastionName
  have spelled : Json.SpelledApart (entryOf members request.bastionName) ["ingress"] :=
    fun listed lists => ⟨apart members found listed lists,
      (Json.listed_of_entries settledEntry lists).toldByText_ingress⟩
  have lawful : (Json.ingressPatch address).settled = Json.ingressPatch address := rfl
  obtain ⟨once, again⟩ := Json.merged_again settledEntry lawful spelled patched.merges
  unfold Site.storedText?
  rw [path]
  exact Status.patch_again patched once again

end Pass

namespace Compute

/-- Another pass finds what the last one has left: cloud and file are as they were, and no fault is
set. -/
structure Undisturbed (after again : Site Service) : Prop where
  stock : again.world.stock = after.world.stock
  faultless : again.world.Faultless
  disk : again.disk = after.disk
  statusPath : again.statusPath = after.statusPath
  quiet : ∀ fault ∈ again.writerFaults, fault = none

namespace Account

open CommandLine (pass)

variable {account : Account} {before after again : Site Service} {endpoints : Endpoints}

theorem returns_pass {request : Request} {outcome : Pass.Outcome} :
    (pass account request).Returns (Site.handler Service.handler) before outcome after ↔
      (Pass.reconcile request).Returns (Site.handler account.serve) before outcome after :=
  returns_carriedOut

/-- On the cloud that a successful pass has left, a pass only asks, until it patches the same endpoints
into the status, whatever that is by now. Each call of the pass counts as one step here. -/
theorem reconcile_again {request : Request} {disk : Files.Disk} (tidy : before.world.Tidy)
    (succeeded : (Pass.reconcile request).Returns (Site.handler account.serve) before
      (.succeeded endpoints) after)
    (workload : (after.world.firewall? request.options.workloadGroupName).isSome)
    (stock : again.world.stock = after.world.stock) (faultless : again.world.Faultless)
    (quiet : ∀ fault ∈ again.writerFaults, fault = none)
    (patches : (Status.patch again.statusPath request.bastionName
      (Pass.publishedPatch endpoints)).Returns Files.Disk.handler again.disk () disk) :
    ∃ final, (Pass.reconcile request).Returns (Site.handler account.serve) again
        (.succeeded endpoints) final ∧
      (Pass.reconcile request).Along (Site.handler account.serve) (Beside account.Asks) again ∧
      final.world.stock = after.world.stock ∧ final.disk = disk ∧
      final.statusPath = again.statusPath := by
  obtain ⟨between, approached, announced⟩ := Pass.announced_of_succeeded account.serve succeeded
  -- The patch was no call to the cloud, which is thus as the approach has left it.
  have world := Pass.world_announce account.serve announced
  rw [world] at workload
  obtain ⟨left, told, stays, asks⟩ := approach_again tidy approached workload again faultless
    (stock.trans (congrArg Service.stock world))
  let second : Site Service := { again with world := left }
  let final : Site Service := { second with disk := disk, writerFaults := again.writerFaults.tail }
  have patched : (Pass.patchStatus request.bastionName (Pass.publishedPatch endpoints)).Returns
      (Site.handler account.serve) second () final :=
    Pass.patchStatus_of_quiet account.serve second quiet patches
  have published : (Pass.publish request.bastionName endpoints).Returns (Site.handler account.serve)
      second () final :=
    (returns_during.2 patched).bind (returns_info.2 rfl)
  have announcedAgain : (Pass.announce request.bastionName (.ready endpoints)).Returns
      (Site.handler account.serve) second (.succeeded endpoints) final :=
    published.bind (returns_done _ final)
  have patching : (Pass.announce request.bastionName (.ready endpoints)).Along
      (Site.handler account.serve) (Beside account.Asks) second := by
    refine along_of_makes (Pass.makes_announce _ _) ?_ second
    rintro _ _ ⟨_, _, rfl⟩
    trivial
  rw [Pass.reconcile_eq]
  refine ⟨final, told.bind announcedAgain,
    (along_bind_of_returns told).2 ⟨asks, patching⟩, ?_, rfl, rfl⟩
  rw [world]
  exact stays

theorem asks_of_along {request : Request} {site : Site Service}
    (along : (Pass.reconcile request).Along (Site.handler account.serve) (Beside account.Asks) site) :
    ∀ project asked,
      .other (.service project asked) ∈ ((pass account request).run (Site.handler Service.handler)
        site).calls → asked.mutates = false := by
  have carried : (pass account request).Along (Site.handler Service.handler)
      (Beside fun op _ => Service.Steady op) site :=
    along_callsBesideStatusBy (S := Cloud.signature) (T := signature) account.carryOut
      Service.handler along
  have steady : ∀ op ∈ ((pass account request).run (Site.handler Service.handler) site).calls,
      ∀ project asked, op = .other (.service project asked) → asked.mutates = false := by
    refine calls_of_along carried ?_
    rintro _ _ fits project asked rfl
    exact fits
  exact fun project asked member => steady _ member project asked rfl

/-- A pass of `reconcile` that has succeeded succeeds again with the same endpoints, by calls that change
nothing, and leaves the status file as it is: provided that it has not revoked the workload group itself,
and that no two members that the status of the bastion had or listed were written alike. -/
theorem second_pass_changes_nothing (account : Account) (request : Request)
    (tidy : before.world.Tidy)
    (succeeded : (pass account request).Returns (Site.handler Service.handler) before
      (.succeeded endpoints) after)
    (workload : (after.world.firewall? request.options.workloadGroupName).isSome)
    (apart : ∀ members, documentOf before.statusText = some (.object members) →
      (entryOf members request.bastionName).WrittenApart)
    (undisturbed : Undisturbed after again) :
    let run := (pass account request).run (Site.handler Service.handler) again
    run.result = .ok (.succeeded endpoints) ∧
      (∀ project asked, .other (.service project asked) ∈ run.calls → asked.mutates = false) ∧
      run.state.world.stock = after.world.stock ∧
      run.state.storedText? = after.storedText? := by
  have reconciled := returns_pass.1 succeeded
  obtain ⟨disk, patches, kept⟩ := Pass.patch_published account.serve reconciled apart
  rw [← undisturbed.disk, ← undisturbed.statusPath] at patches
  obtain ⟨final, returned, along, stock, sameDisk, samePath⟩ := reconcile_again tidy reconciled
    workload undisturbed.stock undisturbed.faultless undisturbed.quiet patches
  obtain ⟨result, rfl⟩ := outcome_of_returns (returns_pass.2 returned)
  rw [← sameDisk, ← undisturbed.statusPath, ← samePath] at kept
  exact ⟨result, asks_of_along along, stock, kept⟩

/-- The network of an office where nothing stands but these firewalls. -/
def newOffice (firewalls : List Firewall) : Site Service :=
  let service : Service :=
    { officeService [] with
      firewalls := firewalls
      machines := []
      networks :=
        [⟨"shoot-vpc", "networks/shoot-vpc", ["projects/project-1/regions/region-1/subnetworks/nodes"]⟩]
      machineTypes := [⟨"small", 1, 1024, none⟩]
      natAddress := "198.51.100.7"
      newStatus := "RUNNING" }
  { officeSite [] with world := service }

def officeEndpoints : Endpoints :=
  ⟨some ⟨none, some "10.0.0.5"⟩, some ⟨none, some "198.51.100.7"⟩⟩

abbrev officePass : Program signature.withStatus Pass.Outcome := pass officeAccount Pass.officeRequest

/-- What a pass at a site of the office leaves. -/
def builtBy (site : Site Service) : Site Service :=
  (officePass.run (Site.handler Service.handler) site).state

/-- A pass at a site of the office succeeds, and no fault is left. -/
def Built (site : Site Service) : Prop :=
  (officePass.run (Site.handler Service.handler) site).result = .ok (.succeeded officeEndpoints) ∧
    (builtBy site).world.faults = [] ∧ (builtBy site).writerFaults = []

instance (site : Site Service) : Decidable (Built site) := inferInstanceAs (Decidable (_ ∧ _))

theorem Built.undisturbed {site : Site Service} (built : Built site) :
    Undisturbed (builtBy site) (builtBy site) := by
  obtain ⟨_, faults, writerFaults⟩ := built
  refine ⟨rfl, ?_, rfl, rfl, ?_⟩
  · rw [Service.Faultless, faults]
    exact nofun
  · rw [writerFaults]
    exact nofun

theorem Built.returns {site : Site Service} (built : Built site) :
    officePass.Returns (Site.handler Service.handler) site (.succeeded officeEndpoints)
      (builtBy site) :=
  returns_of_ok built.1

theorem newOffice_built : Built (newOffice [officeWorkload]) ∧
    ((builtBy (newOffice [officeWorkload])).world.firewall? "shoot-sg").isSome := by
  decide +kernel

theorem newOffice_tidy : (newOffice [officeWorkload]).world.Tidy :=
  ⟨⟨by decide, rfl⟩, ⟨by decide, by decide⟩, ⟨by decide, by decide⟩⟩

theorem second_pass_at_new_office : ∃ after,
    officePass.Returns (Site.handler Service.handler) (newOffice [officeWorkload])
      (.succeeded officeEndpoints) after ∧
    let run := officePass.run (Site.handler Service.handler) after
    run.result = .ok (.succeeded officeEndpoints) ∧
      (∀ project asked, .other (.service project asked) ∈ run.calls → asked.mutates = false) ∧
      run.state.world.stock = after.world.stock ∧
      run.state.storedText? = after.storedText? := by
  obtain ⟨built, workload⟩ := newOffice_built
  have unwritten : documentOf (newOffice [officeWorkload]).statusText = some (.object []) := by
    decide +kernel
  refine ⟨_, built.returns, second_pass_changes_nothing officeAccount Pass.officeRequest newOffice_tidy
    built.returns workload (fun members told listed entries => ?_) built.undisturbed⟩
  obtain rfl : [] = members := Json.object.inj (Option.some.inj (unwritten.symm.trans told))
  obtain rfl := Except.ok.inj entries
  exact List.nodup_nil

/-- An office whose workload group is held by a firewall that also lets the bastion out. -/
def sharedOffice : Site Service :=
  newOffice
    [officeAnchor,
      { officeFirewall "way-in" 11 (Rule.allowSsh Pass.officeBlock) with
        description := "made by hand" },
      { anchorSpec "shoot-vpc" "shoot-sg" with
        id := 2
        direction := "EGRESS"
        description := "nodes"
        targetTags := ["bastion-1"]
        sourceRanges := []
        destinationRanges := ["10.0.0.0/16"]
        allowed := [⟨"tcp", ["22"]⟩]
        denied := [] }]

/-- A status file where the status of the bastion lists two members that are both written 1. -/
def crowdedDisk : Files.Disk :=
  let text := "\x7b\"bastion-1\": [[1, 2], [\"1\", 3]]\x7d"
  .ofTree (Files.Tree.empty.put (Files.Path.ofString "status.json").spot (.file text))

/-- What the site has beside its disk, beside that file. -/
def crowded (site : Site Service) : Site Service :=
  { site with
    disk := crowdedDisk
    statusPath := .ofString "status.json" }

/-- A disk with the endpoints of the bastion published. -/
def publishedOn (disk : Files.Disk) : Run Files.signature Files.Disk Unit :=
  (Status.patch (.ofString "status.json") "bastion-1" (Pass.publishedPatch officeEndpoints)).run
    Files.Disk.handler disk

theorem crowdedDisk_rewritten :
    let once := publishedOn crowdedDisk
    let twice := publishedOn once.state
    let path := Files.Path.ofString "status.json"
    once.result = .ok () ∧ twice.result = .ok () ∧
      twice.state.tree.textAt? path.spot ≠ once.state.tree.textAt? path.spot := by
  decide +kernel

theorem office_again {before site again : Site Service} (tidy : before.world.Tidy)
    (succeeded : (Pass.reconcile Pass.officeRequest).Returns (Site.handler officeAccount.serve) before
      (.succeeded officeEndpoints) site)
    (workload : (site.world.firewall? "shoot-sg").isSome)
    (stock : again.world.stock = site.world.stock) (faultless : again.world.Faultless)
    (quiet : ∀ fault ∈ again.writerFaults, fault = none)
    (path : again.statusPath = .ofString "status.json")
    (published : (publishedOn again.disk).result = .ok ()) :
    ∃ after, (Pass.reconcile Pass.officeRequest).Returns (Site.handler officeAccount.serve) again
        (.succeeded officeEndpoints) after ∧
      after.world.stock = site.world.stock ∧ after.disk = (publishedOn again.disk).state ∧
      after.statusPath = .ofString "status.json" := by
  have patches : (Status.patch again.statusPath "bastion-1"
      (Pass.publishedPatch officeEndpoints)).Returns Files.Disk.handler again.disk ()
        (publishedOn again.disk).state := by
    rw [path]
    exact returns_of_ok published
  obtain ⟨after, returned, _, stays, disk, samePath⟩ :=
    reconcile_again tidy succeeded workload stock faultless quiet patches
  exact ⟨after, returned, stays, disk, samePath.trans path⟩

/-- Beside that file a site where a pass has succeeded succeeds twice, with two texts. -/
theorem crowded_rewritten {before site : Site Service} (tidy : before.world.Tidy)
    (first : officePass.Returns (Site.handler Service.handler) before (.succeeded officeEndpoints) site)
    (workload : (site.world.firewall? "shoot-sg").isSome) (clear : Undisturbed site site) :
    (crowded site).world.Tidy ∧ ∃ after again final,
      officePass.Returns (Site.handler Service.handler) (crowded site) (.succeeded officeEndpoints)
        after ∧
      Undisturbed after again ∧
      officePass.Returns (Site.handler Service.handler) again (.succeeded officeEndpoints) final ∧
      final.storedText? ≠ after.storedText? := by
  obtain ⟨once, twice, rewritten⟩ := crowdedDisk_rewritten
  have reconciled := returns_pass.1 first
  have builtTidy : site.world.Tidy := tidy_site tidy reconciled
  have crowdedTidy : (crowded site).world.Tidy := builtTidy
  have same : (crowded site).world.stock = site.world.stock := rfl
  obtain ⟨after, second, stock, disk, path⟩ :=
    office_again tidy reconciled workload same clear.faultless clear.quiet rfl once
  let again : Site Service := { after with world := after.world.stock, writerFaults := [] }
  have undisturbed : Undisturbed after again := ⟨rfl, nofun, rfl, rfl, nofun⟩
  have workloadStays : (after.world.firewall? "shoot-sg").isSome := by
    rw [Service.firewall?_of_stock stock]
    exact workload
  have written : after.disk = (publishedOn crowdedDisk).state := disk
  rw [← written] at twice rewritten
  obtain ⟨final, third, _, diskAgain, pathAgain⟩ := office_again crowdedTidy second workloadStays
    undisturbed.stock undisturbed.faultless undisturbed.quiet path twice
  refine ⟨crowdedTidy, after, again, final, returns_pass.2 second, undisturbed, returns_pass.2 third, ?_⟩
  unfold Site.storedText?
  rw [diskAgain, pathAgain, path]
  exact rewritten

/-- A pass that takes the firewall of the workload group for a rule of its own revokes it, and the next
pass misses that group. Of members that are written alike the next pass keeps the last. -/
theorem second_pass_may_differ :
    (sharedOffice.world.Tidy ∧ ∃ after,
      officePass.Returns (Site.handler Service.handler) sharedOffice (.succeeded officeEndpoints) after ∧
      Undisturbed after after ∧
      (officePass.run (Site.handler Service.handler) after).result =
        .error (.terminal (.workloadGroupMissing "shoot-sg"))) ∧
    ((crowded (builtBy (newOffice [officeWorkload]))).world.Tidy ∧ ∃ after again final,
      officePass.Returns (Site.handler Service.handler)
        (crowded (builtBy (newOffice [officeWorkload]))) (.succeeded officeEndpoints) after ∧
      Undisturbed after again ∧
      officePass.Returns (Site.handler Service.handler) again (.succeeded officeEndpoints) final ∧
      final.storedText? ≠ after.storedText?) := by
  have shared : Built sharedOffice ∧
      (officePass.run (Site.handler Service.handler) (builtBy sharedOffice)).result =
        .error (.terminal (.workloadGroupMissing "shoot-sg")) := by
    decide +kernel
  have tidy : sharedOffice.world.Tidy :=
    ⟨⟨by decide, rfl⟩, ⟨by decide, by decide⟩, ⟨by decide, by decide⟩⟩
  obtain ⟨built, workload⟩ := newOffice_built
  constructor
  · exact ⟨tidy, _, shared.1.returns, shared.1.undisturbed, shared.2⟩
  · exact crowded_rewritten newOffice_tidy built.returns workload built.undisturbed

end Account

end Compute

end Bastion
