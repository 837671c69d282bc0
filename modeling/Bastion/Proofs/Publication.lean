import Bastion.Proofs.FailStop
import Bastion.Proofs.MergedIngress
import Bastion.Proofs.StatusStore

set_option autoImplicit false

namespace Bastion

variable {κ : Type}

/-- The text of the file at the spot of the statuses, none where no file is. -/
def Site.storedText? (site : Site κ) : Option String :=
  site.disk.tree.textAt? site.statusPath.spot

/-- A world that differs in nothing but the cloud. -/
structure Site.Aside (before after : Site κ) : Prop where
  disk : after.disk = before.disk
  statusPath : after.statusPath = before.statusPath
  writerFaults : after.writerFaults = before.writerFaults

theorem Site.patchStatusTo_cases (journal : Journal) (site : Site κ) (name : String) (patch : Json) :
    (∃ failure, (site.patchStatusTo journal name patch).answer = .error failure ∧
      (site.patchStatusTo journal name patch).state =
        { site with writerFaults := site.writerFaults.tail }) ∨
    (site.patchStatusTo journal name patch).answer =
        (((Status.patch site.statusPath name patch).loggedTo journal).run Files.Disk.handler
          site.disk).result ∧
      (site.patchStatusTo journal name patch).state =
        { site with
          disk := (((Status.patch site.statusPath name patch).loggedTo journal).run
            Files.Disk.handler site.disk).state
          writerFaults := site.writerFaults.tail } := by
  unfold patchStatusTo
  split
  · rename_i failure rest faults
    refine .inl ⟨failure, rfl, ?_⟩
    rw [faults]
    rfl
  · exact .inr ⟨rfl, rfl⟩

theorem Site.world_patchStatus (site : Site κ) (name : String) (patch : Json) :
    (site.patchStatus name patch).state.world = site.world := by
  unfold patchStatus patchStatusTo
  split <;> rfl

theorem Site.answer_patchStatus (site : Site κ) (world : κ) (name : String) (patch : Json) :
    ({ site with world := world }.patchStatus name patch).answer =
      (site.patchStatus name patch).answer := by
  obtain ⟨_, disk, statusPath, faults⟩ := site
  rcases faults with _ | ⟨_ | failure, rest⟩ <;> rfl

namespace Pass

open Program
open Cloud (Instance)
open Status (Patched documentOf entryOf)

variable (journal : Journal) (inner : Handler Cloud.signature κ)

theorem ends_beside {α : Type} {program : PassProgram α} (makes : program.Makes BesideStatus)
    (site : Site κ) :
    program.Ends (Site.handlerTo journal inner) site (fun _ => Site.Aside site) (Site.Aside site) := by
  refine ends_of_state (run_preserves (Site.Aside site) ?_ makes ⟨rfl, rfl, rfl⟩)
  rintro _ state ⟨call, _, rfl⟩ aside
  exact ⟨aside.disk, aside.statusPath, aside.writerFaults⟩

/-- The path stays, and the text of the file there. -/
def Untouched (before after : Site κ) : Prop :=
  after.statusPath = before.statusPath ∧ after.storedText? = before.storedText?

theorem Untouched.trans {first second third : Site κ} (former : Untouched first second)
    (later : Untouched second third) : Untouched first third :=
  ⟨later.1.trans former.1, later.2.trans former.2⟩

/-- The status of that name was merged with the patch, and the document is in the file. -/
def PatchesFile (name : String) (patch : Json) (before after : Site κ) : Prop :=
  after.statusPath = before.statusPath ∧ ∃ members merged,
    Patched before.statusPath name patch before.disk after.disk members merged

/-- Where a patch fails the file is as it was, unless the journal has refused to tell that it was done. -/
theorem patchStatus_ends (name : String) (patch : Json) (site : Site κ) :
    (patchStatus name patch).Ends (Site.handlerTo journal inner) site
      (fun _ => PatchesFile name patch site)
      (fun after => Untouched site after ∨
        (∃ line, ¬journal.Takes line) ∧ PatchesFile name patch site after) := by
  unfold patchStatus
  rw [ends_perform]
  simp only [Site.handlerTo]
  rcases site.patchStatusTo_cases journal name patch with
    ⟨failure, answered, state⟩ | ⟨answered, state⟩
  · rw [answered, state]
    exact .inl ⟨rfl, rfl⟩
  · rw [answered, state]
    have ends := (Status.patch_proceeds_loggedTo journal site.statusPath name patch site.disk).ends
    unfold Ends Run.outcome at ends
    cases result : (((Status.patch site.statusPath name patch).loggedTo journal).run
        Files.Disk.handler site.disk).result with
    | error failure =>
      rw [result] at ends
      rcases ends with paved | ⟨refused, members, merged, patched, _⟩
      · have kept := paved.grown.textAt? site.statusPath.spot
        exact .inl ⟨rfl, kept⟩
      · exact .inr ⟨⟨_, refused⟩, rfl, members, merged, patched⟩
    | ok value =>
      rw [result] at ends
      obtain ⟨members, merged, patched, _⟩ := ends
      dsimp only [PatchesFile]
      exact ⟨rfl, members, merged, patched⟩

def publishedPatch (endpoints : Endpoints) : Json :=
  .object [("ingress", (endpoints.outer.map Endpoint.toJson).getD .null)]

/-- What is logged of endpoints that were published. -/
def publishedLine (name : String) (endpoints : Endpoints) : LogLine :=
  ⟨.info, s!"Published endpoint of bastion {name}: {publishedText endpoints.outer}"⟩

theorem announce_ready_ends (name : String) (endpoints : Endpoints) (site : Site κ) :
    ((announce name (.ready endpoints)).loggedTo journal).Ends (Site.handlerTo journal inner) site
      (fun outcome after => outcome = .succeeded endpoints ∧
        PatchesFile name (publishedPatch endpoints) site after ∧
        ((announce name (.ready endpoints)).loggedTo journal).transcript
          (Site.handlerTo journal inner) site =
            [⟨.patchStatus name (publishedPatch endpoints), .ok ()⟩])
      (fun after => Untouched site after ∨
        (∃ line, ¬journal.Takes line) ∧ PatchesFile name (publishedPatch endpoints) site after) := by
  have patches := ends_iff.1
    (patchStatus_ends journal inner name (publishedPatch endpoints) site)
  have written : (announce name (.ready endpoints)).loggedTo journal =
      (patchStatus name (publishedPatch endpoints)).during "publish status of bastion" name >>=
        fun _ => .log (publishedLine name endpoints) fun _ =>
          (.ofExcept (journal.take (publishedLine name endpoints)) : PassProgram Unit) >>=
            fun _ => pure (.succeeded endpoints) := by
    unfold announce publish
    simp only [loggedTo_bind, loggedTo_during]
    rw [Program.bind_assoc]
    refine congrArg₂ _ (congrArg _ (loggedTo_perform (S := signature) _)) (funext fun _ => ?_)
    refine congrArg (Program.log _) (funext fun _ => ?_)
    change ((Program.ofExcept _).loggedTo journal).bind _ = _
    rw [loggedTo_ofExcept]
    rfl
  rw [written]
  refine ends_bind.2 (ends_during.2 (ends_iff.2 ⟨fun _ after returned => ?_, patches.2⟩))
  have published := patches.1 () after returned
  rw [transcript_bind_of_returns (returns_during.2 returned), transcript_during]
  change ((Program.ofExcept _ : PassProgram Unit) >>= _).Ends _ _ _ _
  cases answered : journal.take (publishedLine name endpoints) with
  | ok value =>
    refine ⟨rfl, published, ?_⟩
    exact congrArg (· ++ []) (transcript_perform_of_returns returned)
  | error failure =>
    obtain ⟨message, refused, _⟩ := Journal.take_error.1 answered
    refine .inr ⟨⟨publishedLine name endpoints, fun taken => ?_⟩, published⟩
    cases refused.symm.trans taken

theorem returns_announce_ready {name : String} {endpoints : Endpoints} {outcome : Outcome}
    {before after : Site κ}
    (returned : (announce name (.ready endpoints)).Returns (Site.handler inner) before outcome after) :
    outcome = .succeeded endpoints ∧ PatchesFile name (publishedPatch endpoints) before after := by
  have ends := ends_iff.1 (announce_ready_ends .silent inner name endpoints before)
  obtain ⟨succeeded, patches, _⟩ := ends.1 outcome after
    ((congrArg Run.outcome (run_silent _ before)).trans returned)
  exact ⟨succeeded, patches⟩

theorem ofJson?_valid {address : Json} {outer : Option Endpoint}
    (valid : Endpoint.ofJson? .null address = .valid outer) :
    outer = none ∨ ∃ text, address = .string text ∧ outer = some ⟨none, some text⟩ := by
  cases address with
  | null => exact .inl (Checked.valid.inj valid).symm
  | string text => exact .inr ⟨text, rfl, (Checked.valid.inj valid).symm⟩
  | _ => cases valid

theorem endpointsOf_ok {name : String} {found : Instance} {address : Json} {endpoints : Endpoints}
    (made : endpointsOf name found address = .ok endpoints) (ready : endpoints.ready = true) :
    found.status = .running ∧ (∃ ip, found.privateAddresses.head? = some ip ∧
      endpoints.inner = some ⟨none, some ip⟩) ∧
    ∃ text, address = .string text ∧ text ≠ "" ∧ endpoints.outer = some ⟨none, some text⟩ := by
  unfold endpointsOf at made
  split at made
  · cases made
  · rename_i running
    split at made
    · cases made
    · rename_i ip located
      split at made
      · cases made
      · rename_i outer valid
        obtain rfl := Except.ok.inj made
        refine ⟨not_not.1 running, ⟨ip, located, rfl⟩, ?_⟩
        obtain ⟨_, open_⟩ := Bool.and_eq_true_iff.1 ready
        rcases ofJson?_valid valid with rfl | ⟨text, rfl, rfl⟩
        · cases open_
        · refine ⟨text, rfl, ?_, rfl⟩
          rintro rfl
          cases open_

theorem publishedPatch_eq {endpoints : Endpoints} {address : String}
    (outer : endpoints.outer = some ⟨none, some address⟩) :
    publishedPatch endpoints = Json.ingressPatch address := by
  unfold publishedPatch
  rw [outer]
  rfl

theorem settled_entryOf {members : List (String × Json)}
    (settled : (Json.object members).settled = .object members) (name : String) :
    (entryOf members name).settled = entryOf members name := by
  unfold entryOf
  cases held : Keyed.get? members name with
  | none => rfl
  | some entry => exact Json.settled_member settled name entry held

end Pass

end Bastion
