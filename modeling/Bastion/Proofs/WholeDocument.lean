import Bastion.Proofs.StatusStore

set_option autoImplicit false

namespace Bastion.Status

open Files (Path Tree Disk)
open Program

variable {path : Path} {name : String} {patch merged : Json} {members : List (String × Json)}
  {before after : Disk}

/-- What a patch makes of the text of a file: all of the document, with one status merged. -/
def patchedText (text : Option String) (name : String) (patch : Json) : Option String := do
  let document ← documentOf text
  let document ← (patched document name patch).toOption
  (documentText document).toOption

theorem Patched.text (done : Patched path name patch before after members merged) :
    patchedText (before.tree.read path).toOption name patch =
      some (Json.print .page (.object (Keyed.put members name merged))) := by
  have changed : patched (.object members) name patch =
      .ok (.object (Keyed.put members name merged)) :=
    patched_ok.2 ⟨members, merged, rfl, done.merges, rfl⟩
  have written := documentText_ok.2 ⟨done.fits, rfl⟩
  unfold patchedText
  rw [done.loaded]
  change ((patched (.object members) name patch).toOption >>= _) = _
  rw [changed]
  change (documentText (.object (Keyed.put members name merged))).toOption = _
  rw [written]
  rfl

/-- The file holds the text that it had in the first tree, or all of the new text. -/
def Whole (path : Path) (whole : Option String) (before now : Tree) : Prop :=
  now.textAt? path.spot = before.textAt? path.spot ∨
    ∃ text, whole = some text ∧ now.textAt? path.spot = some text

/-- From the first call to the last the file holds the old text or all of the new one. -/
theorem whole_throughout (journal : Journal) (path : Path) (name : String) (patch : Json)
    (disk : Disk) :
    ((Status.patch path name patch).loggedTo journal).Throughout Disk.handler
      (fun now => Whole path (patchedText (disk.tree.read path).toOption name patch) disk.tree
        now.tree) disk := by
  have rewritten : ∀ {after : Disk}, (∃ members merged,
      Patched path name patch disk after members merged ∧ Tree.Rewritten path
        (Json.print .page (.object (Keyed.put members name merged))) disk.tree after.tree) →
      Whole path (patchedText (disk.tree.read path).toOption name patch) disk.tree after.tree := by
    rintro after ⟨members, merged, done, _⟩
    refine .inr ⟨_, done.text, ?_⟩
    unfold Tree.textAt?
    rw [done.saved.held]
  refine (patch_proceeds_loggedTo journal path name patch disk).mono ?_ ?_ ?_
  · exact fun withheld => .inl withheld.held
  · exact rewritten
  · rintro after (paved | ⟨_, done⟩)
    · exact .inl (paved.grown.textAt? path.spot)
    · exact rewritten done

/-- The one failure that finds the new document in place is the refusal of the line that tells of it. -/
theorem rewritten_of_refused (journal : Journal) (path : Path) (name : String) (patch : Json)
    (disk : Disk) {failure : Failure}
    (failed : (((Status.patch path name patch).loggedTo journal).run Disk.handler disk).result =
      .error failure) :
    let after := (((Status.patch path name patch).loggedTo journal).run Disk.handler disk).state
    Tree.Paved path.parent disk.tree after.tree ∨
      ¬journal.Takes (doneLine path name) ∧ ∃ text,
        patchedText (disk.tree.read path).toOption name patch = some text ∧
        after.tree.read path = .ok text ∧ Tree.Rewritten path text disk.tree after.tree := by
  intro after
  have ends := (patch_proceeds_loggedTo journal path name patch disk).ends
  rcases (ends_iff.1 ends).2 failure after (Prod.ext failed rfl) with paved | ⟨refused, done⟩
  · exact .inl paved
  · obtain ⟨members, merged, patched, rewritten⟩ := done
    exact .inr ⟨refused, _, patched.text, patched.saved.read, rewritten⟩

/-- A call of `patch_status` fails and leaves every file as it was, or is read back as a whole with all
other files as they were, so long as the line that it logs at its end is not refused. In between, whatever
may fail, the file holds the one text or the other, and no other text is written to it but by one step that
replaces it. -/
theorem patch_all_or_nothing (journal : Journal) (path : Path) (name : String) (patch : Json)
    (disk : Disk) :
    let program := (Status.patch path name patch).loggedTo journal
    let run := program.run Disk.handler disk
    let whole := patchedText (disk.tree.read path).toOption name patch
    (match run.result with
      | .error _ => journal.Takes (doneLine path name) →
        run.state.tree.textAt? path.spot = disk.tree.textAt? path.spot ∧
          Tree.Paved path.parent disk.tree run.state.tree
      | .ok _ => ∃ text, whole = some text ∧ run.state.tree.read path = .ok text ∧
          Tree.Rewritten path text disk.tree run.state.tree) ∧
    (∀ early later, program.transcript Disk.handler disk = early ++ later →
      Whole path whole disk.tree (Disk.handler.follow disk early).tree) ∧
    ∀ target text, .write target text ∈ run.calls → target.spot ≠ path.spot := by
  intro program run whole
  have proceeds := patch_proceeds_loggedTo journal path name patch disk
  refine ⟨?_, fun early later said => ?_, fun target text made => ?_⟩
  · cases ended : run.result with
    | error failure =>
      intro taken
      rcases rewritten_of_refused journal path name patch disk ended with paved | ⟨refused, _⟩
      · exact ⟨paved.grown.textAt? path.spot, paved⟩
      · exact absurd taken refused
    | ok value =>
      obtain ⟨members, merged, done, rewritten⟩ :=
        (ends_iff.1 proceeds.ends).1 value _ (returns_of_ok ended)
      exact ⟨_, done.text, done.saved.read, rewritten⟩
  · exact (whole_throughout journal path name patch disk).moment said
  · obtain ⟨now, withheld⟩ := proceeds.fits_of_mem made
    exact withheld.beside rfl

/-- A disk with no statuses in the file, of which the medium fails after three characters. -/
def failingDisk : Disk :=
  ⟨Tree.empty.put (Path.ofString "status.json").spot (.file "\x7b\x7d"), some ⟨3, "disk full"⟩⟩

def failingRun : Run Files.signature Disk Unit :=
  ((Status.patch (.ofString "status.json") "bastion-1"
    (.object [("phase", .string "Ready")])).loggedTo .tagless).run Disk.handler failingDisk

theorem patch_all_or_nothing_failing :
    Journal.tagless.Takes (doneLine (.ofString "status.json") "bastion-1") ∧
      (∃ failure, failingRun.result = .error failure) ∧
      failingRun.state.tree.textAt? (Path.ofString "status.json").spot = some "\x7b\x7d" := by
  have taken : Journal.tagless.Takes (doneLine (.ofString "status.json") "bastion-1") := by
    change _ = none
    decide +kernel
  have failed : failingRun.result.isOk = false := by decide +kernel
  obtain ⟨ending, _⟩ := patch_all_or_nothing .tagless (.ofString "status.json") "bastion-1"
    (.object [("phase", .string "Ready")]) failingDisk
  cases result : failingRun.result with
  | ok value =>
    rw [result] at failed
    cases failed
  | error failure =>
    unfold failingRun at result
    simp only [result] at ending
    exact ⟨taken, ⟨failure, rfl⟩, (ending taken).1.trans (by decide +kernel)⟩

end Bastion.Status
