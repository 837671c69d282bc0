import Bastion.Proofs.MergedMembers
import Bastion.Proofs.StatusAgain

set_option autoImplicit false

namespace Bastion

namespace Status

open Files (Path Disk)
open Program

variable {path : Path} {disk before after : Disk} {members : List (String × Json)}

/-- Statuses by name: each is an object, and no name comes twice, nor one in them. -/
structure Statuses (members : List (String × Json)) : Prop where
  settled : (Json.object members).settled = .object members
  objects : ∀ member ∈ members, ∃ fields, member.2 = .object fields

namespace Statuses

theorem entryOf_object (statuses : Statuses members) (name : String) :
    ∃ fields, entryOf members name = .object fields := by
  unfold entryOf
  cases held : Keyed.get? members name with
  | none => exact ⟨[], rfl⟩
  | some status => exact statuses.objects _ (Keyed.mem_of_get? held)

theorem put (statuses : Statuses members) (name : String) {fields : List (String × Json)}
    (settled : (Json.object fields).settled = .object fields) :
    Statuses (Keyed.put members name (.object fields)) where
  settled := by rw [Json.settled_put name _ statuses.settled, settled]
  objects := by
    intro member held
    rcases Keyed.mem_of_mem_put held with old | rfl
    · exact statuses.objects member old
    · exact ⟨fields, rfl⟩

end Statuses

/-- The file holds these statuses. Where no file is there are none. -/
inductive Holds (path : Path) (disk : Disk) : List (String × Json) → Prop
  | absent (missing : disk.tree.has path = .ok false) : Holds path disk []
  | present {text : String} {members : List (String × Json)} (read : disk.tree.read path = .ok text)
      (parsed : Json.parse text = .ok (.object members))
      (objects : ∀ member ∈ members, ∃ fields, member.2 = .object fields) :
      Holds path disk members

namespace Holds

theorem statuses (holds : Holds path disk members) : Statuses members := by
  cases holds with
  | absent missing => exact ⟨rfl, nofun⟩
  | present read parsed objects => exact ⟨Json.settled_of_parse parsed, objects⟩

theorem loads (holds : Holds path disk members) :
    (load path).Returns Disk.handler disk (.object members) disk := by
  cases holds with
  | absent missing =>
    unfold load
    have exists? : (Files.fileExists path).Returns Disk.handler disk false disk := by
      unfold Files.fileExists Returns
      rw [outcome_perform]
      change ((disk.tree.has path).mapError _, disk) = _
      rw [missing]
      rfl
    exact exists?.bind (returns_done _ disk)
  | present read parsed objects => exact load_read read parsed

theorem get (holds : Holds path disk members) (name : String) :
    (get path name).Returns Disk.handler disk (entryOf members name) disk := by
  unfold Status.get
  apply holds.loads.bind
  apply Returns.bind (outcome_ofExcept (.ok members) disk)
  exact returns_done _ disk

end Holds

/-- The rest of a patch, after this document was loaded. -/
def replaceBy (path : Path) (name : String) (patch document : Json) : FileProgram Unit := do
  let document ← .ofExcept (patched document name patch)
  save path document
  .debug (doneText path name)

theorem patch_eq (path : Path) (name : String) (patch : Json) :
    Status.patch path name patch = load path >>= replaceBy path name patch := by
  unfold Status.patch rewrite
  rw [bind_assoc]
  exact congrArg (load path >>= ·) (funext fun document => bind_assoc _ _ _)

structure Change where
  name : String
  patch : Json
  /-- No object in the patch has two members of one name. -/
  settled : patch.settled = patch

/-- The rest of a patch puts into the file what was loaded, with one status merged, whatever the file
holds by then. -/
theorem holds_of_replaceBy (statuses : Statuses members) {change : Change}
    (returned : (replaceBy path change.name change.patch (.object members)).Returns Disk.handler
      before () after) :
    ∃ fields, (entryOf members change.name).mergePatch change.patch = .ok (.object fields) ∧
      Holds path after (Keyed.put members change.name (.object fields)) := by
  obtain ⟨document, between, changed, saved⟩ := returns_bind.1 returned
  obtain ⟨made, rfl⟩ := Prod.mk.inj ((outcome_ofExcept _ before).symm.trans changed)
  obtain ⟨_, merged, ⟨rfl⟩, merges, rfl⟩ := patched_ok.1 made
  obtain ⟨fields, entry⟩ := statuses.entryOf_object change.name
  rw [entry] at merges
  obtain ⟨patch, same, rfl⟩ := Json.mergePatch_object.1 merges
  have lawful := change.settled
  rw [same] at lawful
  have settledFields : (Json.object fields).settled = .object fields :=
    entry ▸ Pass.settled_entryOf statuses.settled change.name
  have put := statuses.put change.name
    (Json.settled_patchMembers settledFields patch (Json.settled_object_iff.1 lawful).2)
  obtain ⟨_, last, saves, logged⟩ := returns_bind.1 saved
  obtain rfl := returns_debug.1 logged
  obtain ⟨text, written, saved⟩ := (ends_iff.1 (save_ends path _ before)).1 () last saves
  obtain ⟨fits, rfl⟩ := documentText_ok.1 written
  refine ⟨_, entry ▸ merges, .present saved.read ?_ put.objects⟩
  rw [Json.parse_page fits, put.settled]

/-- What one patch does to the statuses: those of other names stay. -/
theorem holds_of_patch (holds : Holds path before members) {change : Change}
    (returned : (Status.patch path change.name change.patch).Returns Disk.handler before () after) :
    ∃ fields, (entryOf members change.name).mergePatch change.patch = .ok (.object fields) ∧
      Holds path after (Keyed.put members change.name (.object fields)) := by
  obtain ⟨document, between, loaded, replaced⟩ := returns_bind.1 ((patch_eq ..) ▸ returned)
  obtain ⟨rfl, rfl⟩ := returned_unique holds.loads loaded
  exact holds_of_replaceBy holds.statuses replaced

def patchAll (path : Path) : List Change → FileProgram Unit
  | [] => return ()
  | change :: rest => do
    Status.patch path change.name change.patch
    patchAll path rest

def patchesOf (name : String) (changes : List Change) : List Json :=
  (changes.filter fun change => change.name = name).map Change.patch

theorem patchesOf_append (name : String) (changes later : List Change) :
    patchesOf name (changes ++ later) = patchesOf name changes ++ patchesOf name later := by
  simp [patchesOf]

theorem patchesOf_same (change : Change) : patchesOf change.name [change] = [change.patch] := by
  simp [patchesOf]

theorem patchesOf_other {name : String} {change : Change} (other : change.name ≠ name) :
    patchesOf name [change] = [] := by
  simp [patchesOf, other]

theorem foldlM_single (status patch : Json) :
    [patch].foldlM Json.mergePatch status = status.mergePatch patch := by
  simp only [List.foldlM_cons, List.foldlM_nil, bind_pure]

/-- Each status is what it was at first, with the patches of its name merged in their order. -/
def MergedWith (changes : List Change) (initial final : List (String × Json)) : Prop :=
  ∀ name, (patchesOf name changes).foldlM Json.mergePatch (entryOf initial name) =
    .ok (entryOf final name)

theorem mergedWith_nil (members : List (String × Json)) : MergedWith [] members members :=
  fun _ => rfl

theorem MergedWith.concat {changes : List Change} {initial : List (String × Json)} {change : Change}
    {merged : Json} (earlier : MergedWith changes initial members)
    (merges : (entryOf members change.name).mergePatch change.patch = .ok merged) :
    MergedWith (changes ++ [change]) initial (Keyed.put members change.name merged) := by
  intro name
  by_cases same : change.name = name
  · subst same
    rw [patchesOf_append, patchesOf_same, List.foldlM_append, earlier change.name, entryOf_put_same]
    exact (foldlM_single _ _).trans merges
  · rw [patchesOf_append, patchesOf_other same, List.append_nil,
      entryOf_put_other _ _ (Ne.symm same)]
    exact earlier name

theorem holds_of_patchAll {initial : List (String × Json)} {earlier changes : List Change}
    (holds : Holds path before members) (merged : MergedWith earlier initial members)
    (returned : (patchAll path changes).Returns Disk.handler before () after) :
    ∃ final, Holds path after final ∧ MergedWith (earlier ++ changes) initial final ∧
      ∀ name, name ∈ Keyed.names final ↔
        name ∈ Keyed.names members ∨ name ∈ changes.map Change.name := by
  induction changes generalizing before members earlier with
  | nil =>
    obtain ⟨_, rfl⟩ := returns_pure.1 returned
    rw [List.append_nil]
    exact ⟨members, holds, merged, fun name => by simp⟩
  | cons change rest ih =>
    obtain ⟨_, between, first, later⟩ := returns_bind.1 returned
    obtain ⟨fields, merges, between⟩ := holds_of_patch holds first
    obtain ⟨final, held, merged, named⟩ := ih between (merged.concat merges) later
    rw [← List.append_cons] at merged
    refine ⟨final, held, merged, fun name => ?_⟩
    rw [named, Keyed.names_put]
    by_cases same : name = change.name <;> split <;> simp [*]

/-- However many times `patch_status` was called, of whatever names, each status is what it was at first,
with the patches of its name merged in their order; it is what `get_status` tells of that name, and the
text of the file is read as a map of these statuses and of nothing else. -/
theorem patches_refine_statuses {initial : List (String × Json)} {changes : List Change}
    (holds : Holds path before initial)
    (returned : (patchAll path changes).Returns Disk.handler before () after) :
    ∃ final, Holds path after final ∧ (Keyed.names final).Nodup ∧ ∀ name, ∃ status,
      (patchesOf name changes).foldlM Json.mergePatch (entryOf initial name) = .ok status ∧
      (get path name).Returns Disk.handler after status after ∧
      Keyed.get? final name =
        if name ∈ Keyed.names initial ∨ name ∈ changes.map Change.name then some status
        else none := by
  obtain ⟨final, held, merged, named⟩ := holds_of_patchAll holds (mergedWith_nil initial) returned
  refine ⟨final, held, (Json.settled_object_iff.1 held.statuses.settled).1, fun name => ?_⟩
  refine ⟨entryOf final name, merged name, held.get name, ?_⟩
  split
  · rename_i inside
    unfold entryOf
    cases found : Keyed.get? final name with
    | none => exact absurd ((named name).2 inside) (Keyed.get?_eq_none.1 found)
    | some status => rfl
  · rename_i outside
    exact Keyed.get?_eq_none.2 fun inside => outside ((named name).1 inside)

/-- A status file of an office, with one bastion that is being made. -/
def pendingStatuses : Disk :=
  let text := "\x7b\"bastion-1\": \x7b\"phase\": \"Pending\"\x7d\x7d"
  .ofTree (Files.Tree.empty.put (Path.ofString "status.json").spot (.file text))

/-- The bastion becomes ready while another one is reported, and then its phase is taken back. -/
def officeChanges : List Change :=
  [⟨"bastion-1", .object [("phase", .string "Ready"), ("inner", .string "10.0.0.5")], by decide⟩,
    ⟨"bastion-2", .object [("phase", .string "Pending")], by decide⟩,
    ⟨"bastion-1", .object [("phase", .null)], by decide⟩]

theorem patches_refine_statuses_office :
    let path := Path.ofString "status.json"
    ∃ after final, (patchAll path officeChanges).Returns Disk.handler pendingStatuses () after ∧
      Holds path after final ∧
      (get path "bastion-1").Returns Disk.handler after
        (.object [("inner", .string "10.0.0.5")]) after := by
  have success : ((patchAll (Path.ofString "status.json") officeChanges).run Disk.handler
      pendingStatuses).result = .ok () := by decide +kernel
  have returned := returns_of_ok success
  have holds : Holds (Path.ofString "status.json") pendingStatuses
      [("bastion-1", .object [("phase", .string "Pending")])] := by
    refine .present rfl (by decide +kernel) fun member held => ?_
    obtain rfl := List.mem_singleton.1 held
    exact ⟨_, rfl⟩
  obtain ⟨final, held, _, each⟩ := patches_refine_statuses holds returned
  obtain ⟨status, folds, told, _⟩ := each "bastion-1"
  have merged : status = .object [("inner", .string "10.0.0.5")] :=
    Except.ok.inj (folds.symm.trans (by decide +kernel))
  exact ⟨_, final, returned, held, merged ▸ told⟩

end Status

end Bastion
