import Bastion.Proofs.Publication

set_option autoImplicit false

namespace Bastion

namespace Program

variable {S : Signature} {σ α : Type} {handler : Handler S σ} {program : Program S α} {before : σ}
  {done : α → σ → Prop}

theorem returns_of_ends (ends : program.Ends handler before done fun _ => False) :
    ∃ value after, program.Returns handler before value after ∧ done value after := by
  obtain ⟨returns, fails⟩ := ends_iff.1 ends
  cases ended : (program.run handler before).result with
  | error failure => exact (fails failure _ (Prod.ext ended rfl)).elim
  | ok value =>
    have returned := returns_of_ok ended
    exact ⟨value, _, returned, returns value _ returned⟩

end Program

namespace Status

open Files (Path Tree Disk Spot)
open Program

variable {path temporary : Path} {text : String} {disk : Disk} {document : Json}

theorem load_read (read : disk.tree.read path = .ok text)
    (parsed : Json.parse text = .ok document) :
    (load path).Returns Disk.handler disk document disk := by
  have ends : (load path).Ends Disk.handler disk
      (fun loaded after => loaded = document ∧ after = disk) fun _ => False := by
    unfold load
    refine ends_bind.2 (Files.ends_fileExists.2 ?_)
    rw [Tree.has_of_read read]
    refine ends_bind.2 (Files.ends_readText.2 ?_)
    rw [read]
    refine ends_ofExcept.2 ?_
    unfold parseDocument
    rw [parsed]
    exact ⟨rfl, rfl⟩
  obtain ⟨_, _, returned, rfl, rfl⟩ := returns_of_ends ends
  exact returned

theorem load_saved (saved : Saved path (Json.print .page document) disk)
    (fits : document.obstacle? = none) :
    (load path).Returns Disk.handler disk document.settled disk :=
  load_read saved.read (Json.parse_page fits)

theorem publishText_of_room (written : documentText document = .ok text) (sound : disk.fault = none)
    (apart : temporary.spot ≠ path.spot) (below : ¬temporary.spot.names.isEmpty = true)
    (room : disk.tree.entry? path.spot ≠ some .directory) :
    (publishText temporary path document).Ends Disk.handler disk (fun _ _ => True) fun _ => False := by
  unfold publishText
  refine ends_bind.2 (ends_ofExcept.2 ?_)
  rw [written]
  refine ends_bind.2 (Files.ends_writeText.2 ?_)
  rw [sound]
  refine Files.ends_replaceFile.2 ?_
  obtain ⟨tree, replaced⟩ : ∃ tree,
      Tree.replace (disk.tree.put temporary.spot (.file text)) temporary path = .ok tree := by
    refine ⟨_, Tree.replace_ok.2 ⟨text, Tree.entry?_put_same _ _ below, ?_, rfl⟩⟩
    rw [Tree.entry?_put_other _ _ apart.symm]
    exact room
  simp only [replaced]

/-- Where a document was saved, another one that can be written is saved in its place. -/
theorem save_saved {old : String} (saved : Saved path old disk)
    (written : documentText document = .ok text) :
    ∃ after, (save path document).Returns Disk.handler disk () after ∧ Saved path text after := by
  have ends : (save path document).Ends Disk.handler disk (fun _ _ => True) fun _ => False := by
    obtain ⟨directory, located, there⟩ := saved.parent
    have made : disk.tree.makeDirectories path.parent = (.ok (), disk.tree) := by
      unfold Tree.makeDirectories
      rw [Tree.makeUpTo_there (by decide) located there]
      rfl
    have created : disk.tree.createTemporary path.parent (stemOf path) = .ok (_, _) :=
      Tree.createTemporary_ok.2 ⟨saved.clean, saved.named, rfl, rfl⟩
    rw [save_eq]
    refine ends_bind.2 (Files.ends_makeDirectories.2 ?_)
    rw [made]
    refine ends_bind.2 (Files.ends_createTemporary.2 ?_)
    simp only [created]
    have apart := disk.tree.freshPath_apart path (name_le_stem path)
    let fresh := disk.tree.freshPath path.parent (stemOf path)
    let opened : Disk := { disk with tree := disk.tree.put fresh.spot (.file "") }
    have sound : opened.fault = none := saved.sound
    have room : opened.tree.entry? path.spot ≠ some .directory := by
      rw [Tree.entry?_put_other _ _ apart.symm, saved.held]
      exact nofun
    have published := ends_iff.1 (publishText_of_room written sound apart
      (disk.tree.freshPath_below path.parent (stemOf path)) room)
    exact ends_recover.2 ⟨fun _ _ _ => trivial, fun failure after lost =>
      (published.2 failure after lost).elim⟩
  obtain ⟨_, after, returned, _⟩ := returns_of_ends ends
  obtain ⟨other, told, again⟩ := (ends_iff.1 (save_ends path document disk)).1 () after returned
  obtain rfl := Except.ok.inj (written.symm.trans told)
  exact ⟨after, returned, again⟩

/-- A patch that would change nothing in the document leaves the text of its file. -/
theorem patch_again {name : String} {patch merged : Json} {members : List (String × Json)}
    {before after : Disk} (patched : Patched path name patch before after members merged)
    (settled : merged.settled = merged) (merges : merged.mergePatch patch = .ok merged) :
    ∃ last, (Status.patch path name patch).Returns Disk.handler after () last ∧
      last.tree.textAt? path.spot = after.tree.textAt? path.spot := by
  have held := entryOf_put_same members name merged
  have loaded := load_saved patched.saved patched.fits
  rw [Json.settled_put name merged (settled_documentOf patched.loaded), settled] at loaded
  have unchanged : Status.patched (.object (Keyed.put members name merged)) name patch =
      .ok (.object (Keyed.put members name merged)) := by
    refine patched_ok.2 ⟨_, merged, rfl, held.symm ▸ merges, ?_⟩
    rw [Keyed.put_eq_self (Keyed.get?_put_same _ _ _)]
  obtain ⟨last, saves, saved⟩ := save_saved patched.saved (documentText_ok.2 ⟨patched.fits, rfl⟩)
  refine ⟨last, ?_, ?_⟩
  · have rewrites : (rewrite path name patch).Returns Disk.handler after () last := by
      unfold rewrite
      apply loaded.bind
      rw [unchanged]
      exact (returns_done _ after).bind saves
    unfold Status.patch
    apply rewrites.bind
    exact returns_debug.2 rfl
  · exact (Tree.textAt?_congr (saved.held.trans patched.saved.held.symm))

end Status

end Bastion
