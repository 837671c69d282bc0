import Bastion.Proofs.FileTree
import Bastion.Proofs.Journals
import Bastion.Proofs.PageText
import Bastion.Proofs.Proceedings
import Bastion.Status.Store

set_option autoImplicit false

namespace Bastion.Files

open Program

variable {disk : Disk} {path : Path} {failed : Disk → Prop}

theorem proceeds_call (op : Op) {fits : Op → Disk → Prop}
    {done : signature.Answer op → Disk → Prop} :
    (perform (S := signature) op).Proceeds Disk.handler fits done failed disk ↔
      fits op disk ∧ (perform (S := signature) op).Ends Disk.handler disk done failed :=
  proceeds_perform

theorem ends_fileExists {done : Bool → Disk → Prop} :
    (fileExists path).Ends Disk.handler disk done failed ↔
      match disk.tree.has path with
      | .ok found => done found disk
      | .error _ => failed disk := by
  unfold fileExists
  rw [ends_perform]
  cases known : disk.tree.has path <;> simp [Disk.handler, known, Except.mapError]

theorem ends_readText {done : String → Disk → Prop} :
    (readText path).Ends Disk.handler disk done failed ↔
      match disk.tree.read path with
      | .ok text => done text disk
      | .error _ => failed disk := by
  unfold readText
  rw [ends_perform]
  cases known : disk.tree.read path <;> simp [Disk.handler, known, Except.mapError]

theorem ends_makeDirectories {done : Unit → Disk → Prop} :
    (makeDirectories path).Ends Disk.handler disk done failed ↔
      match disk.tree.makeDirectories path with
      | (.ok _, tree) => done () { disk with tree := tree }
      | (.error _, tree) => failed { disk with tree := tree } := by
  unfold makeDirectories
  rw [ends_perform]
  rcases known : disk.tree.makeDirectories path with ⟨_ | _, tree⟩ <;>
    simp [Disk.handler, Disk.makeDirectories, known, Except.mapError]

theorem ends_createTemporary {stem : String} {done : Path → Disk → Prop} :
    (createTemporary path stem).Ends Disk.handler disk done failed ↔
      match disk.tree.createTemporary path stem with
      | .ok (temporary, tree) => done temporary { disk with tree := tree }
      | .error _ => failed disk := by
  unfold createTemporary
  rw [ends_perform]
  rcases known : disk.tree.createTemporary path stem with _ | ⟨temporary, tree⟩ <;>
    simp [Disk.handler, Disk.createTemporary, known]

/-- A fault of the medium leaves the start of the text, and is spent. -/
theorem ends_writeText {text : String} {done : Unit → Disk → Prop} :
    (writeText path text).Ends Disk.handler disk done failed ↔
      match disk.fault with
      | none => done () { disk with tree := disk.tree.put path.spot (.file text) }
      | some fault => failed ⟨disk.tree.put path.spot
          (.file (String.ofList (text.toList.take fault.written))), none⟩ := by
  unfold writeText
  rw [ends_perform]
  cases known : disk.fault <;> simp [Disk.handler, Disk.write, known]

theorem ends_replaceFile {target : Path} {done : Unit → Disk → Prop} :
    (replaceFile path target).Ends Disk.handler disk done failed ↔
      match disk.tree.replace path target with
      | .ok tree => done () { disk with tree := tree }
      | .error _ => failed disk := by
  unfold replaceFile
  rw [ends_perform]
  cases known : disk.tree.replace path target <;> simp [Disk.handler, Disk.change, known]

theorem ends_removeFile {done : Unit → Disk → Prop} :
    (removeFile path).Ends Disk.handler disk done failed ↔
      done () { disk with tree := disk.tree.erase path.spot } := Iff.rfl

end Bastion.Files

namespace Bastion.Status

open Files (Path Tree Disk Spot)
open Program

/-- The document that a text holds. Where there is no file the document is empty. -/
def documentOf : Option String → Option Json
  | none => some (.object [])
  | some text => (Json.parse text).toOption

theorem documentOf_some {text : String} {document : Json} :
    documentOf (some text) = some document ↔ Json.parse text = .ok document := by
  unfold documentOf
  simp only
  cases Json.parse text <;> simp [Except.toOption]

theorem settled_documentOf {text : Option String} {document : Json}
    (holds : documentOf text = some document) : document.settled = document := by
  cases text with
  | none =>
    obtain rfl := Option.some.inj holds
    rfl
  | some text => exact Json.settled_of_parse (documentOf_some.1 holds)

/-- A call before which the file at the path is as it was in this tree, and which writes nothing there. -/
structure Withheld (path : Path) (tree : Tree) (op : Files.Op) (now : Disk) : Prop where
  held : now.tree.textAt? path.spot = tree.textAt? path.spot
  beside : ∀ {target text}, op = .write target text → target.spot ≠ path.spot

theorem load_proceeds (path : Path) (disk : Disk) :
    (load path).Proceeds Disk.handler (Withheld path disk.tree)
      (fun document after => after = disk ∧
        documentOf (disk.tree.read path).toOption = some document)
      (fun after => after = disk) disk := by
  unfold load
  refine proceeds_bind.2 ((Files.proceeds_call (.exists path)).2
    ⟨⟨rfl, nofun⟩, Files.ends_fileExists.2 ?_⟩)
  cases known : disk.tree.has path with
  | error error => rfl
  | ok found =>
    cases found with
    | false =>
      refine ⟨rfl, ?_⟩
      rw [Tree.read_of_absent known]
      rfl
    | true =>
      refine proceeds_bind.2 ((Files.proceeds_call (.read path)).2
        ⟨⟨rfl, nofun⟩, Files.ends_readText.2 ?_⟩)
      cases read : disk.tree.read path with
      | error error => rfl
      | ok text =>
        refine proceeds_ofExcept.2 ?_
        unfold parseDocument
        cases parsed : Json.parse text with
        | error error => rfl
        | ok document => exact ⟨rfl, documentOf_some.2 parsed⟩

/-- The text is written to the temporary file, which takes the place of the target. -/
def publishText (temporary path : Path) (document : Json) : FileProgram Unit := do
  let text ← .ofExcept (documentText document)
  Files.writeText temporary text
  Files.replaceFile temporary path

def stemOf (path : Path) : String := s!".{path.name}."

theorem name_le_stem (path : Path) : path.name.length ≤ (stemOf path).length := by
  have stem : stemOf path = "." ++ path.name ++ "." := rfl
  rw [stem, String.length_append, String.length_append]
  omega

/-- What was written is removed where that fails. -/
def publishOrRemove (temporary path : Path) (document : Json) : FileProgram Unit :=
  (publishText temporary path document).recover fun failure => do
    Files.removeFile temporary
    .fail failure

theorem save_eq (path : Path) (document : Json) :
    save path document = (do
      Files.makeDirectories path.parent
      let temporary ← Files.createTemporary path.parent (stemOf path)
      publishOrRemove temporary path document) := rfl

variable {path temporary : Path} {document : Json} {tree : Tree} {disk after : Disk}

/-- A document was written, and has taken its place in this tree. -/
structure Moves (path : Path) (document : Json) (tree : Tree) (after : Disk) (text : String) :
    Prop where
  written : documentText document = .ok text
  sound : after.fault = none
  free : tree.entry? path.spot ≠ some .directory
  result : ∀ seen, after.tree.entry? seen = Tree.entry? (tree.put path.spot (.file text)) seen

theorem publishText_proceeds (document : Json) (apart : temporary.spot ≠ path.spot)
    (missing : tree.entry? temporary.spot = none)
    (opened : Tree.KeepsBeside temporary.spot tree disk.tree) :
    (publishText temporary path document).Proceeds Disk.handler (Withheld path tree)
      (fun _ after => ∃ text, Moves path document tree after text)
      (fun after => Tree.KeepsBeside temporary.spot tree after.tree) disk := by
  unfold publishText
  refine proceeds_bind.2 (proceeds_ofExcept.2 ?_)
  cases written : documentText document with
  | error failure => exact opened
  | ok text => ?_
  have writes : Withheld path tree (.write temporary text) disk := by
    refine ⟨opened.textAt? apart.symm, ?_⟩
    rintro _ _ ⟨⟩
    exact apart
  refine proceeds_bind.2 ((Files.proceeds_call (.write temporary text)).2
    ⟨writes, Files.ends_writeText.2 ?_⟩)
  cases faulty : disk.fault with
  | some fault => exact opened.put _
  | none =>
    have filled := opened.put (.file text)
    refine (Files.proceeds_call (.replace temporary path)).2
      ⟨⟨filled.textAt? apart.symm, nofun⟩, Files.ends_replaceFile.2 ?_⟩
    change match Tree.replace (disk.tree.put temporary.spot (.file text)) temporary path with
      | .ok tree => _
      | .error _ => _
    cases replaced : Tree.replace (disk.tree.put temporary.spot (.file text)) temporary path with
    | error error => exact filled
    | ok target =>
      obtain ⟨held, there, free, rfl⟩ := Tree.replace_ok.1 replaced
      rw [Tree.entry?_put_same _ _ (Tree.below_of_missing missing)] at there
      obtain ⟨rfl⟩ := Option.some.inj there
      rw [filled path.spot apart.symm] at free
      exact ⟨text, written, rfl, free, Tree.entry?_put_congr (filled.entry?_erase missing) _ _⟩

theorem publishOrRemove_proceeds (document : Json) (apart : temporary.spot ≠ path.spot)
    (missing : tree.entry? temporary.spot = none)
    (opened : Tree.KeepsBeside temporary.spot tree disk.tree) :
    (publishOrRemove temporary path document).Proceeds Disk.handler (Withheld path tree)
      (fun _ after => ∃ text, Moves path document tree after text)
      (fun after => ∀ seen, after.tree.entry? seen = tree.entry? seen) disk := by
  apply Proceeds.recover
  refine (publishText_proceeds document apart missing opened).mono id id fun keeps failure => ?_
  refine proceeds_bind.2 ((Files.proceeds_call (.remove temporary)).2
    ⟨⟨keeps.textAt? apart.symm, nofun⟩, Files.ends_removeFile.2 ?_⟩)
  exact keeps.entry?_erase missing

/-- A file with this text where a document was saved: all that a later save relies on is there. -/
structure Saved (path : Path) (text : String) (disk : Disk) : Prop where
  sound : disk.fault = none
  parent : ∃ directory, disk.tree.locate path.parent = .ok directory ∧
    disk.tree.entry? directory = some .directory
  clean : (stemOf path).toList.contains '\x00' = false
  named :
    ¬(Files.nameLimit < (path.parent.child (Tree.temporaryName (stemOf path))).name.utf8ByteSize ∨
      Files.pathLimit < (path.parent.child (Tree.temporaryName (stemOf path))).text.utf8ByteSize)
  held : disk.tree.entry? path.spot = some (.file text)

namespace Moves

variable {text : String}

theorem keepsDirectories (moves : Moves path document tree after text) :
    Tree.KeepsDirectories tree after.tree := by
  intro seen there
  have other : seen ≠ path.spot := fun same => moves.free (same ▸ there)
  rw [moves.result, Tree.entry?_put_other _ _ other, there]

theorem held (moves : Moves path document tree after text) :
    after.tree.entry? path.spot = some (.file text) := by
  rw [moves.result]
  exact Tree.entry?_put_same _ _ (Tree.below_of_ne_directory moves.free)

end Moves

/-- A document is saved, or nothing remains but directories on the way to it. -/
theorem save_proceeds (path : Path) (document : Json) (disk : Disk) :
    (save path document).Proceeds Disk.handler (Withheld path disk.tree)
      (fun _ after => ∃ text, documentText document = .ok text ∧ Saved path text after ∧
        Tree.Rewritten path text disk.tree after.tree)
      (fun after => Tree.Paved path.parent disk.tree after.tree) disk := by
  rw [save_eq]
  apply proceeds_bind.2
  apply (Files.proceeds_call (.makeDirectories path.parent)).2
  refine ⟨⟨rfl, nofun⟩, Files.ends_makeDirectories.2 ?_⟩
  unfold Tree.makeDirectories
  rcases made : disk.tree.makeUpTo Files.levelLimit path.parent with ⟨answer, pavedTree⟩
  have paved : Tree.Paved path.parent disk.tree pavedTree := by
    have paved := disk.tree.paved_makeUpTo Files.levelLimit path.parent
    rwa [made] at paved
  have stays := paved.grown.textAt? path.spot
  cases answer with
  | error failure => exact paved
  | ok directory =>
    obtain ⟨located, there⟩ := Tree.makeUpTo_ok made
    apply proceeds_bind.2
    apply (Files.proceeds_call (.createTemporary path.parent (stemOf path))).2
    refine ⟨⟨stays, nofun⟩, Files.ends_createTemporary.2 ?_⟩
    cases created : pavedTree.createTemporary path.parent (stemOf path) with
    | error failure => exact paved
    | ok pair =>
      obtain ⟨temporary, tree⟩ := pair
      obtain ⟨clean, named, fresh, rfl⟩ := Tree.createTemporary_ok.1 created
      have apart : temporary.spot ≠ path.spot :=
        fresh ▸ pavedTree.freshPath_apart path (name_le_stem path)
      have missing : pavedTree.entry? temporary.spot = none :=
        fresh ▸ pavedTree.freshPath_missing path.parent (stemOf path)
      have opened : Tree.KeepsBeside temporary.spot pavedTree pavedTree := fun _ _ => rfl
      refine (publishOrRemove_proceeds document apart missing (opened.put (.file ""))).mono ?_ ?_ ?_
      · exact fun withheld => ⟨withheld.held.trans stays, withheld.beside⟩
      · rintro _ after ⟨text, moves⟩
        have keeps := moves.keepsDirectories
        have saved : Saved path text after :=
          ⟨moves.sound, ⟨directory, Tree.locate_kept keeps located, keeps directory there⟩, clean,
            named, moves.held⟩
        exact ⟨text, moves.written, saved, pavedTree, paved, moves.result⟩
      · exact paved.congr

theorem save_ends (path : Path) (document : Json) (disk : Disk) :
    (save path document).Ends Disk.handler disk
      (fun _ after => ∃ text, documentText document = .ok text ∧ Saved path text after)
      (fun after => after.tree.textAt? path.spot = disk.tree.textAt? path.spot) := by
  refine (save_proceeds path document disk).ends.mono ?_ fun paved => paved.grown.textAt? path.spot
  rintro _ after ⟨text, written, saved, _⟩
  exact ⟨text, written, saved⟩

theorem name_size_le (path : Path) :
    path.name.utf8ByteSize ≤ (Tree.temporaryName (stemOf path)).utf8ByteSize := by
  have name : Tree.temporaryName (stemOf path) = "." ++ path.name ++ "." ++
      String.ofList (List.replicate Files.temporaryWidth '0') := rfl
  rw [name, String.utf8ByteSize_append, String.utf8ByteSize_append, String.utf8ByteSize_append]
  omega

theorem name_visible (path : Path) : Tree.temporaryName (stemOf path) ≠ "" := by
  intro empty
  have stem : stemOf path = "" := (String.append_eq_empty_iff.1 empty).1
  have first := (String.append_eq_empty_iff.1 (String.append_eq_empty_iff.1 stem).1).1
  exact absurd first (by decide)

theorem null_mem_stem {path : Path} (null : '\x00' ∈ path.name.toList) :
    (stemOf path).toList.contains '\x00' = true := by
  have stem : stemOf path = "." ++ path.name ++ "." := rfl
  rw [stem, List.contains_iff_mem, String.toList_append, String.toList_append]
  exact List.mem_append_left _ (List.mem_append_right _ null)

namespace Saved

variable {text : String}

theorem names_ne_nil (saved : Saved path text disk) : path.names ≠ [] := by
  intro none
  have held := saved.held
  rw [Tree.entry?_root _ (Path.spot_of_no_names none)] at held
  cases held

theorem located (saved : Saved path text disk) : disk.tree.locate path = .ok path.spot := by
  obtain ⟨directory, parent, there⟩ := saved.parent
  obtain ⟨clean, _, led⟩ := Tree.locate_ok.1 parent
  have some := saved.names_ne_nil
  obtain ⟨nameShort, textShort⟩ := not_or.1 saved.named
  refine Tree.locate_ok.2 ⟨?_, ?_, ?_⟩
  · refine Bool.eq_false_iff.2 fun held => ?_
    obtain ⟨name, member, null⟩ := (Path.null_mem_text path).1 (List.contains_iff_mem.1 held)
    rw [Path.names_eq some, List.mem_append, List.mem_singleton] at member
    rcases member with above | rfl
    · have inside := (Path.null_mem_text path.parent).2 ⟨name, above, null⟩
      rw [List.contains_iff_mem.2 inside] at clean
      cases clean
    · have clean := saved.clean
      rw [null_mem_stem null] at clean
      cases clean
  · exact fun long => textShort (Nat.lt_of_lt_of_le long
      (Path.size_text_le some (name_visible path) (name_size_le path)))
  · rw [Path.name_child] at nameShort
    have short : ¬Files.nameLimit < path.name.utf8ByteSize := fun long =>
      nameShort (Nat.lt_of_lt_of_le long (name_size_le path))
    rw [Path.spot_eq some, Tree.spot_of_locate parent, Path.names_eq some]
    exact Tree.follow_append (Tree.follow_kept (fun _ held => held) led)
      (Tree.follow_single there short)

theorem textAt?_eq (saved : Saved path text disk) : disk.tree.textAt? path.spot = some text := by
  unfold Tree.textAt?
  rw [saved.held]

theorem read {document : Json} (saved : Saved path (Json.print .page document) disk) :
    disk.tree.read path = .ok (Json.print .page document) :=
  Tree.read_ok.2 ⟨_, _, saved.located, saved.held, Json.unifyLineEnds_print Json.clean_page document⟩

end Saved

theorem documentText_ok {text : String} :
    documentText document = .ok text ↔
      document.obstacle? = none ∧ Json.print .page document = text := by
  unfold documentText
  cases document.obstacle? with
  | some obstacle => simp
  | none => simp

theorem entryOf_put_same (members : List (String × Json)) (name : String) (status : Json) :
    entryOf (Keyed.put members name status) name = status := by
  unfold entryOf
  rw [Keyed.get?_put_same, Option.getD_some]

theorem entryOf_put_other (members : List (String × Json)) {name other : String} (status : Json)
    (apart : other ≠ name) :
    entryOf (Keyed.put members name status) other = entryOf members other := by
  unfold entryOf
  rw [Keyed.get?_put_other _ _ apart]

/-- The document that was there, with the entry of that name merged with the patch, is in the file. -/
structure Patched (path : Path) (name : String) (patch : Json) (before after : Disk)
    (members : List (String × Json)) (merged : Json) : Prop where
  loaded : documentOf (before.tree.read path).toOption = some (.object members)
  merges : (entryOf members name).mergePatch patch = .ok merged
  fits : Json.obstacle? (.object (Keyed.put members name merged)) = none
  saved : Saved path (Json.print .page (.object (Keyed.put members name merged))) after

theorem patched_eq (members : List (String × Json)) (name : String) (patch : Json) :
    patched (.object members) name patch =
      (((entryOf members name).mergePatch patch).mapError fun e => .status (.patch e)).map
        fun merged => .object (Keyed.put members name merged) := by
  have bound : patched (.object members) name patch = (do
      let entry ← ((entryOf members name).mergePatch patch).mapError fun e => .status (.patch e)
      return .object (Keyed.put members name entry)) := rfl
  rw [bound]
  cases (entryOf members name).mergePatch patch <;> rfl

theorem patched_ok {name : String} {patch document after : Json} :
    patched document name patch = .ok after ↔ ∃ members merged, document = .object members ∧
      (entryOf members name).mergePatch patch = .ok merged ∧
        Json.object (Keyed.put members name merged) = after := by
  cases document with
  | object members =>
    rw [patched_eq]
    cases merges : (entryOf members name).mergePatch patch <;>
      simp [merges, Except.mapError, Except.map]
  | _ =>
    constructor
    · intro changed
      cases changed
    · rintro ⟨_, _, same, _⟩
      cases same

/-- A document is rewritten as a whole, or nothing remains of that but directories on the way to the
file. -/
theorem rewrite_proceeds (path : Path) (name : String) (patch : Json) (disk : Disk) :
    (rewrite path name patch).Proceeds Disk.handler (Withheld path disk.tree)
      (fun _ after => ∃ members merged, Patched path name patch disk after members merged ∧
        Tree.Rewritten path (Json.print .page (.object (Keyed.put members name merged))) disk.tree
          after.tree)
      (fun after => Tree.Paved path.parent disk.tree after.tree) disk := by
  have unchanged : Tree.Paved path.parent disk.tree disk.tree := .refl path.parent disk.tree
  unfold rewrite
  refine proceeds_bind.2 ((load_proceeds path disk).mono id ?_ fun same => same ▸ unchanged)
  rintro document _ ⟨rfl, loaded⟩
  refine proceeds_bind.2 (proceeds_ofExcept.2 ?_)
  cases changed : patched document name patch with
  | error failure => exact unchanged
  | ok next =>
    obtain ⟨members, merged, rfl, merges, rfl⟩ := patched_ok.1 changed
    refine (save_proceeds path _ _).mono id ?_ id
    rintro _ after ⟨text, written, saved, rewritten⟩
    obtain ⟨fits, rfl⟩ := documentText_ok.1 written
    exact ⟨members, merged, ⟨loaded, merges, fits, saved⟩, rewritten⟩

theorem patch_proceeds (path : Path) (name : String) (patch : Json) (disk : Disk) :
    (Status.patch path name patch).Proceeds Disk.handler (Withheld path disk.tree)
      (fun _ after => ∃ members merged, Patched path name patch disk after members merged ∧
        Tree.Rewritten path (Json.print .page (.object (Keyed.put members name merged))) disk.tree
          after.tree)
      (fun after => Tree.Paved path.parent disk.tree after.tree) disk :=
  proceeds_bind.2 ((rewrite_proceeds path name patch disk).mono id id id)

theorem logless_load (path : Path) : (load path).Logless := by
  refine (logless_perform (S := Files.signature) _).bind fun found => ?_
  cases found with
  | false => trivial
  | true =>
    exact (logless_perform (S := Files.signature) _).bind fun text =>
      logless_ofExcept (parseDocument text)

theorem logless_save (path : Path) (document : Json) : (save path document).Logless := by
  rw [save_eq]
  refine (logless_perform (S := Files.signature) _).bind fun _ =>
    (logless_perform (S := Files.signature) _).bind fun temporary => Logless.recover ?_ fun _ => ?_
  · exact (logless_ofExcept _).bind fun text =>
      (logless_perform (S := Files.signature) (.write temporary text)).bind fun _ =>
        logless_perform (S := Files.signature) (.replace temporary path)
  · exact (logless_perform (S := Files.signature) (.remove temporary)).bind fun _ => trivial

theorem logless_rewrite (path : Path) (name : String) (patch : Json) :
    (rewrite path name patch).Logless :=
  (logless_load path).bind fun _ => (logless_ofExcept _).bind fun _ => logless_save path _

def doneLine (path : Path) (name : String) : LogLine := ⟨.debug, doneText path name⟩

theorem patch_loggedTo (journal : Journal) (path : Path) (name : String) (patch : Json) :
    (Status.patch path name patch).loggedTo journal = rewrite path name patch >>= fun _ =>
      .log (doneLine path name) fun _ => .ofExcept (journal.take (doneLine path name)) := by
  unfold Status.patch
  rw [loggedTo_bind, (logless_rewrite path name patch).loggedTo]
  refine congrArg _ (funext fun _ => congrArg (Program.log _) (funext fun _ => ?_))
  exact loggedTo_ofExcept _

/-- What is logged comes last: where the line is refused the patch has been done. -/
theorem patch_proceeds_loggedTo (journal : Journal) (path : Path) (name : String) (patch : Json)
    (disk : Disk) :
    ((Status.patch path name patch).loggedTo journal).Proceeds Disk.handler (Withheld path disk.tree)
      (fun _ after => ∃ members merged, Patched path name patch disk after members merged ∧
        Tree.Rewritten path (Json.print .page (.object (Keyed.put members name merged))) disk.tree
          after.tree)
      (fun after => Tree.Paved path.parent disk.tree after.tree ∨
        ¬journal.Takes (doneLine path name) ∧
          ∃ members merged, Patched path name patch disk after members merged ∧
            Tree.Rewritten path (Json.print .page (.object (Keyed.put members name merged))) disk.tree
              after.tree) disk := by
  rw [patch_loggedTo]
  refine proceeds_bind.2 ((rewrite_proceeds path name patch disk).mono id ?_ .inl)
  intro _ after rewritten
  refine proceeds_ofExcept.2 ?_
  cases answered : journal.take (doneLine path name) with
  | ok value => exact rewritten
  | error failure =>
    obtain ⟨message, refused, _⟩ := Journal.take_error.1 answered
    refine .inr ⟨fun taken => ?_, rewritten⟩
    cases refused.symm.trans taken

theorem patch_ends (path : Path) (name : String) (patch : Json) (disk : Disk) :
    (Status.patch path name patch).Ends Disk.handler disk
      (fun _ after => ∃ members merged, Patched path name patch disk after members merged)
      (fun after => after.tree.textAt? path.spot = disk.tree.textAt? path.spot) := by
  refine (patch_proceeds path name patch disk).ends.mono ?_
    fun paved => paved.grown.textAt? path.spot
  rintro _ after ⟨members, merged, patched, _⟩
  exact ⟨members, merged, patched⟩

end Bastion.Status
