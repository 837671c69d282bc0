import Bastion.Proofs.JsonLimits
import Bastion.Proofs.MergeStandard
import Bastion.Proofs.MergedEntries
import Bastion.Proofs.StatusAgain

set_option autoImplicit false

namespace Bastion

namespace Json

variable {status : Json} {listed : List Entry}

theorem putEntry_ne_nil (entries : List Entry) (entry : Entry) : putEntry entries entry ≠ [] := by
  obtain ⟨other, held, _⟩ := mem_putEntry_self entries entry
  exact List.ne_nil_of_mem held

theorem readEntries_nil {items : List Json} {index : Nat} {before : List Entry} :
    readEntries index before items = .ok [] ↔ before = [] ∧ items = [] := by
  induction items generalizing index before with
  | nil => simp [readEntries]
  | cons item items ih =>
    refine iff_of_false (fun read => ?_) fun both => List.cons_ne_nil item items both.2
    rw [readEntries] at read
    split at read
    · cases read
    · rename_i first value _
      cases named : first.name? with
      | error error =>
        rw [named] at read
        cases read
      | ok name =>
        rw [named] at read
        exact absurd (ih.1 read).1 (putEntry_ne_nil _ _)
    · cases read

theorem entries_other (other : ∀ members, status ≠ .object members) :
    status.entries = match status.listed? with
      | none => .error (.noEntries status.kind)
      | some items => readEntries 0 [] items := by
  cases status with
  | object members => exact (other members rfl).elim
  | _ => rfl

/-- Only of an empty text and an empty list are there no entries. -/
theorem entries_eq_nil (other : ∀ members, status ≠ .object members) :
    status.entries = .ok [] ↔ status.listed? = some [] := by
  rw [entries_other other]
  cases status.listed? with
  | none => simp
  | some items =>
    rw [readEntries_nil, Option.some.injEq]
    exact and_iff_right rfl

/-- For the standard every value that is no object is one without members. -/
theorem mergeOnto_other (other : ∀ members, status ≠ .object members)
    (changes : List (String × Json)) :
    mergeOnto (some status) (.object changes) = mergeOnto (some (.object [])) (.object changes) := by
  rw [mergeOnto_object, mergeOnto_object]
  cases status with
  | object members => exact (other members rfl).elim
  | _ => rfl

/-- Entries with texts for names are merged as the members of an object are by the standard. -/
theorem mergePatch_textNamed (lists : status.entries = .ok listed) (named : TextNamed listed)
    (changes : List (String × Json)) :
    status.mergePatch (.object changes) =
      .ok (mergeOnto (some (.object (listed.map Entry.written))) (.object changes)) := by
  refine mergePatch_ok.2 ⟨listed, lists, ?_⟩
  rw [mergeOnto_object, written_patchEntries (named.toldByText _), patchMembers_eq_mergeEach]
  rfl

theorem settled_mergeOnto {members changes : List (String × Json)}
    (settled : (Json.object members).settled = .object members)
    (lawful : (Json.object changes).settled = .object changes) :
    (mergeOnto (some (.object members)) (.object changes)).settled =
      mergeOnto (some (.object members)) (.object changes) := by
  have merged : mergeOnto (some (.object members)) (.object changes) =
      .object (patchMembers members changes) := by
    rw [patchMembers_eq_mergeEach]
    exact mergeOnto_object _ _
  rw [merged]
  exact settled_patchMembers settled changes (settled_object_iff.1 lawful).2

theorem members_eq_nil {members : List (String × Json)}
    (settled : (Json.object members).settled = .object []) : members = [] := by
  cases members with
  | nil => rfl
  | cons member rest =>
    obtain ⟨name, value⟩ := member
    have found := get?_settled ((name, value) :: rest) name
    rw [Json.object.inj settled, Keyed.get?, Keyed.last?, if_pos rfl] at found
    cases last : Keyed.last? rest name <;> simp [last] at found

end Json

namespace Status

open Files (Path Disk)
open Program

/-- A file that can be read, with these members in its document, and that can be replaced by whatever can be
written. -/
structure Serviceable (path : Path) (members : List (String × Json)) (disk : Disk) : Prop where
  reads : ∃ text, disk.tree.read path = .ok text ∧ Json.parse text = .ok (.object members)
  saves : ∀ document, document.obstacle? = none →
    ∃ after, (save path document).Returns Disk.handler disk () after

/-- The status of a name is patched as the standard merges a patch into this value: wherever the new
document can be written the patch is made, and the merged value is told of that name from then on. -/
def MergesInto (path : Path) (members : List (String × Json)) (disk : Disk) (name : String)
    (target : Json) : Prop :=
  ∀ changes, (Json.object changes).settled = .object changes →
    let merged := Json.mergeOnto (some target) (.object changes)
    (Json.object (Keyed.put members name merged)).obstacle? = none →
    ∃ after, (Status.patch path name (.object changes)).Returns Disk.handler disk () after ∧
      (get path name).Returns Disk.handler after merged after

variable {path : Path} {members : List (String × Json)} {disk after : Disk} {name : String}
  {patch merged : Json}

namespace Serviceable

theorem loads (file : Serviceable path members disk) :
    (load path).Returns Disk.handler disk (.object members) disk := by
  obtain ⟨text, read, parsed⟩ := file.reads
  exact load_read read parsed

theorem loaded (file : Serviceable path members disk) {others : List (String × Json)}
    (loaded : documentOf (disk.tree.read path).toOption = some (.object others)) :
    members = others := by
  obtain ⟨text, read, parsed⟩ := file.reads
  rw [read] at loaded
  exact Json.object.inj (Except.ok.inj (parsed.symm.trans (documentOf_some.1 loaded)))

theorem settled (file : Serviceable path members disk) :
    (Json.object members).settled = .object members := by
  obtain ⟨text, _, parsed⟩ := file.reads
  exact Json.settled_of_parse parsed

theorem fits (file : Serviceable path members disk) :
    (Json.object members).obstacle? = none := by
  obtain ⟨text, _, parsed⟩ := file.reads
  exact Json.obstacle?_of_parse parsed

/-- An empty status can be written wherever the document is one that was read. -/
theorem fits_put_empty (file : Serviceable path members disk) (name : String) :
    (Json.object (Keyed.put members name (.object []))).obstacle? = none := by
  refine Json.obstacle_object.2 fun member held => ?_
  rcases Keyed.mem_of_mem_put held with old | rfl
  · exact Json.obstacle_object.1 file.fits member old
  · exact Json.obstacle_object.2 nofun

theorem patches (file : Serviceable path members disk)
    (merges : (entryOf members name).mergePatch patch = .ok merged)
    (fits : (Json.object (Keyed.put members name merged)).obstacle? = none) :
    ∃ after, (Status.patch path name patch).Returns Disk.handler disk () after ∧
      Saved path (Json.print .page (.object (Keyed.put members name merged))) after := by
  obtain ⟨after, saves⟩ := file.saves _ fits
  obtain ⟨text, written, saved⟩ := (ends_iff.1 (save_ends path _ disk)).1 () after saves
  obtain ⟨_, rfl⟩ := documentText_ok.1 written
  refine ⟨after, ?_, saved⟩
  have changed : patched (.object members) name patch =
      .ok (.object (Keyed.put members name merged)) :=
    patched_ok.2 ⟨members, merged, rfl, merges, rfl⟩
  have rewrites : (rewrite path name patch).Returns Disk.handler disk () after := by
    unfold rewrite
    apply file.loads.bind
    rw [changed]
    exact (returns_done _ disk).bind saves
  unfold Status.patch
  apply rewrites.bind
  exact returns_debug.2 rfl

/-- A merge that is refused ends the patch, and the disk stays as it was. -/
theorem refuses (file : Serviceable path members disk) {error : Json.PatchError}
    (merges : (entryOf members name).mergePatch patch = .error error) :
    ((Status.patch path name patch).run Disk.handler disk).outcome =
      (.error (.status (.patch error)), disk) := by
  unfold Status.patch rewrite
  rw [outcome_bind, outcome_bind_of_returns file.loads, outcome_bind, outcome_ofExcept, patched_eq,
    merges]
  rfl

end Serviceable

theorem get_saved
    (saved : Saved path (Json.print .page (.object (Keyed.put members name merged))) after)
    (fits : (Json.object (Keyed.put members name merged)).obstacle? = none)
    (settled : (Json.object members).settled = .object members) :
    (get path name).Returns Disk.handler after merged.settled after := by
  have loads := load_saved saved fits
  rw [Json.settled_put name merged settled] at loads
  unfold Status.get
  apply loads.bind
  apply Returns.bind (outcome_ofExcept (.ok _) after)
  exact returns_pure.2 ⟨entryOf_put_same members name merged.settled, rfl⟩

/-- Entries with texts for names are patched as an object with these members. -/
theorem mergesInto_textNamed (file : Serviceable path members disk) {listed : List Json.Entry}
    (lists : (entryOf members name).entries = .ok listed) (named : Json.TextNamed listed) :
    MergesInto path members disk name (.object (listed.map Json.Entry.written)) := by
  intro changes lawful merged fits
  have merges := Json.mergePatch_textNamed lists named changes
  obtain ⟨after, patched, saved⟩ := file.patches merges fits
  have sound := Json.listed_of_entries (Pass.settled_entryOf file.settled name) lists
  have settled := Json.settled_mergeOnto (sound.settled_written (named.nodup_texts sound.distinct)) lawful
  have told := get_saved saved fits file.settled
  rw [settled] at told
  exact ⟨after, patched, told⟩

theorem mergesInto_object (file : Serviceable path members disk) {fields : List (String × Json)}
    (object : entryOf members name = .object fields) :
    MergesInto path members disk name (.object fields) := by
  have merges := mergesInto_textNamed file (object ▸ Json.entries_object fields)
    (Json.textNamed_members fields)
  rwa [Json.written_entryOfMember] at merges

theorem mergesInto_of_nothing (file : Serviceable path members disk)
    (nothing : (entryOf members name).listed? = some []) :
    MergesInto path members disk name (entryOf members name) := by
  by_cases object : ∃ fields, entryOf members name = .object fields
  · obtain ⟨fields, object⟩ := object
    rw [object]
    exact mergesInto_object file object
  · have other : ∀ fields, entryOf members name ≠ .object fields := fun fields same =>
      object ⟨fields, same⟩
    have named : Json.TextNamed [] := List.forall_mem_nil _
    have merges := mergesInto_textNamed file ((Json.entries_eq_nil other).2 nothing) named
    intro changes
    rw [Json.mergeOnto_other other]
    exact merges changes

/-- An empty patch makes an empty status of what is no object, by the standard; the entries that a status
lists are kept instead. -/
theorem nothing_of_mergesInto (file : Serviceable path members disk)
    (other : ∀ fields, entryOf members name ≠ .object fields)
    (merges : MergesInto path members disk name (entryOf members name)) :
    (entryOf members name).listed? = some [] := by
  have empty : Json.mergeOnto (some (entryOf members name)) (.object []) = .object [] := by
    rw [Json.mergeOnto_other other]
    rfl
  have emptied := merges [] rfl
  rw [empty] at emptied
  obtain ⟨after, patched, told⟩ := emptied (file.fits_put_empty name)
  obtain ⟨loaded, merged, done⟩ := (ends_iff.1 (patch_ends path name _ disk)).1 () after patched
  obtain rfl := file.loaded done.loaded
  obtain ⟨listed, lists, rfl⟩ := Json.mergePatch_ok.1 done.merges
  obtain ⟨same, _⟩ := returned_unique (get_saved done.saved done.fits file.settled) told
  rw [Json.patchEntries_nil] at same
  obtain rfl := List.map_eq_nil_iff.1 (Json.members_eq_nil same)
  exact (Json.entries_eq_nil other).1 lists

/-- A status is patched by `patch_status` as the standard says exactly if it is an object, or a text or a
list without anything in it. Pairs that are named by texts are patched as the object with these members,
and where a status lists no pairs the patch fails and changes nothing. -/
theorem patched_by_standard_iff (file : Serviceable path members disk) (name : String) :
    let status := entryOf members name
    (MergesInto path members disk name status ↔
      (∃ fields, status = .object fields) ∨ status.listed? = some []) ∧
    (∀ listed, status.entries = .ok listed → Json.TextNamed listed →
      MergesInto path members disk name (.object (listed.map Json.Entry.written))) ∧
    ∀ changes error, status.entries = .error error →
      ((Status.patch path name (.object changes)).run Disk.handler disk).outcome =
        (.error (.status (.patch error)), disk) := by
  intro status
  refine ⟨⟨fun merges => ?_, ?_⟩, fun listed => mergesInto_textNamed file, fun changes error lists => ?_⟩
  · by_cases object : ∃ fields, status = .object fields
    · exact .inl object
    · exact .inr (nothing_of_mergesInto file (fun fields same => object ⟨fields, same⟩) merges)
  · rintro (⟨fields, object⟩ | nothing)
    · rw [object]
      exact mergesInto_object file object
    · exact mergesInto_of_nothing file nothing
  · refine file.refuses ?_
    rw [Json.mergePatch_entries, lists]
    rfl

theorem Saved.saves {text : String} (saved : Saved path text disk) {document : Json}
    (fits : document.obstacle? = none) :
    ∃ after, (save path document).Returns Disk.handler disk () after := by
  obtain ⟨after, returned, _⟩ := save_saved saved (documentText_ok.2 ⟨fits, rfl⟩)
  exact ⟨after, returned⟩

/-- A status file in which someone has left nothing of the first bastion, and a list of pairs of the
second. -/
def strangeStatuses : Disk :=
  let text := "\x7b\"bastion-1\": null, \"bastion-2\": [[\"phase\", \"Pending\"]]\x7d"
  .ofTree (Files.Tree.empty.put (Path.ofString "status.json").spot (.file text))

def strangeMembers : List (String × Json) :=
  [("bastion-1", .null), ("bastion-2", .array [.array [.string "phase", .string "Pending"]])]

theorem strangeStatuses_serviceable :
    Serviceable (Path.ofString "status.json") strangeMembers strangeStatuses where
  reads := ⟨_, rfl, by decide +kernel⟩
  saves := fun _ => Saved.saves
    { sound := rfl
      parent := ⟨_, rfl, by decide +kernel⟩
      clean := by decide +kernel
      named := by decide +kernel
      held := rfl }

/-- Nothing in the place of a status is in the way of every patch, and pairs are kept that the standard
would drop. -/
theorem strange_statuses_patched :
    let path := Path.ofString "status.json"
    ¬MergesInto path strangeMembers strangeStatuses "bastion-1" .null ∧
    (∀ changes, ((Status.patch path "bastion-1" (.object changes)).run Disk.handler
      strangeStatuses).outcome = (.error (.status (.patch (.noEntries .null))), strangeStatuses)) ∧
    MergesInto path strangeMembers strangeStatuses "bastion-2"
      (.object [("phase", .string "Pending")]) := by
  have file := strangeStatuses_serviceable
  obtain ⟨standard, _, refused⟩ := patched_by_standard_iff file "bastion-1"
  obtain ⟨_, pairs, _⟩ := patched_by_standard_iff file "bastion-2"
  refine ⟨fun merges => ?_, fun changes => refused changes _ rfl, ?_⟩
  · rcases standard.1 merges with ⟨fields, same⟩ | nothing
    · cases same
    · cases nothing
  · refine pairs [⟨.text "phase", "phase", .string "Pending"⟩] rfl fun entry held => ?_
    obtain rfl := List.mem_singleton.1 held
    rfl

end Status

end Bastion
