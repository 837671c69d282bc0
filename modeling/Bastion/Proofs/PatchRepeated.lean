import Bastion.Proofs.MergedEntries
import Bastion.Proofs.StatusAgain

set_option autoImplicit false

/- A patch that is made twice. Merged a second time it changes nothing, so the file keeps its text, but for
a status that lists pairs: a name that is no text is written as one, and read back as one. -/
namespace Bastion

namespace Json

open Keyed (names)

variable {status merged : Json} {listed : List Entry} {target patch changes : List (String × Json)}

theorem patchMembers_twice (distinct : (names patch).Nodup)
    (again : ∀ member ∈ patch, ∀ current : Option Json,
      patchValue (patchValue current member.2) member.2 = patchValue current member.2) :
    patchMembers (patchMembers target patch) patch = patchMembers target patch := by
  refine patchMembers_eq_self distinct fun key named => ?_
  obtain ⟨member, held, rfl⟩ := List.mem_map.1 named
  have own (target : List (String × Json)) := get?_patchMembers_own target distinct held
  calc Keyed.get? (patchMembers (patchMembers target patch) patch) member.1
      = patchValue (patchValue (Keyed.get? target member.1) member.2) member.2 := by rw [own, own]
    _ = patchValue (Keyed.get? target member.1) member.2 := again member held _
    _ = Keyed.get? (patchMembers target patch) member.1 := (own target).symm

mutual

theorem patchValue_again : ∀ value : Json, value.settled = value → ∀ current : Option Json,
    patchValue (patchValue current value) value = patchValue current value
  | .null, _, _ => by rw [patchValue, patchValue]
  | .object patch, lawful, current => by
    obtain ⟨distinct, values⟩ := settled_object_iff.1 lawful
    have again := patchValues_again patch values
    rw [patchValue, patchValue]
    exact congrArg (some ∘ Json.object) (patchMembers_twice distinct again)
  | .bool _, _, _ => rfl
  | .int _, _, _ => rfl
  | .float _, _, _ => rfl
  | .string _, _, _ => rfl
  | .array _, _, _ => rfl

theorem patchValues_again : ∀ patch : List (String × Json),
    (∀ member ∈ patch, member.2.settled = member.2) → ∀ member ∈ patch, ∀ current : Option Json,
      patchValue (patchValue current member.2) member.2 = patchValue current member.2
  | [], _ => nofun
  | (_, value) :: rest, lawful => by
    obtain ⟨first, later⟩ := List.forall_mem_cons.1 lawful
    exact List.forall_mem_cons.2 ⟨patchValue_again value first, patchValues_again rest later⟩

end

theorem patchMembers_again (lawful : (Json.object patch).settled = .object patch)
    (target : List (String × Json)) :
    patchMembers (patchMembers target patch) patch = patchMembers target patch := by
  obtain ⟨distinct, values⟩ := settled_object_iff.1 lawful
  exact patchMembers_twice distinct (patchValues_again patch values)

/-- No two entries of a status are written alike, and none is written like a name of a patch but the one of
that name. -/
def SpelledApart (status : Json) (changed : List String) : Prop :=
  ∀ listed, status.entries = .ok listed →
    (listed.map Entry.text).Nodup ∧ ToldByText listed changed

/-- Where that is so, what was merged has no names twice, and is merged again into itself. -/
theorem merged_again (settled : status.settled = status)
    (lawful : (Json.object changes).settled = .object changes)
    (apart : SpelledApart status (names changes))
    (merges : status.mergePatch (.object changes) = .ok merged) :
    merged.settled = merged ∧ merged.mergePatch (.object changes) = .ok merged := by
  obtain ⟨listed, lists, rfl⟩ := mergePatch_ok.1 merges
  obtain ⟨distinct, told⟩ := apart listed lists
  have sound := (listed_of_entries settled lists).settled_written distinct
  rw [written_patchEntries told]
  constructor
  · exact settled_patchMembers sound changes (settled_object_iff.1 lawful).2
  · change Except.ok (Json.object (patchMembers _ changes)) = _
    rw [patchMembers_again lawful]

/-- The names of an object are texts, and its members have none twice. -/
theorem spelledApart_object {members : List (String × Json)}
    (settled : (Json.object members).settled = .object members) (changed : List String) :
    SpelledApart (.object members) changed := by
  intro listed lists
  rw [entries_object] at lists
  obtain rfl := Except.ok.inj lists
  have named := textNamed_members members
  have sound := listed_of_entries settled (entries_object members)
  exact ⟨named.nodup_texts sound.distinct, named.toldByText changed⟩

/-- An entry that is written like a name of a patch has that name, where what was merged has no names twice
and is merged again into itself. -/
theorem toldByText_of_again (sound : Listed listed)
    (lawful : (Json.object changes).settled = .object changes)
    (distinct : ((patchEntries listed changes).map Entry.text).Nodup)
    (again : patchMembers ((patchEntries listed changes).map Entry.written) changes =
      (patchEntries listed changes).map Entry.written) :
    ToldByText listed (names changes) := by
  intro entry held name named
  refine ⟨(sound.spelled entry held).text_eq, fun written => ?_⟩
  by_contra other
  obtain ⟨changesDistinct, values⟩ := settled_object_iff.1 lawful
  have stays : entry ∈ patchEntries listed changes := mem_patchEntries held fun key _ same => by
    have text := (sound.spelled entry held).text_eq same
    exact other (written ▸ text ▸ same)
  obtain ⟨⟨key, value⟩, member, rfl⟩ := List.mem_map.1 named
  by_cases removed : value = .null
  · have gone := get?_patchMembers_own ((patchEntries listed changes).map Entry.written)
      changesDistinct member
    rw [again, patchValue_eq_none.2 removed, Keyed.get?_eq_none, names_written] at gone
    exact gone (List.mem_map.2 ⟨entry, stays, written⟩)
  · obtain ⟨set, there, setNamed⟩ := named_patchEntries changesDistinct member removed listed
    have text := ((sound.patchEntries values).spelled set there).text_eq setNamed
    obtain rfl := List.inj_on_of_nodup_map distinct there stays (text.trans written.symm)
    exact other setNamed

theorem texts_nodup_of_again (sound : Listed listed) (told : ToldByText listed (names changes))
    (distinct : ((patchEntries listed changes).map Entry.text).Nodup) :
    (listed.map Entry.text).Nodup := by
  have listedOnce : listed.Nodup := List.Nodup.of_map _ sound.distinct
  refine listedOnce.map_on fun entry held other inside same => ?_
  by_cases changed : entry.text ∈ names changes
  · have first := (told entry held _ changed).2 rfl
    have second := (told other inside _ changed).2 same.symm
    exact List.inj_on_of_nodup_map sound.distinct held inside (first.trans second.symm)
  · have stays {entry : Entry} (held : entry ∈ listed) (free : entry.text ∉ names changes) :
        entry ∈ patchEntries listed changes :=
      mem_patchEntries held fun name member named =>
        free ((sound.spelled entry held).text_eq named ▸ member)
    exact List.inj_on_of_nodup_map distinct (stays held changed) (stays inside (same ▸ changed)) same

/-- What is merged again into itself comes from a status whose names are told apart as they are written. -/
theorem spelledApart_of_again (settled : status.settled = status)
    (lawful : (Json.object changes).settled = .object changes)
    (merges : status.mergePatch (.object changes) = .ok merged) (once : merged.settled = merged)
    (again : merged.mergePatch (.object changes) = .ok merged) :
    SpelledApart status (names changes) := by
  obtain ⟨listed, lists, rfl⟩ := mergePatch_ok.1 merges
  rintro _ same
  obtain rfl := Except.ok.inj (lists.symm.trans same)
  have sound := listed_of_entries settled lists
  have distinct : ((patchEntries listed changes).map Entry.text).Nodup := by
    rw [← names_written]
    exact (settled_object_iff.1 once).1
  have told := toldByText_of_again sound lawful distinct (Json.object.inj (Except.ok.inj again))
  exact ⟨texts_nodup_of_again sound told distinct, told⟩

theorem print_page_injective {value other : Json} (fits : value.obstacle? = none)
    (otherFits : other.obstacle? = none) (same : print .page value = print .page other) :
    value = other := by
  have first := parseWritten_print_all legible_page .lenient fits
  rw [same, parseWritten_print_all legible_page .lenient otherFits] at first
  exact (Except.ok.inj first).symm

end Json

namespace Status

open Files (Path Disk)
open Keyed (names)
open Program

variable {path : Path} {name : String} {merged : Json} {members changes : List (String × Json)}
  {before after last : Disk}

/-- What a second patch is about: the value of the first one, as it is read back. -/
theorem patched_of_patch_again
    (first : Patched path name (.object changes) before after members merged)
    (second : (Status.patch path name (.object changes)).Returns Disk.handler after () last) :
    ∃ other, merged.settled.mergePatch (.object changes) = .ok other ∧
      Patched path name (.object changes) after last (Keyed.put members name merged.settled)
        other := by
  obtain ⟨others, other, patched⟩ := (ends_iff.1 (patch_ends path name _ after)).1 () last second
  have read := patched.loaded
  rw [first.saved.read] at read
  have parsed := (Json.parse_page first.fits).symm.trans (documentOf_some.1 read)
  rw [Json.settled_put name merged (settled_documentOf first.loaded)] at parsed
  obtain rfl := Json.object.inj (Except.ok.inj parsed)
  have merges := patched.merges
  rw [entryOf_put_same] at merges
  exact ⟨other, merges, patched⟩

/-- If the second patch leaves the text, what the first one merged is merged again into itself. -/
theorem merged_of_patch_again (lawful : (Json.object changes).settled = .object changes)
    (first : Patched path name (.object changes) before after members merged)
    (second : (Status.patch path name (.object changes)).Returns Disk.handler after () last)
    (same : last.tree.textAt? path.spot = after.tree.textAt? path.spot) :
    merged.settled = merged ∧ merged.mergePatch (.object changes) = .ok merged := by
  obtain ⟨other, merges, patched⟩ := patched_of_patch_again first second
  have texts := (patched.saved.textAt?_eq.symm.trans same).trans first.saved.textAt?_eq
  have documents := Json.print_page_injective patched.fits first.fits (Option.some.inj texts)
  obtain rfl : other = merged := by
    have statuses := congrArg (Keyed.get? · name) (Json.object.inj documents)
    simp only [Keyed.get?_put_same] at statuses
    exact Option.some.inj statuses
  obtain ⟨listed, _, object⟩ := Json.mergePatch_ok.1 first.merges
  obtain ⟨fields, shape⟩ : ∃ fields, other.settled = .object fields := by
    rw [← object]
    exact ⟨_, rfl⟩
  have fieldsSettled : (Json.object fields).settled = .object fields :=
    shape ▸ Json.settled_settled other
  have settled : other.settled = other := by
    rw [shape] at merges
    exact (Json.merged_again fieldsSettled lawful (Json.spelledApart_object fieldsSettled _) merges).1
  rw [settled] at merges
  exact ⟨settled, merges⟩

/-- The patch can be made once more, and leaves the text of the file. -/
def Repeats (path : Path) (name : String) (patch : Json) (disk : Disk) : Prop :=
  ∃ last, (Status.patch path name patch).Returns Disk.handler disk () last ∧
    last.tree.textAt? path.spot = disk.tree.textAt? path.spot

/-- A call of `patch_status` that was made can be made again and leaves the text of the file, exactly if
the entries of the status are spelled apart. So it is for every status that is an object. -/
theorem patch_repeats_iff (lawful : (Json.object changes).settled = .object changes)
    (loaded : documentOf (before.tree.read path).toOption = some (.object members))
    (first : (Status.patch path name (.object changes)).Returns Disk.handler before () after) :
    (Repeats path name (.object changes) after ↔
      Json.SpelledApart (entryOf members name) (names changes)) ∧
    ((∃ fields, entryOf members name = .object fields) → Repeats path name (.object changes) after) := by
  obtain ⟨others, merged, done⟩ := (ends_iff.1 (patch_ends path name _ before)).1 () after first
  obtain rfl := Json.object.inj (Option.some.inj (loaded.symm.trans done.loaded))
  have settled := Pass.settled_entryOf (settled_documentOf loaded) name
  have repeats_of_apart (apart : Json.SpelledApart (entryOf members name) (names changes)) :
      Repeats path name (.object changes) after := by
    obtain ⟨once, again⟩ := Json.merged_again settled lawful apart done.merges
    exact patch_again done once again
  refine ⟨⟨?_, repeats_of_apart⟩, ?_⟩
  · rintro ⟨last, second, same⟩
    obtain ⟨once, again⟩ := merged_of_patch_again lawful done second same
    exact Json.spelledApart_of_again settled lawful done.merges once again
  · rintro ⟨fields, object⟩
    refine repeats_of_apart ?_
    rw [object] at settled ⊢
    exact Json.spelledApart_object settled _

/-- A status file with an object for the first bastion, and for the second one a list that has a pair of the
number 1 and one of the text of it. -/
def listedStatuses : Disk :=
  let text := "\x7b\"bastion-1\": \x7b\"phase\": \"Pending\"\x7d, \"bastion-2\": [[1, 2], [\"1\", 3]]\x7d"
  .ofTree (Files.Tree.empty.put (Path.ofString "status.json").spot (.file text))

def listedMembers : List (String × Json) :=
  [("bastion-1", .object [("phase", .string "Pending")]),
    ("bastion-2", .array [.array [.int 1, .int 2], .array [.string "1", .int 3]])]

/-- The second patch of the list drops one of the two members that the first one wrote. -/
theorem patch_repeats_iff_listed :
    let path := Path.ofString "status.json"
    let changes := [("phase", Json.string "Ready")]
    (∃ after, (Status.patch path "bastion-1" (.object changes)).Returns Disk.handler listedStatuses ()
      after ∧ Repeats path "bastion-1" (.object changes) after) ∧
    ∃ after, (Status.patch path "bastion-2" (.object changes)).Returns Disk.handler listedStatuses ()
      after ∧ ¬Repeats path "bastion-2" (.object changes) after := by
  have loaded : documentOf (listedStatuses.tree.read (Path.ofString "status.json")).toOption =
      some (.object listedMembers) := by decide +kernel
  have made (name : String) (known : name ∈ names listedMembers) :
      ((Status.patch (Path.ofString "status.json") name (.object [("phase", .string "Ready")])).run
        Disk.handler listedStatuses).result = .ok () := by
    revert name
    decide +kernel
  constructor
  · have first := returns_of_ok (made "bastion-1" (by decide))
    obtain ⟨_, repeats⟩ := patch_repeats_iff rfl loaded first
    exact ⟨_, first, repeats ⟨_, rfl⟩⟩
  · have first := returns_of_ok (made "bastion-2" (by decide))
    obtain ⟨exact, _⟩ := patch_repeats_iff rfl loaded first
    refine ⟨_, first, fun repeats => ?_⟩
    obtain ⟨distinct, _⟩ := exact.1 repeats _ rfl
    exact absurd distinct (by decide)

end Status

end Bastion
