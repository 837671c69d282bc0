import Bastion.Proofs.MergedMembers

set_option autoImplicit false

namespace Bastion.Json

open Keyed (names)

variable {status : Json} {listed : List Entry} {changes : List (String × Json)} {entry other : Entry}
  {name : String}

def Entry.written (entry : Entry) : String × Json := (entry.text, entry.value)

theorem names_written (listed : List Entry) :
    names (listed.map Entry.written) = listed.map Entry.text := by
  unfold names
  rw [List.map_map]
  rfl

def entryOfMember (member : String × Json) : Entry := ⟨.text member.1, member.1, member.2⟩

theorem written_entryOfMember (members : List (String × Json)) :
    (members.map entryOfMember).map Entry.written = members := by
  rw [List.map_map]
  exact List.map_id members

/-- These entries have the names of a patch exactly where they are written so. -/
def ToldByText (listed : List Entry) (changed : List String) : Prop :=
  ∀ entry ∈ listed, ∀ name ∈ changed, entry.name = .text name ↔ entry.text = name

def TextNamed (listed : List Entry) : Prop := ∀ entry ∈ listed, entry.name = .text entry.text

theorem textNamed_members (members : List (String × Json)) :
    TextNamed (members.map entryOfMember) := by
  intro entry held
  obtain ⟨member, _, rfl⟩ := List.mem_map.1 held
  rfl

theorem TextNamed.toldByText (named : TextNamed listed) (changed : List String) :
    ToldByText listed changed := by
  intro entry held name _
  rw [named entry held]
  exact ⟨Name.text.inj, congrArg Name.text⟩

theorem TextNamed.nodup_texts (named : TextNamed listed) (distinct : (listed.map Entry.name).Nodup) :
    (listed.map Entry.text).Nodup := by
  have names : listed.map Entry.name = (listed.map Entry.text).map Name.text := by
    rw [List.map_map]
    exact List.map_congr_left named
  exact List.Nodup.of_map _ (names ▸ distinct)

theorem ToldByText.tail {rest : List Entry} {changed : List String}
    (told : ToldByText (entry :: rest) changed) : ToldByText rest changed :=
  fun other held => told other (List.mem_cons_of_mem _ held)

theorem find?_written (told : ToldByText listed [name]) :
    (listed.find? fun entry => entry.name = .text name).map Entry.value =
      Keyed.get? (listed.map Entry.written) name := by
  induction listed with
  | nil => rfl
  | cons first rest ih =>
    have same := told first List.mem_cons_self name (List.mem_singleton_self name)
    by_cases named : first.name = .text name
    · simp [named, Keyed.get?, Entry.written, same.1 named]
    · simp [named, Keyed.get?, Entry.written, mt same.2 named, ih told.tail]

theorem written_filter (told : ToldByText listed [name]) :
    (listed.filter fun entry => entry.name ≠ .text name).map Entry.written =
      Keyed.erase (listed.map Entry.written) name := by
  unfold Keyed.erase
  rw [List.filter_map]
  congr 1
  refine List.filter_congr fun entry held => ?_
  exact decide_eq_decide.2 (not_congr (told entry held name (List.mem_singleton_self name)))

theorem written_putEntry (told : ToldByText listed [name]) (value : Json) :
    (putEntry listed ⟨.text name, name, value⟩).map Entry.written =
      Keyed.put (listed.map Entry.written) name value := by
  induction listed with
  | nil => rfl
  | cons first rest ih =>
    have same := told first List.mem_cons_self name (List.mem_singleton_self name)
    by_cases named : first.name = .text name
    · simp [putEntry, named, Keyed.put, Entry.written, same.1 named]
    · simp [putEntry, named, Keyed.put, Entry.written, mt same.2 named, ih told.tail]

theorem ToldByText.mono {changed : List String} (told : ToldByText listed changed)
    {fewer : List String} (within : ∀ name ∈ fewer, name ∈ changed) : ToldByText listed fewer :=
  fun entry held name inside => told entry held name (within name inside)

theorem ToldByText.putEntry {changed : List String} (told : ToldByText listed changed)
    (name : String) (value : Json) :
    ToldByText (Json.putEntry listed ⟨.text name, name, value⟩) changed := by
  intro entry held key inside
  rcases mem_putEntry held with old | ⟨_, rfl | ⟨first, there, named, written⟩⟩
  · exact told entry old key inside
  · exact ⟨Name.text.inj, congrArg Name.text⟩
  · rw [← named, ← written]
    exact told first there key inside

@[simp] theorem patchEntries_nil (listed : List Entry) : patchEntries listed [] = listed := by
  rw [patchEntries]

theorem patchEntries_cons (listed : List Entry) (name : String) (value : Json)
    (rest : List (String × Json)) :
    patchEntries listed ((name, value) :: rest) = patchEntries
      (match patchValue ((listed.find? fun entry => entry.name = .text name).map Entry.value) value with
        | none => listed.filter fun entry => entry.name ≠ .text name
        | some value => putEntry listed ⟨.text name, name, value⟩) rest := by
  rw [patchEntries]
  cases patchValue ((listed.find? fun entry => entry.name = .text name).map Entry.value) value <;> rfl

/-- Entries that are told apart by what they are written with are patched as members are. -/
theorem written_patchEntries (told : ToldByText listed (names changes)) :
    (patchEntries listed changes).map Entry.written =
      patchMembers (listed.map Entry.written) changes := by
  induction changes generalizing listed with
  | nil =>
    rw [patchEntries_nil, patchMembers_nil]
  | cons member rest ih =>
    obtain ⟨name, value⟩ := member
    have own : ToldByText listed [name] := told.mono fun other inside =>
      List.mem_singleton.1 inside ▸ List.mem_cons_self
    have later : ToldByText listed (names rest) := told.mono fun _ => List.mem_cons_of_mem _
    rw [patchEntries_cons, patchMembers_cons, find?_written own]
    cases patchValue (Keyed.get? (listed.map Entry.written) name) value with
    | none =>
      have kept : ToldByText (listed.filter fun entry => entry.name ≠ .text name) (names rest) :=
        fun entry held => later entry (List.mem_of_mem_filter held)
      rw [ih kept, written_filter own]
      rfl
    | some value =>
      rw [ih (later.putEntry name value), written_putEntry own]
      rfl

theorem mem_putEntry_of_ne (held : entry ∈ listed) (apart : entry.name ≠ other.name) :
    entry ∈ putEntry listed other := by
  induction listed with
  | nil => cases held
  | cons first rest ih =>
    rw [putEntry]
    rcases List.mem_cons.1 held with rfl | later
    · rw [if_neg apart]
      exact List.mem_cons_self
    · split
      · exact List.mem_cons_of_mem _ later
      · exact List.mem_cons_of_mem _ (ih later)

theorem entries_object (members : List (String × Json)) :
    (Json.object members).entries = .ok (members.map entryOfMember) := rfl

theorem mergePatch_entries (status : Json) (changes : List (String × Json)) :
    status.mergePatch (.object changes) = status.entries.map fun listed =>
      .object ((patchEntries listed changes).map Entry.written) := by
  by_cases object : ∃ members, status = .object members
  · obtain ⟨members, rfl⟩ := object
    rw [entries_object, Except.map, written_patchEntries ((textNamed_members members).toldByText _),
      written_entryOfMember]
    rfl
  · exact mergePatch_listed (fun members same => object ⟨members, same⟩) changes

theorem mergePatch_ok {merged : Json} :
    status.mergePatch (.object changes) = .ok merged ↔ ∃ listed, status.entries = .ok listed ∧
      .object ((patchEntries listed changes).map Entry.written) = merged := by
  rw [mergePatch_entries]
  cases status.entries <;> simp [Except.map]

/-- The entries of a settled value are told apart by their names. -/
theorem listed_of_entries (settled : status.settled = status) (lists : status.entries = .ok listed) :
    Listed listed := by
  by_cases object : ∃ members, status = .object members
  · obtain ⟨members, rfl⟩ := object
    rw [entries_object] at lists
    obtain rfl := Except.ok.inj lists
    obtain ⟨distinct, values⟩ := settled_object_iff.1 settled
    refine ⟨?_, fun entry held => ?_, fun entry held => ?_⟩
    · have named : (members.map entryOfMember).map Entry.name = (names members).map Name.text := by
        unfold names
        rw [List.map_map, List.map_map]
        rfl
      rw [named]
      exact distinct.map fun _ _ => Name.text.inj
    · obtain ⟨member, _, rfl⟩ := List.mem_map.1 held
      exact ⟨.string member.1, rfl, rfl⟩
    · obtain ⟨member, inside, rfl⟩ := List.mem_map.1 held
      exact values member inside
  · exact listed_entries settled (fun members same => object ⟨members, same⟩) lists

theorem Listed.toldByText_ingress (sound : Listed listed) : ToldByText listed ["ingress"] := by
  intro entry held name named
  obtain rfl := List.mem_singleton.1 named
  refine ⟨(sound.spelled entry held).text_eq, fun same => ?_⟩
  obtain ⟨scalar, told, written⟩ := sound.spelled entry held
  exact name_of_ingress told (written.trans same)

theorem Listed.settled_written (sound : Listed listed) (apart : (listed.map Entry.text).Nodup) :
    (Json.object (listed.map Entry.written)).settled = .object (listed.map Entry.written) := by
  refine settled_object_iff.2 ⟨names_written listed ▸ apart, fun member held => ?_⟩
  obtain ⟨entry, inside, rfl⟩ := List.mem_map.1 held
  exact sound.settled entry inside

theorem Listed.filter (sound : Listed listed) (test : Entry → Bool) : Listed (listed.filter test) where
  distinct := sound.distinct.sublist (List.filter_sublist.map Entry.name)
  spelled := fun entry held => sound.spelled entry (List.mem_of_mem_filter held)
  settled := fun entry held => sound.settled entry (List.mem_of_mem_filter held)

theorem Listed.patchEntries (sound : Listed listed)
    (lawful : ∀ member ∈ changes, member.2.settled = member.2) :
    Listed (Json.patchEntries listed changes) := by
  induction changes generalizing listed with
  | nil =>
    rw [patchEntries_nil]
    exact sound
  | cons member rest ih =>
    obtain ⟨name, value⟩ := member
    obtain ⟨first, later⟩ := List.forall_mem_cons.1 lawful
    have current : ∀ old ∈ (listed.find? fun entry => entry.name = .text name).map Entry.value,
        old.settled = old := by
      intro old held
      obtain ⟨entry, found, rfl⟩ := Option.map_eq_some_iff.1 held
      exact sound.settled entry (List.mem_of_find?_eq_some found)
    rw [patchEntries_cons]
    split
    · exact ih (sound.filter _) later
    · rename_i value patched
      exact ih (sound.putEntry ⟨.string name, rfl, rfl⟩
        (settled_patchValue current _ first value patched)) later

theorem mem_patchEntries (held : entry ∈ listed) (free : ∀ name ∈ names changes, entry.name ≠ .text name) :
    entry ∈ patchEntries listed changes := by
  induction changes generalizing listed with
  | nil =>
    rw [patchEntries_nil]
    exact held
  | cons member rest ih =>
    obtain ⟨name, value⟩ := member
    obtain ⟨first, later⟩ := List.forall_mem_cons.1 free
    rw [patchEntries_cons]
    refine ih ?_ later
    split
    · exact List.mem_filter.2 ⟨held, decide_eq_true first⟩
    · exact mem_putEntry_of_ne held first

theorem named_patchEntries {value : Json} (distinct : (names changes).Nodup)
    (member : (name, value) ∈ changes) (present : value ≠ .null) (listed : List Entry) :
    ∃ entry ∈ patchEntries listed changes, entry.name = .text name := by
  induction changes generalizing listed with
  | nil => cases member
  | cons first rest ih =>
    obtain ⟨key, change⟩ := first
    obtain ⟨missing, distinctRest⟩ := List.nodup_cons.1 distinct
    rw [patchEntries_cons]
    rcases List.mem_cons.1 member with same | later
    · obtain ⟨rfl, rfl⟩ := Prod.mk.inj same
      split
      · rename_i removed
        exact absurd (patchValue_eq_none.1 removed) present
      · obtain ⟨entry, held, named, _⟩ := mem_putEntry_self listed ⟨.text name, name, _⟩
        refine ⟨entry, mem_patchEntries held fun other inside same => ?_, named⟩
        exact missing (Name.text.inj (named.symm.trans same) ▸ inside)
    · exact ih distinctRest later _

end Bastion.Json
