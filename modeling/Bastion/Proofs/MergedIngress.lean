import Bastion.Endpoint
import Bastion.Json.MergePatch
import Bastion.Proofs.FloatText
import Bastion.Proofs.SettledJson

set_option autoImplicit false

namespace Bastion.Json

open Keyed (names)

theorem settled_put {members : List (String × Json)} (name : String) (value : Json)
    (settled : (Json.object members).settled = .object members) :
    (Json.object (Keyed.put members name value)).settled =
      .object (Keyed.put members name value.settled) := by
  have same := Json.object.inj settled
  have distinct := (settled_object_iff.1 settled).1
  rw [settledMembers_eq_mapValues, Keyed.collect_mapValues, Keyed.collect_of_nodup distinct] at same
  change Json.object (Keyed.collect (settledMembers (Keyed.put members name value))) = _
  rw [settledMembers_eq_mapValues, ← Keyed.put_mapValues, same,
    Keyed.collect_of_nodup (Keyed.nodup_put distinct _ _)]

theorem settled_erase {members : List (String × Json)} (name : String)
    (settled : (Json.object members).settled = .object members) :
    (Json.object (Keyed.erase members name)).settled = .object (Keyed.erase members name) := by
  obtain ⟨distinct, values⟩ := settled_object_iff.1 settled
  exact settled_object_iff.2 ⟨Keyed.nodup_erase distinct name,
    fun member kept => values member (List.mem_of_mem_filter kept)⟩

theorem settled_members {value : Json} (settled : value.settled = value) :
    (Json.object value.members).settled = .object value.members := by
  cases value with
  | object members => exact settled
  | _ => rfl

def ingressPatch (address : String) : Json :=
  .object [("ingress", Endpoint.toJson ⟨none, some address⟩)]

/-- What the members of an ingress become where the address is published. -/
def addressed (address : String) (ingress : List (String × Json)) : List (String × Json) :=
  Keyed.put (Keyed.erase ingress "hostname") "ip" (.string address)

/-- The address is told by an ingress, and no name of a host is. -/
structure Tells (address : String) (ingress : List (String × Json)) : Prop where
  ip : Keyed.get? ingress "ip" = some (.string address)
  unnamed : Keyed.get? ingress "hostname" = none

/-- A name and how it is written are those of one scalar. -/
def Entry.Spelled (entry : Entry) : Prop :=
  ∃ scalar : Json, scalar.name? = .ok entry.name ∧ scalar.nameText = entry.text

/-- Entries as they are listed by what was read: one for each name. -/
structure Listed (entries : List Entry) : Prop where
  distinct : (entries.map Entry.name).Nodup
  spelled : ∀ entry ∈ entries, entry.Spelled
  settled : ∀ entry ∈ entries, entry.value.settled = entry.value

theorem names_putEntry (entries : List Entry) (entry : Entry) :
    (putEntry entries entry).map Entry.name =
      if entry.name ∈ entries.map Entry.name then entries.map Entry.name
      else entries.map Entry.name ++ [entry.name] := by
  induction entries with
  | nil => rfl
  | cons first rest ih =>
    by_cases same : first.name = entry.name
    · simp [putEntry, same]
    · simp only [putEntry, same, ↓reduceIte, List.map_cons, ih, List.mem_cons, Ne.symm same,
        false_or]
      split <;> rfl

theorem mem_putEntry {entries : List Entry} {entry other : Entry}
    (member : other ∈ putEntry entries entry) :
    other ∈ entries ∨ other.value = entry.value ∧
      (other = entry ∨ ∃ first ∈ entries, first.name = other.name ∧ first.text = other.text) := by
  induction entries with
  | nil =>
    obtain rfl := List.mem_singleton.1 member
    exact .inr ⟨rfl, .inl rfl⟩
  | cons first rest ih =>
    rw [putEntry] at member
    split at member
    · rcases List.mem_cons.1 member with rfl | later
      · exact .inr ⟨rfl, .inr ⟨first, List.mem_cons_self, rfl, rfl⟩⟩
      · exact .inl (List.mem_cons_of_mem _ later)
    · rcases List.mem_cons.1 member with rfl | later
      · exact .inl List.mem_cons_self
      · rcases ih later with kept | ⟨value, rfl | ⟨first, held, spelled⟩⟩
        · exact .inl (List.mem_cons_of_mem _ kept)
        · exact .inr ⟨value, .inl rfl⟩
        · exact .inr ⟨value, .inr ⟨first, List.mem_cons_of_mem _ held, spelled⟩⟩

theorem mem_putEntry_self (entries : List Entry) (entry : Entry) :
    ∃ other ∈ putEntry entries entry, other.name = entry.name ∧ other.value = entry.value := by
  induction entries with
  | nil => exact ⟨entry, List.mem_singleton_self _, rfl, rfl⟩
  | cons first rest ih =>
    rw [putEntry]
    split
    · rename_i same
      exact ⟨_, List.mem_cons_self, same, rfl⟩
    · obtain ⟨other, member, found⟩ := ih
      exact ⟨other, List.mem_cons_of_mem _ member, found⟩

theorem Listed.nodup_putEntry {entries : List Entry} (listed : Listed entries) (entry : Entry) :
    ((putEntry entries entry).map Entry.name).Nodup := by
  rw [names_putEntry]
  split
  · exact listed.distinct
  · rename_i missing
    exact List.Nodup.append listed.distinct (List.nodup_singleton _)
      (List.disjoint_singleton.2 missing)

theorem Listed.putEntry {entries : List Entry} (listed : Listed entries) {entry : Entry}
    (spelled : entry.Spelled) (settled : entry.value.settled = entry.value) :
    Listed (putEntry entries entry) where
  distinct := listed.nodup_putEntry entry
  spelled := by
    intro other member
    rcases mem_putEntry member with kept | ⟨_, rfl | ⟨first, held, name, text⟩⟩
    · exact listed.spelled other kept
    · exact spelled
    · obtain ⟨scalar, named, written⟩ := listed.spelled first held
      exact ⟨scalar, named.trans (congrArg Except.ok name), written.trans text⟩
  settled := by
    intro other member
    rcases mem_putEntry member with kept | ⟨value, _⟩
    · exact listed.settled other kept
    · rw [value, settled]

theorem settled_listed {value : Json} {items : List Json} (settled : value.settled = value)
    (lists : value.listed? = some items) : ∀ item ∈ items, item.settled = item := by
  intro item member
  cases value with
  | array elements =>
    obtain rfl := Option.some.inj lists
    have same := Json.array.inj settled
    rw [settledItems_eq_map] at same
    exact List.map_inj_left.1 (same.trans (List.map_id _).symm) item member
  | string text =>
    obtain rfl := Option.some.inj lists
    obtain ⟨c, _, rfl⟩ := List.mem_map.1 member
    rfl
  | object members =>
    obtain rfl := Option.some.inj lists
    obtain ⟨name, _, rfl⟩ := List.mem_map.1 member
    rfl
  | _ => cases lists

theorem listed_readEntries {items : List Json} {index : Nat} {before listed : List Entry}
    (read : readEntries index before items = .ok listed) (sound : Listed before)
    (settled : ∀ item ∈ items, item.settled = item) : Listed listed := by
  induction items generalizing index before with
  | nil =>
    obtain rfl := Except.ok.inj read
    exact sound
  | cons item items ih =>
    rw [readEntries] at read
    split at read
    · cases read
    · rename_i first value lists
      have inside := settled_listed (settled item List.mem_cons_self) lists
      cases named : first.name? with
      | error error =>
        rw [named] at read
        cases read
      | ok name =>
        rw [named] at read
        refine ih read (sound.putEntry ⟨first, named, rfl⟩ ?_) fun other member =>
          settled other (List.mem_cons_of_mem _ member)
        exact inside value (List.mem_cons_of_mem _ List.mem_cons_self)
    · cases read

theorem writeInt_head (value : Int) : ∃ c cs, writeInt value = c :: cs ∧ c ≠ 'i' := by
  rcases writeInt_cases value with ⟨_, written⟩ | ⟨_, written⟩
  · exact ⟨_, _, written, by decide⟩
  · cases digits : Nat.toDigits 10 value.natAbs with
    | nil => exact absurd digits Nat.toDigits_ne_nil
    | cons c cs =>
      refine ⟨c, cs, written.trans digits, ?_⟩
      rintro rfl
      exact absurd (isDigit_toDigits (digits ▸ List.mem_cons_self)) (by decide)

theorem text_head (number : Binary64) : ∃ c cs, number.text = c :: cs ∧ c ≠ 'i' := by
  cases number with
  | nan => exact ⟨'N', _, rfl, by decide⟩
  | infinity negative =>
    cases negative with
    | false => exact ⟨'I', _, rfl, by decide⟩
    | true => exact ⟨'-', _, rfl, by decide⟩
  | finite negative mantissa exponent fits =>
    obtain ⟨c, cs, text, digit⟩ := magnitude_digit fits
    rw [text_finite, text]
    cases negative with
    | false =>
      refine ⟨c, cs, rfl, ?_⟩
      rintro rfl
      exact absurd digit (by decide)
    | true => exact ⟨'-', _, rfl, by decide⟩

theorem name_of_ingress {scalar : Json} {name : Name} (named : scalar.name? = .ok name)
    (written : scalar.nameText = "ingress") : name = .text "ingress" := by
  have unlike {text : List Char} (other : ∃ c cs, text = c :: cs ∧ c ≠ 'i') :
      String.ofList (text ++ []) ≠ "ingress" := by
    obtain ⟨c, cs, rfl, apart⟩ := other
    intro same
    have chars := congrArg String.toList same
    rw [String.toList_ofList] at chars
    exact apart (List.cons.inj chars).1
  cases scalar with
  | string text =>
    obtain rfl := Except.ok.inj named
    exact congrArg Name.text written
  | null => exact absurd written (by decide)
  | bool value => cases value <;> exact absurd written (by decide)
  | int value => exact absurd written (unlike (writeInt_head value))
  | float number => exact absurd written (unlike (text_head number))
  | array items => cases named
  | object members => cases named

theorem text_of_named {scalar : Json} {text : String} (named : scalar.name? = .ok (.text text)) :
    scalar.nameText = text := by
  cases scalar with
  | string value => exact Name.text.inj (Except.ok.inj named)
  | float number =>
    have other := Except.ok.inj named
    split at other <;> cases other
  | _ => cases named

theorem Entry.Spelled.text_eq {entry : Entry} (spelled : entry.Spelled) {name : String}
    (named : entry.name = .text name) : entry.text = name := by
  obtain ⟨scalar, told, written⟩ := spelled
  rw [← written, text_of_named (told.trans (congrArg Except.ok named))]

theorem listed_entries {target : Json} {listed : List Entry} (settled : target.settled = target)
    (other : ∀ members, target ≠ .object members) (lists : target.entries = .ok listed) :
    Listed listed := by
  have empty : Listed [] := ⟨List.nodup_nil, fun _ => nofun, fun _ => nofun⟩
  unfold entries at lists
  split at lists
  · rename_i members
    exact (other members rfl).elim
  · split at lists
    · cases lists
    · rename_i items same
      exact listed_readEntries lists empty (settled_listed settled same)

theorem mergePatch_listed {target : Json} (other : ∀ members, target ≠ .object members)
    (patch : List (String × Json)) :
    target.mergePatch (.object patch) = target.entries.map fun listed =>
      .object ((patchEntries listed patch).map fun entry => (entry.text, entry.value)) := by
  cases target with
  | object members => exact (other members rfl).elim
  | _ => rfl

theorem settled_member {members : List (String × Json)}
    (settled : (Json.object members).settled = .object members) (name : String) :
    ∀ value ∈ Keyed.get? members name, value.settled = value := fun _ held =>
  (settled_object_iff.1 settled).2 _ (Keyed.mem_of_get? held)

/-- No two members that a value has or lists are written alike. -/
def WrittenApart (value : Json) : Prop :=
  ∀ listed, value.entries = .ok listed → (listed.map Entry.text).Nodup

end Bastion.Json
