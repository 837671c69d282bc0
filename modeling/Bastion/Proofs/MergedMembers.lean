import Bastion.Proofs.MergedIngress

set_option autoImplicit false

namespace Bastion.Json

open Keyed (names)

variable {target patch : List (String × Json)} {name key : String}

/-- A member that is set to a value, or removed. -/
def placed (members : List (String × Json)) (name : String) : Option Json → List (String × Json)
  | none => Keyed.erase members name
  | some value => Keyed.put members name value

@[simp] theorem get?_placed_same (members : List (String × Json)) (name : String)
    (value : Option Json) : Keyed.get? (placed members name value) name = value := by
  cases value with
  | none => exact Keyed.get?_erase_same members name
  | some value => exact Keyed.get?_put_same members name value

theorem get?_placed_other (members : List (String × Json)) (value : Option Json)
    (other : key ≠ name) : Keyed.get? (placed members name value) key = Keyed.get? members key := by
  cases value with
  | none => exact Keyed.get?_erase_other members other
  | some value => exact Keyed.get?_put_other members value other

theorem settled_placed {value : Option Json} (settled : (Json.object target).settled = .object target)
    (valued : ∀ placed ∈ value, placed.settled = placed) :
    (Json.object (placed target name value)).settled = .object (placed target name value) := by
  cases value with
  | none => exact settled_erase name settled
  | some value =>
    have put := settled_put name value settled
    rwa [valued value rfl] at put

@[simp] theorem patchMembers_nil (target : List (String × Json)) :
    patchMembers target [] = target := by
  rw [patchMembers]

theorem patchMembers_cons (target : List (String × Json)) (name : String) (value : Json)
    (rest : List (String × Json)) :
    patchMembers target ((name, value) :: rest) =
      patchMembers (placed target name (patchValue (Keyed.get? target name) value)) rest := by
  rw [patchMembers]
  cases patchValue (Keyed.get? target name) value <;> rfl

theorem patchValue_eq_none {current : Option Json} {value : Json} :
    patchValue current value = none ↔ value = .null := by
  cases value <;> simp [patchValue]

theorem get?_patchMembers_other (target : List (String × Json)) (free : key ∉ names patch) :
    Keyed.get? (patchMembers target patch) key = Keyed.get? target key := by
  induction patch generalizing target with
  | nil => rw [patchMembers_nil]
  | cons member rest ih =>
    obtain ⟨name, value⟩ := member
    have other : key ≠ name := fun same => free (same ▸ List.mem_cons_self)
    have later : key ∉ names rest := fun held => free (List.mem_cons_of_mem _ held)
    rw [patchMembers_cons, ih _ later, get?_placed_other _ _ other]

/-- What a patch names becomes what the patch makes of it, whatever else the target holds. -/
theorem get?_patchMembers_own (target : List (String × Json)) {value : Json}
    (distinct : (names patch).Nodup) (member : (key, value) ∈ patch) :
    Keyed.get? (patchMembers target patch) key = patchValue (Keyed.get? target key) value := by
  induction patch generalizing target with
  | nil => cases member
  | cons first rest ih =>
    obtain ⟨name, patch⟩ := first
    obtain ⟨missing, distinctRest⟩ := List.nodup_cons.1 distinct
    rw [patchMembers_cons]
    rcases List.mem_cons.1 member with same | later
    · obtain ⟨rfl, rfl⟩ := Prod.mk.inj same
      rw [get?_patchMembers_other _ missing, get?_placed_same]
    · have held : key ∈ names rest := List.mem_map_of_mem later
      have other : key ≠ name := fun same => missing (same ▸ held)
      rw [ih _ distinctRest later, get?_placed_other _ _ other]

/-- Targets that agree on a member agree on what a patch makes of it. -/
theorem get?_patchMembers_congr {other : List (String × Json)} (distinct : (names patch).Nodup)
    (same : Keyed.get? target key = Keyed.get? other key) :
    Keyed.get? (patchMembers target patch) key = Keyed.get? (patchMembers other patch) key := by
  by_cases named : key ∈ names patch
  · obtain ⟨⟨_, value⟩, member, rfl⟩ := List.mem_map.1 named
    rw [get?_patchMembers_own target distinct member, get?_patchMembers_own other distinct member,
      same]
  · rw [get?_patchMembers_other target named, get?_patchMembers_other other named, same]

theorem placed_self (members : List (String × Json)) (name : String) :
    placed members name (Keyed.get? members name) = members := by
  cases held : Keyed.get? members name with
  | none => exact Keyed.erase_eq_self held
  | some value => exact Keyed.put_eq_self held

/-- A patch that leaves each member that it names leaves the order of the members too. -/
theorem patchMembers_eq_self (distinct : (names patch).Nodup)
    (unchanged : ∀ key ∈ names patch,
      Keyed.get? (patchMembers target patch) key = Keyed.get? target key) :
    patchMembers target patch = target := by
  induction patch with
  | nil => exact patchMembers_nil target
  | cons member rest ih =>
    obtain ⟨name, value⟩ := member
    have first : (name, value) ∈ (name, value) :: rest := List.mem_cons_self
    have own := get?_patchMembers_own target distinct first
    have same : patchValue (Keyed.get? target name) value = Keyed.get? target name :=
      own.symm.trans (unchanged name List.mem_cons_self)
    rw [patchMembers_cons, same, placed_self] at unchanged ⊢
    exact ih (List.nodup_cons.1 distinct).2 fun key held =>
      unchanged key (List.mem_cons_of_mem _ held)

/-- Beside a patch of other members, in either order, a patch makes no difference only where it would change
nothing by itself. -/
theorem patchMembers_eq_self_of_apart {others : List (String × Json)} (distinct : (names patch).Nodup)
    (apart : ∀ key ∈ names patch, key ∉ names others)
    (same : patchMembers (patchMembers target patch) others = patchMembers target others ∨
      patchMembers (patchMembers target others) patch = patchMembers target others) :
    patchMembers target patch = target := by
  refine patchMembers_eq_self distinct fun key named => ?_
  have free := apart key named
  have stays := get?_patchMembers_other target free
  rcases same with before | after
  · calc Keyed.get? (patchMembers target patch) key
        = Keyed.get? (patchMembers (patchMembers target patch) others) key :=
          (get?_patchMembers_other _ free).symm
      _ = Keyed.get? target key := by rw [before, stays]
  · calc Keyed.get? (patchMembers target patch) key
        = Keyed.get? (patchMembers (patchMembers target others) patch) key :=
          get?_patchMembers_congr distinct stays.symm
      _ = Keyed.get? target key := by rw [after, stays]

mutual

theorem settled_patchValue {current : Option Json}
    (settled : ∀ value ∈ current, value.settled = value) :
    ∀ patch : Json, patch.settled = patch →
      ∀ value ∈ patchValue current patch, value.settled = value
  | .null, _ => by
    rw [patchValue]
    exact nofun
  | .object members, lawful => by
    rw [patchValue]
    rintro _ ⟨⟩
    refine settled_patchMembers ?_ members (settled_object_iff.1 lawful).2
    cases current with
    | none => rfl
    | some value => exact settled_members (settled value rfl)
  | .bool _, lawful => fun _ held => (Option.some.inj held) ▸ lawful
  | .int _, lawful => fun _ held => (Option.some.inj held) ▸ lawful
  | .float _, lawful => fun _ held => (Option.some.inj held) ▸ lawful
  | .string _, lawful => fun _ held => (Option.some.inj held) ▸ lawful
  | .array _, lawful => fun _ held => (Option.some.inj held) ▸ lawful

theorem settled_patchMembers {target : List (String × Json)}
    (settled : (Json.object target).settled = .object target) :
    ∀ patch : List (String × Json), (∀ member ∈ patch, member.2.settled = member.2) →
      (Json.object (patchMembers target patch)).settled = .object (patchMembers target patch)
  | [], _ => by
    rw [patchMembers_nil]
    exact settled
  | (name, value) :: rest, lawful => by
    rw [patchMembers_cons]
    have valued := settled_patchValue (settled_member settled name) value
      (lawful _ List.mem_cons_self)
    exact settled_patchMembers (settled_placed settled valued) rest
      fun member later => lawful member (List.mem_cons_of_mem _ later)

end

/-- An object merged with a patch is an object, and the patch is one. -/
theorem mergePatch_object {fields : List (String × Json)} {patch merged : Json} :
    (Json.object fields).mergePatch patch = .ok merged ↔
      ∃ changes, patch = .object changes ∧ merged = .object (patchMembers fields changes) := by
  cases patch with
  | object changes =>
    constructor
    · intro merges
      exact ⟨changes, rfl, (Except.ok.inj merges).symm⟩
    · rintro ⟨_, ⟨rfl⟩, rfl⟩
      rfl
  | _ =>
    constructor
    · intro merges
      cases merges
    · rintro ⟨_, same, _⟩
      cases same

end Bastion.Json
