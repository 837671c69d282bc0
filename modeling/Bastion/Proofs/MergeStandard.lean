import Bastion.Proofs.MergedMembers

set_option autoImplicit false

/- Merging by the rules of RFC 7386, and what a merge does to the order of members: in each object that the
patch reaches, the names that it does not remove stay in their order, and its new names follow in its own. -/
namespace Bastion.Json

open Keyed (names)

mutual

/-- The function MergePatch of RFC 7386, section 2. There may be no target. -/
def mergeOnto (target : Option Json) : Json → Json
  | .object patch =>
    match target with
    | some (.object members) => .object (mergeEach members patch)
    | _ => .object (mergeEach [] patch)
  | patch => patch

/-- Goes through the names and values of a patch. -/
def mergeEach (target : List (String × Json)) : List (String × Json) → List (String × Json)
  | [] => target
  | (name, .null) :: rest =>
    mergeEach (if (Keyed.get? target name).isSome then Keyed.erase target name else target) rest
  | (name, value) :: rest =>
    mergeEach (Keyed.put target name (mergeOnto (Keyed.get? target name) value)) rest

end

theorem mergeOnto_object (target : Option Json) (patch : List (String × Json)) :
    mergeOnto target (.object patch) = .object (mergeEach ((target.map members).getD []) patch) := by
  rw [mergeOnto.eq_def]
  rcases target with _ | target
  · rfl
  · cases target <;> rfl

theorem erase_if_there (target : List (String × Json)) (name : String) :
    (if (Keyed.get? target name).isSome then Keyed.erase target name else target) =
      Keyed.erase target name := by
  split
  · rfl
  · rename_i missing
    exact (Keyed.erase_eq_self (Option.not_isSome_iff_eq_none.1 missing)).symm

theorem mergeEach_value (target : List (String × Json)) (name : String) {value : Json}
    (present : value ≠ .null) (rest : List (String × Json)) :
    mergeEach target ((name, value) :: rest) =
      mergeEach (Keyed.put target name (mergeOnto (Keyed.get? target name) value)) rest := by
  rw [mergeEach]
  exact present

mutual

theorem patchValue_eq_mergeOnto (current : Option Json) : ∀ value : Json, value ≠ .null →
    patchValue current value = some (mergeOnto current value)
  | .null, present => absurd rfl present
  | .object patch, _ => by
    rw [patchValue, mergeOnto_object, patchMembers_eq_mergeEach _ patch]
  | .bool _, _ => rfl
  | .int _, _ => rfl
  | .float _, _ => rfl
  | .string _, _ => rfl
  | .array _, _ => rfl

theorem patchMembers_eq_mergeEach (target : List (String × Json)) : ∀ patch : List (String × Json),
    patchMembers target patch = mergeEach target patch
  | [] => by rw [patchMembers, mergeEach]
  | (name, value) :: rest => by
    by_cases removed : value = .null
    · subst removed
      rw [patchMembers_cons, patchValue, mergeEach, erase_if_there, placed,
        patchMembers_eq_mergeEach _ rest]
    · rw [patchMembers_cons, patchValue_eq_mergeOnto _ value removed, mergeEach_value _ _ removed,
        placed, patchMembers_eq_mergeEach _ rest]

end

variable {target patch changes : List (String × Json)} {name : String} {path : List String}

def at? : Json → List String → Option Json
  | value, [] => some value
  | value, name :: path => (Keyed.get? value.members name).bind (at? · path)

/-- The members of the object where a path leads. -/
def membersAt (value : Json) (path : List String) : List (String × Json) :=
  ((value.at? path).map members).getD []

/-- The names that a patch does not remove, in their order, and the new ones that it sets, in its
own. -/
def namesAfter (old : List String) (patch : List (String × Json)) : List String :=
  old.filter (fun name => Keyed.get? patch name ≠ some .null) ++
    (names patch).filter fun name => Keyed.get? patch name ≠ some .null ∧ name ∉ old

/-- A name that is removed is gone, and no later member of the patch has it. -/
theorem namesAfter_null {rest : List (String × Json)} (missing : name ∉ names rest)
    (old : List String) :
    namesAfter old ((name, .null) :: rest) = namesAfter (old.filter (· ≠ name)) rest := by
  have apart {other : String} (later : other ∈ names rest) : name ≠ other := fun same =>
    missing (same ▸ later)
  unfold namesAfter
  congr 1
  · rw [List.filter_filter]
    refine List.filter_congr fun other _ => ?_
    by_cases same : name = other
    · simp [Keyed.get?, same]
    · simp [Keyed.get?, same, Ne.symm same]
  · have first : names ((name, Json.null) :: rest) = name :: names rest := rfl
    rw [first, List.filter_cons_of_neg (by simp [Keyed.get?])]
    refine List.filter_congr fun other later => ?_
    simp [Keyed.get?, apart later, Ne.symm (apart later)]

/-- A name that is set keeps its place, or comes last where it is new. -/
theorem namesAfter_value {rest : List (String × Json)} {value : Json} (missing : name ∉ names rest)
    (present : value ≠ .null) (old : List String) :
    namesAfter old ((name, value) :: rest) =
      namesAfter (if name ∈ old then old else old ++ [name]) rest := by
  have apart {other : String} (later : other ∈ names rest) : name ≠ other := fun same =>
    missing (same ▸ later)
  have unnamed : Keyed.get? rest name = none := Keyed.get?_eq_none.2 missing
  have stays (other : String) : Keyed.get? ((name, value) :: rest) other ≠ some .null ↔
      Keyed.get? rest other ≠ some .null := by
    by_cases same : name = other
    · subst same
      simp [Keyed.get?, unnamed, present]
    · simp [Keyed.get?, same]
  have first : names ((name, value) :: rest) = name :: names rest := rfl
  unfold namesAfter
  simp only [stays, first]
  split
  · rename_i held
    rw [List.filter_cons_of_neg (by simp [held])]
  · rename_i new
    rw [List.filter_append, List.append_assoc, List.filter_cons_of_pos (by simp [new, unnamed])]
    congr 1
    rw [List.filter_cons_of_pos (by simp [unnamed]), List.filter_nil, List.singleton_append]
    congr 1
    refine List.filter_congr fun other later => ?_
    simp [Ne.symm (apart later)]

theorem names_patchMembers (distinct : (names patch).Nodup) (target : List (String × Json)) :
    names (patchMembers target patch) = namesAfter (names target) patch := by
  induction patch generalizing target with
  | nil => simp [namesAfter, names, Keyed.get?]
  | cons member rest ih =>
    obtain ⟨name, value⟩ := member
    obtain ⟨missing, distinctRest⟩ := List.nodup_cons.1 distinct
    rw [patchMembers_cons, ih distinctRest]
    by_cases removed : value = .null
    · subst removed
      rw [namesAfter_null missing, patchValue, placed, Keyed.names_erase]
    · rw [namesAfter_value missing removed, patchValue_eq_mergeOnto _ _ removed, placed,
        Keyed.names_put]

@[simp] theorem at?_nil (value : Json) : value.at? [] = some value := by
  rw [at?]

theorem at?_cons (value : Json) (name : String) (path : List String) :
    value.at? (name :: path) = (Keyed.get? value.members name).bind (at? · path) := by
  rw [at?]

theorem object_of_at? {value : Json} (reaches : value.at? path = some (.object changes)) :
    ∃ inner, value = .object inner := by
  cases path with
  | nil =>
    rw [at?_nil] at reaches
    exact ⟨changes, Option.some.inj reaches⟩
  | cons name path =>
    rw [at?_cons] at reaches
    obtain ⟨_, held, _⟩ := Option.bind_eq_some_iff.1 reaches
    cases value with
    | object inner => exact ⟨inner, rfl⟩
    | _ => cases held

theorem membersAt_cons (target : List (String × Json)) (name : String) (path : List String) :
    membersAt (.object target) (name :: path) =
      membersAt (.object (((Keyed.get? target name).map members).getD [])) path := by
  unfold membersAt
  rw [at?_cons]
  change (((Keyed.get? target name).bind _).map members).getD [] = _
  cases Keyed.get? target name with
  | none =>
    cases path with
    | nil => rfl
    | cons other path =>
      rw [at?_cons]
      rfl
  | some value =>
    cases path with
    | nil =>
      rw [Option.bind_some, at?_nil, at?_nil]
      rfl
    | cons other path =>
      rw [Option.bind_some, at?_cons, at?_cons]
      rfl

/-- Wherever the patch has an object, the members that are there are patched with its members. -/
theorem merged_at (lawful : (Json.object patch).settled = .object patch)
    (reaches : (Json.object patch).at? path = some (.object changes)) :
    (Json.object (patchMembers target patch)).at? path =
      some (.object (patchMembers (membersAt (.object target) path) changes)) := by
  induction path generalizing target patch with
  | nil =>
    rw [at?_nil] at reaches
    obtain rfl := Json.object.inj (Option.some.inj reaches)
    rw [at?_nil]
    unfold membersAt
    rw [at?_nil]
    rfl
  | cons name path ih =>
    rw [at?_cons] at reaches
    obtain ⟨value, held, below⟩ := Option.bind_eq_some_iff.1 reaches
    obtain ⟨inner, rfl⟩ := object_of_at? below
    have lawfulInner := settled_member lawful name _ held
    have own := get?_patchMembers_own target (settled_object_iff.1 lawful).1 (Keyed.mem_of_get? held)
    rw [patchValue] at own
    rw [at?_cons, membersAt_cons]
    change (Keyed.get? (patchMembers target patch) name).bind _ = _
    rw [own]
    exact ih lawfulInner below

theorem settled_at {value : Json} (settled : value.settled = value)
    (reaches : value.at? path = some (.object changes)) :
    (Json.object changes).settled = .object changes := by
  induction path generalizing value with
  | nil =>
    rw [at?_nil] at reaches
    obtain rfl := Option.some.inj reaches
    exact settled
  | cons name path ih =>
    rw [at?_cons] at reaches
    obtain ⟨inner, held, below⟩ := Option.bind_eq_some_iff.1 reaches
    exact ih (settled_member (settled_members settled) name _ held) below

/-- An object is merged by `merge_patch` as the standard says. In every object that the patch reaches, the
names that it does not remove keep their order and the new ones follow in that of the patch, and what it
does not name is left as it was. -/
theorem mergePatch_standard (target patch : List (String × Json)) :
    let merged := mergeOnto (some (.object target)) (.object patch)
    (Json.object target).mergePatch (.object patch) = .ok merged ∧
    ((Json.object patch).settled = .object patch → ∀ path changes,
      (Json.object patch).at? path = some (.object changes) → ∃ level,
        merged.at? path = some (.object level) ∧
        names level = namesAfter (names (membersAt (.object target) path)) changes ∧
        ∀ name, name ∉ names changes →
          Keyed.get? level name = Keyed.get? (membersAt (.object target) path) name) := by
  intro merged
  have standard : merged = .object (patchMembers target patch) := by
    rw [patchMembers_eq_mergeEach]
    exact mergeOnto_object _ _
  refine ⟨congrArg Except.ok standard.symm, fun lawful path changes reaches => ?_⟩
  have distinct := (settled_object_iff.1 (settled_at lawful reaches)).1
  refine ⟨_, standard ▸ merged_at lawful reaches, ?_, fun name free => ?_⟩
  · exact names_patchMembers distinct _
  · exact get?_patchMembers_other _ free

/-- A status with an ingress, and what becomes of it: a host is no longer named, an address is replaced,
and a zone comes in. -/
def oldStatus : List (String × Json) :=
  [("phase", .string "Pending"), ("ingress", .object [("hostname", .string "bastion.example"),
    ("ip", .string "198.51.100.7"), ("port", .int 22)])]

def statusPatch : List (String × Json) :=
  [("ingress", .object [("zone", .string "zone-a"), ("hostname", .null),
    ("ip", .string "198.51.100.9")]), ("phase", .null), ("tags", .array [.null])]

theorem merged_ingress_in_order :
    (Json.object oldStatus).mergePatch (.object statusPatch) = .ok (.object [("ingress",
      .object [("ip", .string "198.51.100.9"), ("port", .int 22), ("zone", .string "zone-a")]),
      ("tags", .array [.null])]) ∧
    ∃ level, (mergeOnto (some (.object oldStatus)) (.object statusPatch)).at? ["ingress"] =
      some (.object level) ∧ names level = ["ip", "port", "zone"] := by
  obtain ⟨merges, ordered⟩ := mergePatch_standard oldStatus statusPatch
  obtain ⟨level, there, named, _⟩ := ordered (by decide) ["ingress"] _ (by rfl)
  exact ⟨merges.trans (by decide), level, there, named.trans (by decide)⟩

end Bastion.Json
