import Bastion.Proofs.RuleDiff
import Mathlib.Data.Set.Lattice
import Mathlib.Order.CompletePartialOrder

set_option autoImplicit false

namespace Bastion.Rule

/-- The places in a list whose item passes a test, in order. -/
def placesOf {α : Type} (test : Nat → α → Bool) (items : List α) : List Nat :=
  (List.range items.length).filter fun place => items[place]?.any (test place)

def itemsAt {α : Type} (items : List α) (places : List Nat) : List α :=
  places.filterMap (items[·]?)

/-- The places of keys that are not held and do not come at an earlier place. -/
def firstPlaces (held keys : List Key) : List Nat :=
  placesOf (fun place key => key ∉ held ∧ key ∉ keys.take place) keys

def strayPlaces (wanted keys : List Key) : List Nat :=
  placesOf (fun _ key => key ∉ wanted) keys

section

variable {α β : Type} {test other : Nat → α → Bool}

theorem placesOf_cons (test : Nat → α → Bool) (item : α) (rest : List α) :
    placesOf test (item :: rest) =
      (if test 0 item then [0] else []) ++ (placesOf (fun place => test (place + 1)) rest).map
        (· + 1) := by
  unfold placesOf
  rw [List.length_cons, List.range_succ_eq_map, List.filter_cons, List.filter_map]
  cases first : test 0 item <;> simp [first, Function.comp_def]

theorem placesOf_congr (same : ∀ place item, test place item = other place item) (items : List α) :
    placesOf test items = placesOf other items := by
  have tests : test = other := funext fun place => funext (same place)
  rw [tests]

theorem itemsAt_cons (item : α) (rest : List α) (first : Bool) (places : List Nat) :
    itemsAt (item :: rest) ((if first then [0] else []) ++ places.map (· + 1)) =
      (if first then [item] else []) ++ itemsAt rest places := by
  have shifted : (fun place => (item :: rest)[place]?) ∘ (· + 1) = (rest[·]?) :=
    funext fun _ => List.getElem?_cons_succ
  unfold itemsAt
  rw [List.filterMap_append, List.filterMap_map, shifted]
  cases first <;> rfl

end

theorem firstPlaces_cons (held : List Key) (key : Key) (rest : List Key) :
    firstPlaces held (key :: rest) =
      (if decide (key ∉ held) then [0] else []) ++ (firstPlaces (key :: held) rest).map (· + 1) := by
  unfold firstPlaces
  rw [placesOf_cons]
  congr 1
  · simp
  · congr 1
    refine placesOf_congr (fun place other => ?_) rest
    simp only [List.take_succ_cons, List.mem_cons, not_or, decide_eq_decide]
    rw [and_left_comm, and_assoc]

/-- Only which keys are held matters, not in what order or how often. -/
theorem firstPlaces_congr {held other : List Key} (same : ∀ key, key ∈ held ↔ key ∈ other)
    (keys : List Key) : firstPlaces held keys = firstPlaces other keys :=
  placesOf_congr (fun _ key => by simp only [same key]) keys

theorem unseen_eq_itemsAt (seen : List Key) (rules : List Rule) :
    unseen seen rules = itemsAt rules (firstPlaces seen (rules.map key)) := by
  induction rules generalizing seen with
  | nil => rfl
  | cons rule rest ih =>
    rw [List.map_cons, firstPlaces_cons, itemsAt_cons, unseen]
    by_cases known : rule.key ∈ seen
    · have absorbed (key : Key) : key ∈ rule.key :: seen ↔ key ∈ seen := by
        rw [List.mem_cons, or_iff_right_of_imp]
        rintro rfl
        exact known
      rw [firstPlaces_congr absorbed, ← ih]
      simp [known]
    · rw [← ih]
      simp [known]

theorem filter_eq_itemsAt (wanted : List Key) (rules : List Rule) :
    rules.filter (fun rule => rule.key ∉ wanted) =
      itemsAt rules (strayPlaces wanted (rules.map key)) := by
  unfold strayPlaces
  induction rules with
  | nil => rfl
  | cons rule rest ih =>
    rw [List.map_cons, placesOf_cons, itemsAt_cons, ← ih, List.filter_cons]
    cases decide (rule.key ∉ wanted) <;> rfl

theorem diff_eq_itemsAt (wanted current : List Rule) :
    diff wanted current =
      ⟨itemsAt wanted (firstPlaces (current.map key) (wanted.map key)),
        itemsAt current (strayPlaces (wanted.map key) (current.map key))⟩ := by
  unfold diff
  rw [unseen_eq_itemsAt, filter_eq_itemsAt]

/-- What a provider gives a rule besides its meaning. -/
structure Label where
  priority : Int
  handle : Option String

/-- The rules with other priorities and handles, told by their places. -/
def relabelled (labels : Nat → Label) (rules : List Rule) : List Rule :=
  rules.mapIdx fun place rule =>
    { rule with priority := (labels place).priority, handle := (labels place).handle }

@[simp] theorem keys_relabelled (labels : Nat → Label) (rules : List Rule) :
    (relabelled labels rules).map key = rules.map key := by
  refine List.ext_getElem? fun place => ?_
  simp only [relabelled, List.getElem?_map, List.getElem?_mapIdx, Option.map_map]
  rfl

/-- Other labels leave the places of a diff, and what it takes from them has its own. -/
theorem diff_relabelled (labels marks : Nat → Label) (wanted current : List Rule) :
    diff (relabelled labels wanted) (relabelled marks current) =
      ⟨itemsAt (relabelled labels wanted) (firstPlaces (current.map key) (wanted.map key)),
        itemsAt (relabelled marks current) (strayPlaces (wanted.map key) (current.map key))⟩ := by
  rw [diff_eq_itemsAt, keys_relabelled, keys_relabelled]

/-- A text under which each choice finds the value that it is the text of stands for one value only. -/
theorem eq_of_text {α : Type} {text : α → String} (choices : List (String × α))
    (named : ∀ value, Keyed.get? choices (text value) = some value) {value other : α}
    (same : text value = text other) : value = other := by
  have found : some value = some other := by rw [← named value, same, named other]
  exact Option.some.inj found

/-- Keys are told apart by their texts: six of an ingress rule, nine of an egress rule. -/
theorem Key.fields_injective {key other : Key} (same : key.fields = other.fields) : key = other := by
  obtain ⟨direction, _, _, _, _, _, target⟩ := key
  obtain ⟨_, _, _, _, _, _, otherTarget⟩ := other
  simp only [fields, List.cons_append, List.nil_append, List.cons.injEq, Option.some.injEq] at same
  obtain ⟨directions, rfl, rfl, rfl, rfl, rfl, targets⟩ := same
  obtain rfl := eq_of_text Direction.choices Direction.get?_choices directions
  rcases target with _ | ⟨destination, group, policy⟩ <;>
    rcases otherTarget with _ | ⟨otherDestination, otherGroup, otherPolicy⟩
  · rfl
  · cases targets
  · cases targets
  · simp only [List.cons.injEq, Option.some.injEq] at targets
    obtain ⟨rfl, rfl, policies, _⟩ := targets
    obtain rfl := eq_of_text Policy.choices Policy.get?_choices policies
    rfl

theorem keySet_removed (wanted current : List Rule) :
    keySet (diff wanted current).removed = keySet current \ keySet wanted := by
  ext key
  simp only [Set.mem_sdiff, mem_keySet, mem_removed]
  constructor
  · rintro ⟨rule, ⟨inside, stray⟩, rfl⟩
    exact ⟨⟨rule, inside, rfl⟩, stray⟩
  · rintro ⟨⟨rule, inside, rfl⟩, stray⟩
    exact ⟨rule, ⟨inside, stray⟩, rfl⟩

theorem disjoint_added (wanted current : List Rule) :
    Disjoint (keySet (diff wanted current).added) (keySet current) := by
  rw [keySet_added]
  exact Set.disjoint_sdiff_left

/-- What is left of the current keys and what is added are the wanted keys. -/
theorem keySet_after (wanted current : List Rule) :
    keySet current \ keySet (diff wanted current).removed ∪ keySet (diff wanted current).added =
      keySet wanted := by
  rw [keySet_removed, keySet_added, Set.sdiff_sdiff_right_self, Set.inter_comm,
    Set.inter_union_sdiff]

/-- What `rules_symmetric_difference` tells. A diff removes the current rules whose keys are not wanted,
as often and in the order in which they are there, and adds of each wanted key that is missing the rule
that comes first, so that the wanted keys and no others are left. Which rules these are is told by the
keys, and each keeps its priority and its handle. -/
theorem diff_exact (wanted current : List Rule) :
    let added := (diff wanted current).added
    let removed := (diff wanted current).removed
    let firsts := firstPlaces (current.map key) (wanted.map key)
    let strays := strayPlaces (wanted.map key) (current.map key)
    (∀ rule other : Rule, rule.key = other.key ↔ rule.key.fields = other.key.fields) ∧
    removed = current.filter (fun rule => rule.key ∉ wanted.map key) ∧
    (added.Sublist wanted ∧ added = itemsAt wanted firsts ∧ (added.map key).Nodup ∧
      Disjoint (keySet added) (keySet current)) ∧
    keySet current \ keySet removed ∪ keySet added = keySet wanted ∧
    ∀ labels marks, diff (relabelled labels wanted) (relabelled marks current) =
      ⟨itemsAt (relabelled labels wanted) firsts, itemsAt (relabelled marks current) strays⟩ := by
  have told (rule other : Rule) : rule.key = other.key ↔ rule.key.fields = other.key.fields :=
    ⟨congrArg Key.fields, Key.fields_injective⟩
  refine ⟨told, rfl, ⟨?_, ?_, ?_, ?_⟩, ?_, fun labels marks => ?_⟩
  · exact unseen_sublist _ wanted
  · exact unseen_eq_itemsAt _ wanted
  · exact nodup_unseen _ wanted
  · exact disjoint_added wanted current
  · exact keySet_after wanted current
  · exact diff_relabelled labels marks wanted current

end Bastion.Rule
