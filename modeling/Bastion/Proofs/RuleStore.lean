import Bastion.Pass.Rules
import Bastion.Proofs.RuleDiff
import Mathlib.Data.List.Nodup

set_option autoImplicit false

namespace Bastion

structure RuleStore where
  /-- The rules that are told of each direction. -/
  rules : Direction → List Rule
  /-- The handles that may still be given. -/
  unissued : Set String

namespace RuleStore

def handles (store : RuleStore) : List (Option String) :=
  (store.rules .ingress ++ store.rules .egress).map Rule.handle

/-- Every rule has a handle, no two rules have the same, and none has one that is still to be given. -/
structure Sound (store : RuleStore) : Prop where
  named : none ∉ store.handles
  distinct : store.handles.Nodup
  fresh : ∀ handle ∈ store.unissued, some handle ∉ store.handles

/-- The rules with one more, the last of its direction. -/
def filed (store : RuleStore) (rule : Rule) (direction : Direction) : List Rule :=
  if direction = rule.direction then store.rules direction ++ [rule] else store.rules direction

/-- A copy of the rule is stored under a handle that is not given again. -/
def Creates (before : RuleStore) (rule : Rule) (after : RuleStore) : Prop :=
  ∃ handle ∈ before.unissued,
    after.rules = before.filed { rule with handle := some handle } ∧
      after.unissued ⊆ before.unissued \ {handle}

/-- The rules under the handle of the rule are gone. The handle itself may be given again. -/
structure Revokes (before : RuleStore) (rule : Rule) (after : RuleStore) : Prop where
  rules : ∀ direction,
    after.rules direction = (before.rules direction).filter fun kept => kept.handle ≠ rule.handle
  unissued : ∀ handle ∈ after.unissued, handle ∈ before.unissued ∨ some handle = rule.handle

theorem mem_handles {store : RuleStore} {handle : Option String} :
    handle ∈ store.handles ↔ ∃ direction, ∃ rule ∈ store.rules direction, rule.handle = handle := by
  unfold handles
  rw [List.mem_map]
  constructor
  · rintro ⟨rule, member, rfl⟩
    rcases List.mem_append.1 member with inside | inside
    · exact ⟨.ingress, rule, inside, rfl⟩
    · exact ⟨.egress, rule, inside, rfl⟩
  · rintro ⟨direction, rule, inside, rfl⟩
    cases direction with
    | ingress => exact ⟨rule, List.mem_append_left _ inside, rfl⟩
    | egress => exact ⟨rule, List.mem_append_right _ inside, rfl⟩

theorem handle_mem_handles {store : RuleStore} (direction : Direction) {rule : Rule}
    (inside : rule ∈ store.rules direction) : rule.handle ∈ store.handles :=
  mem_handles.2 ⟨direction, rule, inside, rfl⟩

/-- A handle tells a rule, and the direction that it is stored in. -/
theorem Sound.eq_of_handle_eq {store : RuleStore} (sound : store.Sound) {first second : Direction}
    {rule other : Rule} (inside : rule ∈ store.rules first) (present : other ∈ store.rules second)
    (same : rule.handle = other.handle) : first = second ∧ rule = other := by
  have inOrder := sound.distinct
  unfold handles at inOrder
  have injective := List.inj_on_of_nodup_map inOrder
  rw [List.map_append, List.nodup_append] at inOrder
  have apart : ∀ {one another : Rule}, one ∈ store.rules .ingress →
      another ∈ store.rules .egress → one.handle ≠ another.handle := fun left right =>
    inOrder.2.2 _ (List.mem_map_of_mem left) _ (List.mem_map_of_mem right)
  cases first <;> cases second
  · exact ⟨rfl, injective (List.mem_append_left _ inside) (List.mem_append_left _ present) same⟩
  · exact absurd same (apart inside present)
  · exact absurd same.symm (apart present inside)
  · exact ⟨rfl, injective (List.mem_append_right _ inside) (List.mem_append_right _ present) same⟩

theorem Sound.nodup_side {store : RuleStore} (sound : store.Sound) (direction : Direction) :
    ((store.rules direction).map Rule.handle).Nodup := by
  have inOrder := sound.distinct
  unfold handles at inOrder
  rw [List.map_append, List.nodup_append] at inOrder
  cases direction with
  | ingress => exact inOrder.1
  | egress => exact inOrder.2.1

theorem handles_filed (store : RuleStore) (rule : Rule) (unissued : Set String) :
    (handles ⟨store.filed rule, unissued⟩).Perm (rule.handle :: store.handles) := by
  unfold handles filed
  cases rule.direction with
  | ingress =>
    simp only [↓reduceIte, reduceCtorEq, List.append_assoc, List.singleton_append]
    exact List.perm_middle.map Rule.handle
  | egress =>
    simp only [↓reduceIte, reduceCtorEq, ← List.append_assoc]
    exact (List.perm_append_singleton rule _).map Rule.handle

theorem Sound.create {before after : RuleStore} {rule : Rule} (sound : before.Sound)
    (created : before.Creates rule after) : after.Sound := by
  obtain ⟨handle, unissued, rules, fewer⟩ := created
  have order : after.handles.Perm (some handle :: before.handles) := by
    have filed := before.handles_filed { rule with handle := some handle } after.unissued
    rwa [← rules] at filed
  refine ⟨?_, ?_, ?_⟩
  · rw [order.mem_iff, List.mem_cons]
    exact fun absent => absent.elim (fun impossible => by cases impossible) sound.named
  · rw [order.nodup_iff, List.nodup_cons]
    exact ⟨sound.fresh handle unissued, sound.distinct⟩
  · intro other remaining
    obtain ⟨past, different⟩ := fewer remaining
    rw [order.mem_iff, List.mem_cons]
    rintro (same | held)
    · exact different (Option.some.inj same)
    · exact sound.fresh other past held

theorem Revokes.handles {before after : RuleStore} {rule : Rule}
    (revoked : before.Revokes rule after) :
    after.handles = before.handles.filter fun handle => handle ≠ rule.handle := by
  unfold RuleStore.handles
  rw [List.filter_map, List.filter_append, revoked.rules, revoked.rules]
  rfl

theorem Revokes.stored {before after : RuleStore} {rule : Rule} {rest : List Rule}
    (revoked : before.Revokes rule after) (stored : ∀ other ∈ rest, other.handle ∈ before.handles)
    (apart : rule.handle ∉ rest.map Rule.handle) : ∀ other ∈ rest, other.handle ∈ after.handles := by
  intro other inside
  rw [revoked.handles, List.mem_filter, decide_eq_true_iff]
  exact ⟨stored other inside, fun same => apart (same ▸ List.mem_map_of_mem inside)⟩

theorem Sound.revoke {before after : RuleStore} {rule : Rule} (sound : before.Sound)
    (revoked : before.Revokes rule after) : after.Sound := by
  refine ⟨?_, ?_, ?_⟩ <;> rw [revoked.handles]
  · exact fun absent => sound.named (List.mem_filter.1 absent).1
  · exact sound.distinct.filter _
  · intro handle remaining held
    obtain ⟨present, different⟩ := List.mem_filter.1 held
    rcases revoked.unissued handle remaining with past | same
    · exact sound.fresh handle past present
    · exact of_decide_eq_true different same

/-- The copy of a rule differs from it by a handle that could be given. -/
def IsCopy (store : RuleStore) (rule copy : Rule) : Prop :=
  ∃ handle ∈ store.unissued, copy = { rule with handle := some handle }

theorem keySet_copies {store : RuleStore} {rules copies : List Rule}
    (copied : List.Forall₂ store.IsCopy rules copies) :
    Rule.keySet copies = Rule.keySet rules := by
  have same : copies.map Rule.key = rules.map Rule.key := by
    induction copied with
    | nil => rfl
    | cons first _ ih =>
      obtain ⟨handle, _, rfl⟩ := first
      rw [List.map_cons, List.map_cons, ih, Rule.key_withHandle]
  unfold Rule.keySet
  rw [same]

theorem handle_of_mem_copies {store : RuleStore} {rules copies : List Rule}
    (copied : List.Forall₂ store.IsCopy rules copies) {copy : Rule} (member : copy ∈ copies) :
    ∃ handle ∈ store.unissued, copy.handle = some handle := by
  induction copied with
  | nil => cases member
  | cons first _ ih =>
    rcases List.mem_cons.1 member with rfl | later
    · obtain ⟨handle, unissued, rfl⟩ := first
      exact ⟨handle, unissued, rfl⟩
    · exact ih later

theorem copy_of_mem {store : RuleStore} {rules copies : List Rule}
    (copied : List.Forall₂ store.IsCopy rules copies) {rule : Rule} (member : rule ∈ rules) :
    ∃ copy ∈ copies, store.IsCopy rule copy := by
  induction copied with
  | nil => cases member
  | cons first _ ih =>
    rcases List.mem_cons.1 member with rfl | later
    · exact ⟨_, List.mem_cons_self, first⟩
    · obtain ⟨copy, inside, same⟩ := ih later
      exact ⟨copy, List.mem_cons_of_mem _ inside, same⟩

/-- What a diff leaves of one direction: the rules that stand and copies of those that were added.
The other direction is as it was. -/
structure Settles (before : RuleStore) (direction : Direction) (wanted : List Rule)
    (after : RuleStore) : Prop where
  settled : ∃ copies,
    List.Forall₂ before.IsCopy (Rule.diff wanted (before.rules direction)).added copies ∧
      after.rules direction = Rule.kept wanted (before.rules direction) ++ copies
  frame : ∀ other, other ≠ direction → after.rules other = before.rules other
  sound : after.Sound

theorem Settles.keySet {before after : RuleStore} {direction : Direction} {wanted : List Rule}
    (settles : before.Settles direction wanted after) :
    Rule.keySet (after.rules direction) = Rule.keySet wanted := by
  obtain ⟨copies, copied, rules⟩ := settles.settled
  have split : Rule.keySet (after.rules direction) =
      Rule.keySet (Rule.kept wanted (before.rules direction)) ∪ Rule.keySet copies := by
    rw [rules]
    ext key
    simp only [Rule.keySet, List.map_append, List.mem_append, Set.mem_ofPred_eq, Set.mem_union]
  rw [split, keySet_copies copied, Rule.keySet_kept_union_added]

end RuleStore

end Bastion
