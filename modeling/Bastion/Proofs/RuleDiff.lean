import Bastion.Rule.Diff
import Bastion.Rule.Wanted
import Mathlib.Data.Set.Basic

set_option autoImplicit false

namespace Bastion.Rule

def keySet (rules : List Rule) : Set Key := {key | key ∈ rules.map Rule.key}

theorem mem_keySet {rules : List Rule} {key : Key} :
    key ∈ keySet rules ↔ ∃ rule ∈ rules, rule.key = key :=
  List.mem_map

@[simp] theorem key_withHandle (rule : Rule) (handle : Option String) :
    { rule with handle := handle }.key = rule.key := rfl

theorem mem_of_mem_unseen {seen : List Key} {rules : List Rule} {rule : Rule}
    (member : rule ∈ unseen seen rules) : rule ∈ rules ∧ rule.key ∉ seen := by
  induction rules generalizing seen with
  | nil => cases member
  | cons first rest ih =>
    unfold unseen at member
    split at member
    · obtain ⟨inside, fresh⟩ := ih member
      exact ⟨List.mem_cons_of_mem first inside, fresh⟩
    · rename_i unknown
      rcases List.mem_cons.1 member with rfl | later
      · exact ⟨List.mem_cons_self, unknown⟩
      · obtain ⟨inside, fresh⟩ := ih later
        exact ⟨List.mem_cons_of_mem first inside,
          fun known => fresh (List.mem_cons_of_mem first.key known)⟩

theorem key_mem_unseen {seen : List Key} {rules : List Rule} {key : Key} :
    key ∈ (unseen seen rules).map Rule.key ↔ key ∈ rules.map Rule.key ∧ key ∉ seen := by
  induction rules generalizing seen with
  | nil => simp [unseen]
  | cons first rest ih =>
    unfold unseen
    split
    · rename_i known
      rw [ih, List.map_cons, List.mem_cons]
      constructor
      · rintro ⟨inside, fresh⟩
        exact ⟨.inr inside, fresh⟩
      · rintro ⟨rfl | inside, fresh⟩
        · exact absurd known fresh
        · exact ⟨inside, fresh⟩
    · rename_i unknown
      rw [List.map_cons, List.map_cons, List.mem_cons, List.mem_cons, ih, List.mem_cons]
      constructor
      · rintro (rfl | ⟨inside, fresh⟩)
        · exact ⟨.inl rfl, unknown⟩
        · exact ⟨.inr inside, fun known => fresh (.inr known)⟩
      · rintro ⟨rfl | inside, fresh⟩
        · exact .inl rfl
        · by_cases same : key = first.key
          · exact .inl same
          · exact .inr ⟨inside, fun known => known.elim same fresh⟩

theorem unseen_sublist (seen : List Key) (rules : List Rule) :
    (unseen seen rules).Sublist rules := by
  induction rules generalizing seen with
  | nil => exact List.Sublist.slnil
  | cons first rest ih =>
    unfold unseen
    split
    · exact (ih seen).cons first
    · exact (ih (first.key :: seen)).cons_cons first

theorem nodup_unseen (seen : List Key) (rules : List Rule) :
    ((unseen seen rules).map Rule.key).Nodup := by
  induction rules generalizing seen with
  | nil => exact List.nodup_nil
  | cons first rest ih =>
    unfold unseen
    split
    · exact ih seen
    · rw [List.map_cons, List.nodup_cons]
      constructor
      · exact fun again => (key_mem_unseen.1 again).2 List.mem_cons_self
      · exact ih (first.key :: seen)

theorem mem_of_mem_added {wanted current : List Rule} {rule : Rule}
    (member : rule ∈ (diff wanted current).added) :
    rule ∈ wanted ∧ rule.key ∉ keySet current :=
  mem_of_mem_unseen member

theorem keySet_added (wanted current : List Rule) :
    keySet (diff wanted current).added = keySet wanted \ keySet current :=
  Set.ext fun _ => key_mem_unseen

theorem mem_removed {wanted current : List Rule} {rule : Rule} :
    rule ∈ (diff wanted current).removed ↔ rule ∈ current ∧ rule.key ∉ keySet wanted := by
  unfold diff keySet
  rw [List.mem_filter, decide_eq_true_iff]
  rfl

def kept (wanted current : List Rule) : List Rule :=
  current.filter fun rule => rule.key ∈ wanted.map Rule.key

theorem mem_kept {wanted current : List Rule} {rule : Rule} :
    rule ∈ kept wanted current ↔ rule ∈ current ∧ rule.key ∈ keySet wanted := by
  unfold kept keySet
  rw [List.mem_filter, decide_eq_true_iff]
  rfl

/-- The rules that stand and those that are added have the wanted keys and no others. -/
theorem keySet_kept_union_added (wanted current : List Rule) :
    keySet (kept wanted current) ∪ keySet (diff wanted current).added = keySet wanted := by
  rw [keySet_added]
  ext key
  simp only [Set.mem_union, Set.mem_sdiff, mem_keySet, mem_kept]
  constructor
  · rintro (⟨rule, ⟨_, wantedKey⟩, rfl⟩ | ⟨wantedKey, _⟩)
    · exact wantedKey
    · exact wantedKey
  · rintro ⟨rule, inside, rfl⟩
    by_cases held : ∃ other ∈ current, other.key = rule.key
    · obtain ⟨other, present, same⟩ := held
      exact .inl ⟨other, ⟨present, rule, inside, same.symm⟩, same⟩
    · exact .inr ⟨⟨rule, inside, rfl⟩, held⟩

theorem diff_of_keySet_eq {wanted current : List Rule} (same : keySet current = keySet wanted) :
    diff wanted current = ⟨[], []⟩ := by
  have added : (diff wanted current).added = [] := by
    refine List.eq_nil_iff_forall_not_mem.2 fun rule member => ?_
    obtain ⟨inside, absent⟩ := mem_of_mem_added member
    rw [same] at absent
    exact absent (mem_keySet.2 ⟨rule, inside, rfl⟩)
  have removed : (diff wanted current).removed = [] := by
    refine List.eq_nil_iff_forall_not_mem.2 fun rule member => ?_
    obtain ⟨inside, absent⟩ := mem_removed.1 member
    rw [← same] at absent
    exact absent (mem_keySet.2 ⟨rule, inside, rfl⟩)
  calc diff wanted current
      = ⟨(diff wanted current).added, (diff wanted current).removed⟩ := rfl
    _ = ⟨[], []⟩ := by rw [added, removed]

theorem wantedIngress_directed (sources : List Cidr) :
    ∀ rule ∈ wantedIngress sources, rule.direction = .ingress := by
  intro rule member
  obtain ⟨source, _, rfl⟩ := List.mem_map.1 member
  rfl

theorem wantedEgress_directed (address workload : Option String) :
    ∀ rule ∈ wantedEgress address workload, rule.direction = .egress := by
  intro rule member
  simp only [wantedEgress, List.mem_cons, List.not_mem_nil, or_false] at member
  rcases member with rfl | rfl <;> rfl

end Bastion.Rule
