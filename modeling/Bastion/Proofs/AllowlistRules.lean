import Bastion.Proofs.RequestText
import Bastion.Rule.Wanted

set_option autoImplicit false

namespace Bastion

namespace Cidr

theorem colon_not_mem_write (block : AddressBlock 32) : ':' ∉ (Cidr.v4 block).write := by
  have address := not_mem_writeV4 (.inr (.inl rfl)) (by decide) block.address
  have length : ':' ∉ Nat.toDigits 10 block.length :=
    mark_not_mem_toDigits (by decide) (by decide) (.inr (.inl rfl)) block.length
  intro member
  rcases List.mem_append.1 member with early | late
  · exact address early
  · rcases List.mem_cons.1 late with same | inside
    · exact absurd same (by decide)
    · exact length inside

theorem colon_mem_write (block : AddressBlock 128) (scope : Option Scope) :
    ':' ∈ (Cidr.v6 block scope).write :=
  List.mem_append_left _ (List.mem_append_left _ (colon_mem_writeV6 block.address))

end Cidr

namespace Rule

theorem allowSsh_key_injective {first second : Cidr}
    (same : (allowSsh first).key = (allowSsh second).key) : first = second := by
  have v4 : (allowSsh first).sourceV4 = (allowSsh second).sourceV4 := congrArg Key.sourceV4 same
  have v6 : (allowSsh first).sourceV6 = (allowSsh second).sourceV6 := congrArg Key.sourceV6 same
  cases first <;> cases second
  · exact Cidr.text_injective (Option.some.inj v4)
  · cases v4
  · cases v4
  · exact Cidr.text_injective (Option.some.inj v6)

/-- Of the two sources of a rule the one for the family of the block is given, by a text that has the
mark of the family and from which the block is read. -/
inductive Names : Rule → Cidr → Prop
  | v4 {rule : Rule} {block : AddressBlock 32} {text : String} (named : rule.sourceV4 = some text)
    (other : rule.sourceV6 = none) (mark : ':' ∉ text.toList)
    (read : Request.checkCidr (.string text) = .valid (.v4 block)) : Names rule (.v4 block)
  | v6 {rule : Rule} {block : AddressBlock 128} {scope : Option Scope} {text : String}
    (other : rule.sourceV4 = none) (named : rule.sourceV6 = some text) (mark : ':' ∈ text.toList)
    (read : Request.checkCidr (.string text) = .valid (.v6 block scope)) :
    Names rule (.v6 block scope)

theorem names_allowSsh (source : Cidr) : Names (allowSsh source) source := by
  have read := Request.checkCidr_text source
  have written : source.text.toList = source.write := String.toList_ofList
  cases source with
  | v4 block => exact .v4 rfl rfl (written ▸ Cidr.colon_not_mem_write block) read
  | v6 block scope => exact .v6 rfl rfl (written ▸ Cidr.colon_mem_write block scope) read

theorem wantedIngress_of_ne_nil {sources : List Cidr} (some : sources ≠ []) :
    wantedIngress sources = sources.map allowSsh := by
  unfold wantedIngress
  rw [if_neg fun empty => some (List.isEmpty_iff.1 empty)]

/-- The rules of `wanted_ingress_rules` are one for each block, in their order, each naming its block; two of
them have one key exactly where the blocks are the same. -/
theorem wantedIngress_corresponds {sources : List Cidr} (some : sources ≠ []) :
    List.Forall₂ Names (wantedIngress sources) sources ∧
      ∀ (i j : Nat) (first second : Rule), (wantedIngress sources)[i]? = .some first →
        (wantedIngress sources)[j]? = .some second →
          (first.key = second.key ↔ sources[i]? = sources[j]?) := by
  rw [wantedIngress_of_ne_nil some]
  constructor
  · rw [List.forall₂_map_left_iff, List.forall₂_same]
    exact fun source _ => names_allowSsh source
  · intro i j first second here there
    rw [List.getElem?_map, Option.map_eq_some_iff] at here there
    obtain ⟨one, atOne, rfl⟩ := here
    obtain ⟨other, atOther, rfl⟩ := there
    rw [atOne, atOther, Option.some_inj]
    exact ⟨allowSsh_key_injective, fun same => congrArg _ (congrArg _ same)⟩

/-- Addresses on the link of one interface, which its scope names. -/
def linkBlock (scope : Scope) : Cidr :=
  .v6 ⟨0xFE800000000000000000000000000000, 64, by decide, by decide, by decide⟩ (some scope)

def hostBlock : Cidr := .v4 ⟨0xCB007105, 32, by decide, by decide, by decide⟩

/-- One block named twice, and between them two that differ by their scope alone. -/
def mixedSources : List Cidr :=
  [hostBlock, linkBlock ⟨"eth0", by decide⟩, linkBlock ⟨"eth1", by decide⟩, hostBlock]

theorem wantedIngress_corresponds_mixed :
    let rules := wantedIngress mixedSources
    rules.map (fun rule => (rule.sourceV4, rule.sourceV6)) =
      [(some "203.0.113.5/32", none), (none, some "fe80::%eth0/64"), (none, some "fe80::%eth1/64"),
        (some "203.0.113.5/32", none)] ∧
    List.Forall₂ Names rules mixedSources ∧ (rules[0].key = rules[3].key) ∧
      rules[1].key ≠ rules[2].key := by
  intro rules
  have given : mixedSources ≠ [] := List.cons_ne_nil _ _
  obtain ⟨named, told⟩ := wantedIngress_corresponds given
  refine ⟨by decide +kernel, named, (told 0 3 _ _ rfl rfl).2 rfl, fun same => ?_⟩
  exact absurd ((told 1 2 _ _ rfl rfl).1 same) (by decide)

end Rule

end Bastion
