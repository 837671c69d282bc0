import Bastion.Text.Split
import Mathlib.Data.List.Infix

set_option autoImplicit false

namespace Bastion.Text

section Separators

variable {separator : Char} {start last : List Char}

theorem cutChars_of_not_mem {text : List Char} (whole : separator ∉ text) :
    cutChars separator text = (text, []) := by
  induction text with
  | nil => rfl
  | cons c rest ih =>
    have other : ¬c = separator := fun same => whole (same ▸ List.mem_cons_self)
    have later := ih fun member => whole (List.mem_cons_of_mem c member)
    simp only [cutChars, other, ↓reduceIte, later]

theorem cutChars_append (whole : separator ∉ start) (last : List Char) :
    cutChars separator (start ++ separator :: last) = (start, last) := by
  induction start with
  | nil => simp only [List.nil_append, cutChars, ↓reduceIte]
  | cons c rest ih =>
    have other : ¬c = separator := fun same => whole (same ▸ List.mem_cons_self)
    have later := ih fun member => whole (List.mem_cons_of_mem c member)
    simp only [List.cons_append, cutChars, other, ↓reduceIte, later]

theorem afterLastChars_append (whole : separator ∉ last) (start : List Char) :
    afterLastChars separator (start ++ separator :: last) = last := by
  have turned : (start ++ separator :: last).reverse = last.reverse ++ separator :: start.reverse := by
    simp
  have apart : ∀ c ∈ last.reverse, decide (c ≠ separator) = true := fun c member =>
    decide_eq_true fun same => whole (same ▸ List.mem_reverse.1 member)
  unfold afterLastChars
  rw [turned, List.takeWhile_append_of_pos apart, List.takeWhile_cons_of_neg (by simp),
    List.append_nil, List.reverse_reverse]

theorem mem_of_mem_beforeLastChars {c : Char} {text : List Char}
    (member : c ∈ beforeLastChars separator text) : c ∈ text := by
  unfold beforeLastChars at member
  split at member
  · have inside := List.mem_of_mem_drop (List.mem_reverse.1 member)
    exact List.mem_reverse.1 ((List.dropWhile_sublist _).subset inside)
  · exact member

end Separators

variable {word text before after : List Char}

theorem containsChars_iff : containsChars word text = true ↔ word <:+: text := by
  induction text with
  | nil => simp [containsChars]
  | cons c rest ih =>
    rw [containsChars, Bool.or_eq_true, ih, List.isPrefixOf_iff_prefix, List.infix_cons_iff]

/-- In how many places a word stands in a text, also where one place overlaps another. -/
def occurrences (word text : List Char) : Nat := text.tails.countP (word.isPrefixOf ·)

theorem occurrences_cons (word : List Char) (c : Char) (rest : List Char) :
    occurrences word (c :: rest) =
      occurrences word rest + if word.isPrefixOf (c :: rest) then 1 else 0 := by
  unfold occurrences
  rw [List.tails_cons, List.countP_cons]

theorem occurrences_pos (word before after : List Char) :
    0 < occurrences word (before ++ (word ++ after)) := by
  refine List.countP_pos_iff.2 ⟨word ++ after, ?_, ?_⟩
  · exact (List.mem_tails _ _).2 (List.suffix_append _ _)
  · exact List.isPrefixOf_iff_prefix.2 (List.prefix_append _ _)

theorem occurrences_le_append (word before text : List Char) :
    occurrences word text ≤ occurrences word (before ++ text) := by
  induction before with
  | nil => exact Nat.le_refl _
  | cons c rest ih =>
    rw [List.cons_append, occurrences_cons]
    exact Nat.le_add_right_of_le ih

theorem occurrences_place (given : word ≠ []) (after : List Char) :
    occurrences word after < occurrences word (word ++ after) := by
  cases word with
  | nil => exact absurd rfl given
  | cons c rest =>
    have here : (c :: rest).isPrefixOf (c :: (rest ++ after)) = true :=
      List.isPrefixOf_iff_prefix.2 (List.prefix_append (c :: rest) after)
    rw [List.cons_append, occurrences_cons, if_pos here]
    exact Nat.lt_succ_of_le (occurrences_le_append _ rest after)

theorem occurrences_after (given : word ≠ [])
    (once : occurrences word (before ++ (word ++ after)) = 1) : occurrences word after = 0 := by
  have later := occurrences_le_append word before (word ++ after)
  have place := occurrences_place given after
  omega

/-- If a word does not stand where a text starts, its only place is in the rest. -/
theorem not_isPrefixOf_of_once {c : Char}
    (once : occurrences word (c :: (before ++ (word ++ after))) = 1) :
    word.isPrefixOf (c :: (before ++ (word ++ after))) = false ∧
      occurrences word (before ++ (word ++ after)) = 1 := by
  have within := occurrences_pos word before after
  rw [occurrences_cons] at once
  split at once
  · omega
  · rename_i other
    exact ⟨Bool.eq_false_iff.2 other, once⟩

theorem eq_nil_of_starts (once : occurrences word (before ++ (word ++ after)) = 1)
    (starts : word <+: before ++ (word ++ after)) : before = [] := by
  cases before with
  | nil => rfl
  | cons c rest =>
    obtain ⟨elsewhere, _⟩ := not_isPrefixOf_of_once once
    rw [List.cons_append, ← List.isPrefixOf_iff_prefix, elsewhere] at starts
    cases starts

/-- There is one beginning of a text that its only place of a word comes after. -/
theorem before_unique {other last : List Char} (once : occurrences word (before ++ (word ++ after)) = 1)
    (same : before ++ (word ++ after) = other ++ (word ++ last)) : before = other := by
  induction before generalizing other with
  | nil =>
    have starts : word <+: other ++ (word ++ last) := same ▸ List.prefix_append word after
    rw [same] at once
    exact (eq_nil_of_starts once starts).symm
  | cons c rest ih =>
    cases other with
    | nil =>
      have starts : word <+: c :: rest ++ (word ++ after) := same ▸ List.prefix_append word last
      exact absurd (eq_nil_of_starts once starts) (List.cons_ne_nil c rest)
    | cons d others =>
      obtain ⟨rfl, later⟩ := List.cons.inj same
      exact congrArg (c :: ·) (ih (not_isPrefixOf_of_once once).2 later)

theorem mem_of_mem_piecesFrom {skip : Nat} {piece : List Char} (cut : piece ∈ piecesFrom word skip text) {c : Char}
    (member : c ∈ piece) : c ∈ text := by
  induction text generalizing skip piece with
  | nil =>
    rw [List.mem_singleton.1 cut] at member
    cases member
  | cons first rest ih =>
    cases skip with
    | succ skip => exact List.mem_cons_of_mem _ (ih cut member)
    | zero =>
      rw [piecesFrom] at cut
      split at cut
      · rcases List.mem_cons.1 cut with rfl | later
        · cases member
        · exact List.mem_cons_of_mem _ (ih later member)
      · split at cut
        · rw [List.mem_singleton.1 cut] at member
          exact List.mem_singleton.1 member ▸ List.mem_cons_self
        · rename_i others pieces
          rcases List.mem_cons.1 cut with rfl | later
          · rcases List.mem_cons.1 member with rfl | inside
            · exact List.mem_cons_self
            · exact List.mem_cons_of_mem _ (ih (pieces ▸ List.mem_cons_self) inside)
          · exact List.mem_cons_of_mem _ (ih (pieces ▸ List.mem_cons_of_mem _ later) member)

theorem piecesFrom_skip (word : List Char) (skip : Nat) (text : List Char) :
    piecesFrom word skip text = piecesFrom word 0 (text.drop skip) := by
  induction text generalizing skip with
  | nil => cases skip <;> rfl
  | cons c rest ih =>
    cases skip with
    | zero => rfl
    | succ skip => exact ih skip

theorem piecesFrom_of_none (none : occurrences word text = 0) : piecesFrom word 0 text = [text] := by
  induction text with
  | nil => rfl
  | cons c rest ih =>
    rw [occurrences_cons] at none
    have elsewhere : word.isPrefixOf (c :: rest) = false := by
      refine Bool.eq_false_iff.2 fun here => ?_
      rw [if_pos here] at none
      cases none
    rw [piecesFrom, elsewhere, Bool.and_false, ih (Nat.eq_zero_of_add_eq_zero none).1]
    rfl

theorem piecesFrom_of_once (given : word ≠ [])
    (once : occurrences word (before ++ (word ++ after)) = 1) :
    piecesFrom word 0 (before ++ (word ++ after)) = [before, after] := by
  induction before with
  | nil =>
    have later := occurrences_after given once
    cases word with
    | nil => exact absurd rfl given
    | cons w rest =>
      have here : (w :: rest).isPrefixOf (w :: (rest ++ after)) = true :=
        List.isPrefixOf_iff_prefix.2 (List.prefix_append (w :: rest) after)
      change piecesFrom (w :: rest) 0 (w :: (rest ++ after)) = _
      rw [piecesFrom, here]
      change [] :: piecesFrom (w :: rest) rest.length (rest ++ after) = _
      rw [piecesFrom_skip, List.drop_left, piecesFrom_of_none later]
  | cons c rest ih =>
    obtain ⟨elsewhere, later⟩ := not_isPrefixOf_of_once once
    rw [List.cons_append, piecesFrom, elsewhere, Bool.and_false, ih later]
    rfl

end Bastion.Text
