import Bastion.Cidr.Parser
import Bastion.Proofs.JsonNumbers
import Bastion.Proofs.JsonStrings
import Mathlib.Data.List.GetD
import Mathlib.Data.List.Nodup
import Mathlib.Tactic.Ring

set_option autoImplicit false

namespace Bastion.Cidr

open Json (isDigit natOfDigits hexValue? integerLimit)

/-! ### Digits -/

theorem digit_of_mem_toDigits {base : Nat} (large : 1 < base) {n : Nat} {c : Char}
    (member : c ∈ Nat.toDigits base n) : ∃ digit < base, c = Nat.digitChar digit := by
  induction n using Nat.strongRecOn with
  | ind n ih =>
    rw [Nat.toDigits_eq_if large] at member
    by_cases small : n < base
    · simp only [small, ↓reduceIte, List.mem_singleton] at member
      exact ⟨n, small, member⟩
    · simp only [small, ↓reduceIte, List.mem_append, List.mem_singleton] at member
      rcases member with higher | rfl
      · exact ih (n / base) (Nat.div_lt_self (by omega) large) higher
      · exact ⟨n % base, Nat.mod_lt n (by omega), rfl⟩

/-- The marks between the parts of a block that is written. -/
def Mark (c : Char) : Prop := c = '.' ∨ c = ':' ∨ c = '%' ∨ c = '/'

theorem mark_not_mem_toDigits {base : Nat} (large : 1 < base) (within : base ≤ 16) {c : Char}
    (mark : Mark c) (n : Nat) : c ∉ Nat.toDigits base n := by
  intro member
  obtain ⟨digit, bound, same⟩ := digit_of_mem_toDigits large member
  have plain : ∀ digit < 16, Nat.digitChar digit ∉ ['.', ':', '%', '/'] := by decide
  apply plain digit (by omega)
  rw [← same]
  rcases mark with rfl | rfl | rfl | rfl <;> decide

theorem mem_joined {separator c : Char} {parts : List (List Char)}
    (member : c ∈ joined separator parts) : c = separator ∨ ∃ part ∈ parts, c ∈ part := by
  unfold joined at member
  induction parts with
  | nil => cases member
  | cons part rest ih =>
    cases rest with
    | nil =>
      rw [List.intercalate_singleton] at member
      exact .inr ⟨part, List.mem_cons_self, member⟩
    | cons next rest =>
      rw [List.intercalate_cons_cons, List.mem_append, List.mem_append] at member
      rcases member with (here | mark) | later
      · exact .inr ⟨part, List.mem_cons_self, here⟩
      · exact .inl (List.mem_singleton.1 mark)
      · rcases ih later with same | ⟨other, inside, there⟩
        · exact .inl same
        · exact .inr ⟨other, List.mem_cons_of_mem _ inside, there⟩

theorem readHex_append (digits : List Char) (digit : Char) :
    readHex (digits ++ [digit]) = readHex digits * 16 + (hexValue? digit).getD 0 := by
  unfold readHex
  rw [List.foldl_append]
  rfl

theorem readHex_toDigits (n : Nat) : readHex (Nat.toDigits 16 n) = n := by
  have single : ∀ digit < 16, readHex [Nat.digitChar digit] = digit := by decide
  induction n using Nat.strongRecOn with
  | ind n ih =>
    rw [Nat.toDigits_eq_if (by decide)]
    by_cases small : n < 16
    · simp only [small, ↓reduceIte]
      exact single n small
    · simp only [small, ↓reduceIte]
      rw [readHex_append, ih (n / 16) (by omega), Json.hexValue?_digitChar _ (by omega)]
      change n / 16 * 16 + n % 16 = n
      omega

theorem readGroup?_toDigits {group : Nat} (bound : group < 0x10000) :
    readGroup? (Nat.toDigits 16 group) = some group := by
  have nonempty : (Nat.toDigits 16 group).isEmpty = false :=
    List.isEmpty_eq_false_iff.2 Nat.toDigits_ne_nil
  have hexadecimal : (Nat.toDigits 16 group).all (fun c => (hexValue? c).isSome) = true := by
    rw [List.all_eq_true]
    intro c member
    obtain ⟨digit, small, rfl⟩ := digit_of_mem_toDigits (by decide) member
    rw [Json.hexValue?_digitChar digit small]
    rfl
  have short : ¬4 < (Nat.toDigits 16 group).length :=
    Nat.not_lt.2 ((Nat.length_toDigits_le_iff (by decide) (by decide)).2 bound)
  unfold readGroup?
  simp [nonempty, hexadecimal, short, readHex_toDigits]

theorem readGroups?_toDigits {groups : List Nat} (bound : ∀ group ∈ groups, group < 0x10000) :
    readGroups? (groups.map (Nat.toDigits 16)) = some groups := by
  induction groups with
  | nil => rfl
  | cons group rest ih =>
    rw [List.map_cons, readGroups?, readGroup?_toDigits (bound group List.mem_cons_self),
      ih fun other member => bound other (List.mem_cons_of_mem group member)]
    rfl

theorem readOctet?_toDigits : ∀ octet < 256, readOctet? (Nat.toDigits 10 octet) = some octet := by
  decide +kernel

theorem readLength?_toDigits {bits length : Nat} (within : length ≤ bits) (few : bits ≤ 128) :
    readLength? bits (Nat.toDigits 10 length) = some length := by
  have nonempty : (Nat.toDigits 10 length).isEmpty = false :=
    List.isEmpty_eq_false_iff.2 Nat.toDigits_ne_nil
  have decimal : (Nat.toDigits 10 length).all isDigit = true :=
    List.all_eq_true.2 fun _ member => Json.isDigit_toDigits member
  have short : ¬integerLimit < (Nat.toDigits 10 length).length := by
    have three : (Nat.toDigits 10 length).length ≤ 3 :=
      (Nat.length_toDigits_le_iff (by decide) (by decide)).2 (by omega)
    have many : 3 ≤ integerLimit := by decide
    omega
  unfold readLength?
  simp [nonempty, decimal, short, Json.natOfDigits_toDigits, within]

/-! ### Version 4 -/

theorem readV4?_writeV4 {address : Nat} (bound : address < 0x100000000) :
    readV4? (writeV4 address) = some address := by
  have pointless : ∀ part ∈ (octets address).map (Nat.toDigits 10), '.' ∉ part := by
    intro part member
    obtain ⟨octet, _, rfl⟩ := List.mem_map.1 member
    exact mark_not_mem_toDigits (by decide) (by decide) (.inl rfl) octet
  have octet (n : Nat) : readOctet? (Nat.toDigits 10 (n % 256)) = some (n % 256) :=
    readOctet?_toDigits _ (Nat.mod_lt n (by decide))
  unfold readV4? writeV4 joined
  rw [List.splitOn_intercalate '.' pointless (by simp [octets])]
  simp only [octets, List.map_cons, List.map_nil, octet, Option.bind_eq_bind, Option.bind_some,
    Option.pure_def, Option.some.injEq]
  omega

theorem readOctet?_of_colon {text : List Char} (colon : ':' ∈ text) : readOctet? text = none := by
  have unfit : text.all isDigit = false := by
    rw [List.all_eq_false]
    exact ⟨':', colon, by decide⟩
  unfold readOctet?
  simp [unfit]

/-- A text with a colon before every point is no address of version 4. -/
theorem readV4?_of_colon {first : List Char} (colon : ':' ∈ first) (pointless : '.' ∉ first)
    (rest : List Char) : readV4? (first ++ rest) = none := by
  by_cases point : '.' ∈ rest
  · obtain ⟨before, after, rfl, none⟩ := List.eq_append_cons_of_mem point
    have whole : '.' ∉ first ++ before := by
      rw [List.mem_append]
      rintro (early | late)
      · exact pointless early
      · exact none late
    have octet := readOctet?_of_colon (List.mem_append_left before colon)
    unfold readV4?
    rw [← List.append_assoc, List.splitOn_append_cons_self_of_not_mem whole]
    split
    · rename_i parts
      obtain ⟨rfl, _⟩ := List.cons.inj parts
      rw [octet]
      rfl
    · rfl
  · have whole : '.' ∉ first ++ rest := by
      rw [List.mem_append]
      rintro (early | late)
      · exact pointless early
      · exact point late
    unfold readV4?
    rw [List.splitOn_eq_singleton whole]

/-! ### Version 6 -/

theorem length_groups (count address : Nat) : (groups count address).length = count := by
  induction count with
  | zero => rfl
  | succ count ih => rw [groups, List.length_cons, ih]

theorem lt_of_mem_groups {count address group : Nat} (member : group ∈ groups count address) :
    group < 0x10000 := by
  induction count with
  | zero => cases member
  | succ count ih =>
    rcases List.mem_cons.1 member with rfl | later
    · exact Nat.mod_lt _ (by decide)
    · exact ih later

theorem foldl_groups (count address start : Nat) :
    (groups count address).foldl (fun n group => n * 0x10000 + group) start =
      start * 0x10000 ^ count + address % 0x10000 ^ count := by
  induction count generalizing start with
  | zero => simp [groups, Nat.mod_one]
  | succ count ih =>
    rw [groups, List.foldl_cons, ih, Nat.mod_pow_succ]
    change (start * 0x10000 + address / 0x10000 ^ count % 0x10000) * 0x10000 ^ count + _ = _
    ring

theorem addressOf_groups {address : Nat} (bound : address < Nat.pow 2 128) :
    addressOf (groups 8 address) = address := by
  unfold addressOf
  rw [foldl_groups, Nat.zero_mul, Nat.zero_add]
  exact Nat.mod_eq_of_lt bound

theorem leadingZeros_spec (groups : List Nat) :
    groups = List.replicate (leadingZeros groups) 0 ++ groups.drop (leadingZeros groups) := by
  induction groups with
  | nil => rfl
  | cons group rest ih =>
    unfold leadingZeros at ih ⊢
    by_cases zero : group = 0
    · simp only [zero, List.takeWhile_cons, decide_true, ↓reduceIte, List.length_cons,
        List.replicate_succ, List.cons_append, List.drop_succ_cons]
      rw [← ih]
    · simp [zero]

/-- The zeros that are left out stand where they are said to stand. -/
theorem longestZeros_spec (groups : List Nat) :
    groups = groups.take (longestZeros groups).1 ++ (List.replicate (longestZeros groups).2 0 ++
      groups.drop ((longestZeros groups).1 + (longestZeros groups).2)) := by
  induction groups with
  | nil => rfl
  | cons group rest ih =>
    rw [longestZeros]
    by_cases first : (longestZeros rest).2 ≤ leadingZeros (group :: rest)
    · simp only [first, ↓reduceIte, List.take_zero, List.nil_append, Nat.zero_add]
      exact leadingZeros_spec (group :: rest)
    · simp only [first, ↓reduceIte, List.take_succ_cons, List.cons_append]
      rw [Nat.add_right_comm, List.drop_succ_cons, ← ih]

theorem colon_not_mem {group : Nat} : ':' ∉ Nat.toDigits 16 group :=
  mark_not_mem_toDigits (by decide) (by decide) (.inr (.inl rfl)) group

/-- The parts between the colons of some groups: an empty one where there is no group. -/
def partsOf (groups : List Nat) : List (List Char) :=
  if groups = [] then [[]] else groups.map (Nat.toDigits 16)

theorem splitOn_writeGroups (groups : List Nat) :
    (writeGroups groups).splitOn ':' = partsOf groups := by
  unfold partsOf
  split
  · rename_i empty
    rw [empty]
    rfl
  · rename_i some
    apply List.splitOn_intercalate
    · intro part member
      obtain ⟨group, _, rfl⟩ := List.mem_map.1 member
      exact colon_not_mem
    · exact mt List.map_eq_nil_iff.1 some

theorem pointless_partsOf (groups : List Nat) : ∀ part ∈ partsOf groups, '.' ∉ part := by
  intro part member
  unfold partsOf at member
  split at member
  · rw [List.mem_singleton.1 member]
    exact List.not_mem_nil
  · obtain ⟨group, _, rfl⟩ := List.mem_map.1 member
    exact mark_not_mem_toDigits (by decide) (by decide) (.inl rfl) group

theorem partsOf_ne_nil (groups : List Nat) : partsOf groups ≠ [] := by
  unfold partsOf
  split
  · exact List.cons_ne_nil _ _
  · rename_i some
    exact mt List.map_eq_nil_iff.1 some

theorem length_partsOf (groups : List Nat) :
    (partsOf groups).length = max 1 groups.length := by
  cases groups with
  | nil => rfl
  | cons group rest => simp [partsOf]

theorem expandOctets?_of_pointless {parts : List (List Char)}
    (pointless : ∀ part ∈ parts, '.' ∉ part) : expandOctets? parts = some parts := by
  unfold expandOctets?
  cases ends : parts.getLast? with
  | none => rfl
  | some last => simp [pointless last (List.mem_of_getLast? ends)]

/-- A part that is neither the first nor the last one of its side is not empty. -/
theorem getD_partsOf {groups : List Nat} {i : Nat} (bound : i < (partsOf groups).length)
    (inside : 0 < i ∨ i + 1 < (partsOf groups).length) : (partsOf groups).getD i [] ≠ [] := by
  unfold partsOf at bound inside ⊢
  by_cases empty : groups = []
  · simp only [empty, ↓reduceIte, List.length_singleton] at bound inside
    omega
  · simp only [empty, ↓reduceIte, List.length_map] at bound ⊢
    simp [List.getD, bound]

theorem filter_range_eq {count place : Nat} (within : place < count) {test : Nat → Bool}
    (alone : ∀ i < count, test i = true ↔ i = place) : (List.range count).filter test = [place] := by
  have same : (List.range count).filter test = (List.range count).filter (· == place) := by
    apply List.filter_congr
    intro i member
    rw [Bool.eq_iff_iff, alone i (List.mem_range.1 member), beq_iff_eq]
  rw [same, List.filter_beq, List.count_eq_one_of_mem List.nodup_range (List.mem_range.2 within)]
  rfl

theorem innerGaps_around (before after : List Nat) :
    innerGaps (partsOf before ++ [] :: partsOf after) = [(partsOf before).length] := by
  have former := List.length_pos_iff.2 (partsOf_ne_nil before)
  have latter := List.length_pos_iff.2 (partsOf_ne_nil after)
  have total : (partsOf before ++ [] :: partsOf after).length =
      (partsOf before).length + ((partsOf after).length + 1) := by
    rw [List.length_append, List.length_cons]
  unfold innerGaps
  apply filter_range_eq
  · omega
  · intro i bound
    simp only [Bool.and_eq_true, decide_eq_true_eq]
    constructor
    · rintro ⟨⟨first, last⟩, empty⟩
      by_contra other
      rcases Nat.lt_or_gt_of_ne other with early | late
      · rw [List.getD_append _ _ _ _ early] at empty
        exact getD_partsOf early (.inl first) empty
      · rw [List.getD_append_right _ _ _ _ (by omega)] at empty
        obtain ⟨place, behind⟩ : ∃ place, i - (partsOf before).length = place + 1 :=
          ⟨i - (partsOf before).length - 1, by omega⟩
        rw [behind, List.getD_cons_succ] at empty
        exact getD_partsOf (by omega) (.inr (by omega)) empty
    · rintro rfl
      refine ⟨⟨former, by omega⟩, ?_⟩
      rw [List.getD_append_right _ _ _ _ (Nat.le_refl _), Nat.sub_self]
      rfl

/-- The parts of a side that are read, given the part at its outer end: where that one is empty, it is the
only one, and no part is read. -/
def SideOf (outer : Option (List Char)) (parts read : List (List Char)) : Prop :=
  outer = some [] ∧ parts.length = 1 ∧ read = [] ∨ outer ≠ some [] ∧ read = parts

theorem sideOf_partsOf (groups : List Nat) :
    SideOf (partsOf groups).head? (partsOf groups) (groups.map (Nat.toDigits 16)) ∧
      SideOf (partsOf groups).getLast? (partsOf groups) (groups.map (Nat.toDigits 16)) := by
  by_cases empty : groups = []
  · subst empty
    exact ⟨.inl ⟨rfl, rfl, rfl⟩, .inl ⟨rfl, rfl, rfl⟩⟩
  · have parts : partsOf groups = groups.map (Nat.toDigits 16) := if_neg empty
    have full : [] ∉ groups.map (Nat.toDigits 16) := by
      intro member
      obtain ⟨group, _, silent⟩ := List.mem_map.1 member
      exact Nat.toDigits_ne_nil silent
    rw [parts]
    constructor
    · exact .inr ⟨fun first => full (List.mem_of_head? first), rfl⟩
    · exact .inr ⟨fun last => full (List.mem_of_getLast? last), rfl⟩

theorem readAround?_of_sides {before after high low : List (List Char)}
    (front : SideOf before.head? before high) (back : SideOf after.getLast? after low)
    (few : high.length + low.length < 8) {first last : List Nat}
    (former : readGroups? high = some first) (latter : readGroups? low = some last) :
    readAround? before after =
      some (addressOf (first ++ List.replicate (8 - (first.length + last.length)) 0 ++ last)) := by
  unfold readAround?
  rcases front with ⟨left, alone, rfl⟩ | ⟨left, rfl⟩
  · rcases back with ⟨right, single, rfl⟩ | ⟨right, rfl⟩
    · cases former
      cases latter
      simp [left, alone, right, single, readGroups?]
    · simp at few
      simp [left, alone, right, few, former, latter]
  · rcases back with ⟨right, single, rfl⟩ | ⟨right, rfl⟩
    · simp at few
      simp [left, right, single, few, former, latter]
    · simp [left, right, few, former, latter]

theorem readAround?_partsOf {before after : List Nat} {gap : Nat} (positive : 0 < gap)
    (all : before.length + (gap + after.length) = 8)
    (bound : ∀ group ∈ before ++ (List.replicate gap 0 ++ after), group < 0x10000) :
    readAround? (partsOf before) (partsOf after) =
      some (addressOf (before ++ (List.replicate gap 0 ++ after))) := by
  have missing : 8 - (before.length + after.length) = gap := by omega
  have high := readGroups?_toDigits fun group member => bound group (List.mem_append_left _ member)
  have low := readGroups?_toDigits fun group member =>
    bound group (List.mem_append_right before (List.mem_append_right _ member))
  rw [readAround?_of_sides (sideOf_partsOf before).1 (sideOf_partsOf after).2 ?_ high low, missing,
    List.append_assoc]
  rw [List.length_map, List.length_map]
  omega

theorem readV6?_of_parts {text : List Char} {parts : List (List Char)}
    (split : text.splitOn ':' = parts) (pointless : ∀ part ∈ parts, '.' ∉ part)
    (enough : 3 ≤ parts.length) (few : parts.length ≤ 9) :
    readV6? text = match innerGaps parts with
      | [] => if parts.length = 8 then (readGroups? parts).map addressOf else none
      | [gap] => readAround? (parts.take gap) (parts.drop (gap + 1))
      | _ => none := by
  have notFew : ¬parts.length < 3 := by omega
  have notMany : ¬9 < parts.length := by omega
  unfold readV6?
  simp only [split, notFew, expandOctets?_of_pointless pointless, ↓reduceIte]
  exact if_neg notMany

theorem readV6?_of_gap {before after : List Nat} {gap : Nat} (positive : 0 < gap)
    (all : before.length + (gap + after.length) = 8)
    (bound : ∀ group ∈ before ++ (List.replicate gap 0 ++ after), group < 0x10000) :
    readV6? (writeGroups before ++ ':' :: ':' :: writeGroups after) =
      some (addressOf (before ++ (List.replicate gap 0 ++ after))) := by
  have parts : (writeGroups before ++ ':' :: ':' :: writeGroups after).splitOn ':' =
      partsOf before ++ [] :: partsOf after := by
    rw [List.splitOn_append_cons_self, ← List.nil_append (':' :: writeGroups after),
      List.splitOn_append_cons_self, splitOn_writeGroups, splitOn_writeGroups]
    rfl
  have pointless : ∀ part ∈ partsOf before ++ [] :: partsOf after, '.' ∉ part := by
    intro part member
    rw [List.mem_append, List.mem_cons] at member
    rcases member with former | rfl | latter
    · exact pointless_partsOf before part former
    · exact List.not_mem_nil
    · exact pointless_partsOf after part latter
  have front := length_partsOf before
  have back := length_partsOf after
  have total : (partsOf before ++ [] :: partsOf after).length =
      (partsOf before).length + ((partsOf after).length + 1) := by
    rw [List.length_append, List.length_cons]
  -- The gap is the only empty part inside, also where it stands first or last in the text.
  rw [readV6?_of_parts parts pointless (by omega) (by omega), innerGaps_around]
  change readAround? (List.take (partsOf before).length _) (List.drop _ _) = _
  rw [List.take_left, ← List.drop_drop, List.drop_left, List.drop_succ_cons, List.drop_zero]
  exact readAround?_partsOf positive all bound

theorem readV6?_of_groups {groups : List Nat} (all : groups.length = 8)
    (bound : ∀ group ∈ groups, group < 0x10000) :
    readV6? (writeGroups groups) = some (addressOf groups) := by
  have some : groups ≠ [] := by
    rintro rfl
    cases all
  have parts : partsOf groups = groups.map (Nat.toDigits 16) := if_neg some
  have count : (partsOf groups).length = 8 := by
    rw [parts, List.length_map, all]
  have gapless : innerGaps (partsOf groups) = [] := by
    apply List.filter_eq_nil_iff.2
    intro i member gap
    simp only [Bool.and_eq_true, decide_eq_true_eq] at gap
    obtain ⟨⟨first, _⟩, empty⟩ := gap
    exact getD_partsOf (List.mem_range.1 member) (.inl first) empty
  rw [readV6?_of_parts (splitOn_writeGroups groups) (pointless_partsOf groups) (by omega) (by omega),
    gapless]
  change (if (partsOf groups).length = 8 then _ else none) = _
  rw [if_pos count, parts, readGroups?_toDigits bound]
  rfl

theorem readV6?_writeV6 {address : Nat} (bound : address < Nat.pow 2 128) :
    readV6? (writeV6 address) = some address := by
  have all := length_groups 8 address
  have small : ∀ group ∈ groups 8 address, group < 0x10000 := fun _ => lt_of_mem_groups
  unfold writeV6
  by_cases left : 1 < (longestZeros (groups 8 address)).2
  · have spec := longestZeros_spec (groups 8 address)
    have count := congrArg List.length spec
    rw [List.length_append, List.length_append, List.length_replicate, all] at count
    rw [spec] at small
    simp only [left, ↓reduceIte]
    rw [readV6?_of_gap (by omega) count.symm small, ← spec, addressOf_groups bound]
  · simp only [left, ↓reduceIte]
    rw [readV6?_of_groups all small, addressOf_groups bound]

theorem not_mem_writeV6 {c : Char} (mark : Mark c) (other : c ≠ ':') (address : Nat) :
    c ∉ writeV6 address := by
  have plain (groups : List Nat) : c ∉ writeGroups groups := by
    intro member
    rcases mem_joined member with same | ⟨part, inside, digit⟩
    · exact other same
    · obtain ⟨group, _, rfl⟩ := List.mem_map.1 inside
      exact mark_not_mem_toDigits (by decide) (by decide) mark group digit
  unfold writeV6
  by_cases left : 1 < (longestZeros (groups 8 address)).2
  · simp only [left, ↓reduceIte]
    simp [plain, other]
  · simp only [left, ↓reduceIte]
    exact plain _

theorem colon_mem_writeV6 (address : Nat) : ':' ∈ writeV6 address := by
  unfold writeV6
  by_cases left : 1 < (longestZeros (groups 8 address)).2
  · simp only [left, ↓reduceIte]
    exact List.mem_append_right _ List.mem_cons_self
  · simp only [left, ↓reduceIte]
    apply List.mem_append_right (Nat.toDigits 16 (address / Nat.pow 0x10000 7 % 0x10000))
    exact List.mem_cons_self

theorem not_mem_writeV4 {c : Char} (mark : Mark c) (other : c ≠ '.') (address : Nat) :
    c ∉ writeV4 address := by
  intro member
  rcases mem_joined member with same | ⟨part, inside, digit⟩
  · exact other same
  · obtain ⟨octet, _, rfl⟩ := List.mem_map.1 inside
    exact mark_not_mem_toDigits (by decide) (by decide) mark octet digit

/-! ### Blocks -/

theorem readScope?_write {address : List Char} (markless : '%' ∉ address) (scope : Option Scope) :
    readScope? (address ++ writeScope scope) = some (address, scope) := by
  unfold readScope?
  cases scope with
  | none =>
    rw [writeScope, List.append_nil, List.splitOn_eq_singleton markless]
  | some scope =>
    rw [writeScope, List.splitOn_append_cons_self_of_not_mem markless,
      List.splitOn_eq_singleton scope.valid.2.1]
    simp [String.ofList_toList, scope.valid]

theorem readParts?_v4 (block : AddressBlock 32) :
    readParts? (writeV4 block.address) (some (Nat.toDigits 10 block.length)) = some (.v4 block) := by
  have read := readV4?_writeV4 block.address_lt
  have length := readLength?_toDigits block.length_le (by decide)
  unfold readParts? readBlockV4?
  simp [read, length, block.of?_self]

/-- What is written of version 6 is not taken for version 4, whatever its scope is named. -/
theorem readParts?_v6 (block : AddressBlock 128) (scope : Option Scope) :
    readParts? (writeV6 block.address ++ writeScope scope)
      (some (Nat.toDigits 10 block.length)) = some (.v6 block scope) := by
  have other : readV4? (writeV6 block.address ++ writeScope scope) = none :=
    readV4?_of_colon (colon_mem_writeV6 _) (not_mem_writeV6 (.inl rfl) (by decide) _) _
  have named := readScope?_write (not_mem_writeV6 (.inr (.inr (.inl rfl))) (by decide)
    block.address) scope
  have read := readV6?_writeV6 block.address_lt
  have length := readLength?_toDigits block.length_le (by decide)
  unfold readParts? readBlockV4? readBlockV6?
  simp [other, named, read, length, block.of?_self]

theorem read?_parts {address : List Char} (whole : '/' ∉ address) (length : Nat) :
    read? (address ++ '/' :: Nat.toDigits 10 length) =
      readParts? address (some (Nat.toDigits 10 length)) := by
  have digits : '/' ∉ Nat.toDigits 10 length :=
    mark_not_mem_toDigits (by decide) (by decide) (.inr (.inr (.inr rfl))) length
  unfold read?
  rw [List.splitOn_append_cons_self_of_not_mem whole, List.splitOn_eq_singleton digits]

theorem read?_write (cidr : Cidr) : read? cidr.write = some cidr := by
  cases cidr with
  | v4 block =>
    have whole := not_mem_writeV4 (.inr (.inr (.inr rfl))) (by decide) block.address
    exact (read?_parts whole block.length).trans (readParts?_v4 block)
  | v6 block scope =>
    have whole : '/' ∉ writeV6 block.address ++ writeScope scope := by
      rw [List.mem_append]
      rintro (early | late)
      · exact not_mem_writeV6 (.inr (.inr (.inr rfl))) (by decide) block.address early
      · cases scope with
        | none => cases late
        | some scope =>
          rcases List.mem_cons.1 late with same | inside
          · exact absurd same (by decide)
          · exact scope.valid.2.2 inside
    exact (read?_parts whole block.length).trans (readParts?_v6 block scope)

theorem parse?_text (cidr : Cidr) : parse? cidr.text = some cidr := by
  unfold parse? text
  rw [String.toList_ofList, read?_write]

theorem text_injective {first second : Cidr} (same : first.text = second.text) : first = second := by
  have read := parse?_text first
  rw [same, parse?_text] at read
  exact (Option.some.inj read).symm

end Bastion.Cidr
