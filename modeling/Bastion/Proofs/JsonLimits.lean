import Bastion.Proofs.FloatText
import Bastion.Proofs.SettledJson
import Mathlib.Data.List.TakeWhile
import Mathlib.Data.Nat.Digits.Defs

set_option autoImplicit false

namespace Bastion.Json

mutual

theorem obstacle_settled : ∀ (value : Json) {room : Nat}, obstacleWithin? room value = none →
    obstacleWithin? room value.settled = none
  | .null, _, fits | .bool _, _, fits | .int _, _, fits | .float _, _, fits | .string _, _, fits => fits
  | .array items, room + 1, fits => obstacle_array.2 (fits_settledItems items (obstacle_array.1 fits))
  | .object members, room + 1, fits => obstacle_object.2 fun member held =>
    fits_settledMembers members (obstacle_object.1 fits) member (Keyed.mem_of_mem_collect held)
  | .array _, 0, fits | .object _, 0, fits => by simp [obstacleWithin?] at fits

theorem fits_settledItems : ∀ (items : List Json) {room : Nat},
    (∀ item ∈ items, obstacleWithin? room item = none) →
      ∀ item ∈ settledItems items, obstacleWithin? room item = none
  | [], _, _ => nofun
  | item :: items, _, fits => by
    obtain ⟨first, later⟩ := List.forall_mem_cons.1 fits
    exact List.forall_mem_cons.2 ⟨obstacle_settled item first, fits_settledItems items later⟩

theorem fits_settledMembers : ∀ (members : List (String × Json)) {room : Nat},
    (∀ member ∈ members, obstacleWithin? room member.2 = none) →
      ∀ member ∈ settledMembers members, obstacleWithin? room member.2 = none
  | [], _, _ => nofun
  | (_, value) :: members, _, fits => by
    obtain ⟨first, later⟩ := List.forall_mem_cons.1 fits
    exact List.forall_mem_cons.2 ⟨obstacle_settled value first, fits_settledMembers members later⟩

end

mutual

/-- A value that fits has no more containers within each other than there is room for. -/
theorem depth_le : ∀ (value : Json) {room : Nat}, obstacleWithin? room value = none →
    value.depth ≤ room
  | .null, _, _ | .bool _, _, _ | .int _, _, _ | .float _, _, _ | .string _, _, _ => Nat.zero_le _
  | .array items, room + 1, fits => depthItems_le items (by rwa [obstacleWithin?] at fits)
  | .object members, room + 1, fits => depthMembers_le members (by rwa [obstacleWithin?] at fits)
  | .array _, 0, fits | .object _, 0, fits => by simp [obstacleWithin?] at fits

theorem depthItems_le : ∀ (items : List Json) {room : Nat}, obstacleOfItems? room items = none →
    depthItems items ≤ room + 1
  | [], _, _ => Nat.zero_le _
  | item :: items, room, fits => by
    obtain ⟨first, later⟩ := Option.or_eq_none_iff.1 fits
    exact Nat.max_le.2 ⟨Nat.succ_le_succ (depth_le item first), depthItems_le items later⟩

theorem depthMembers_le : ∀ (members : List (String × Json)) {room : Nat},
    obstacleOfMembers? room members = none → depthMembers members ≤ room + 1
  | [], _, _ => Nat.zero_le _
  | (_, value) :: members, room, fits => by
    obtain ⟨first, later⟩ := Option.or_eq_none_iff.1 fits
    exact Nat.max_le.2 ⟨Nat.succ_le_succ (depth_le value first), depthMembers_le members later⟩

end

theorem digitValue_lt {c : Char} (digit : isDigit c = true) : digitValue c < 10 := by
  simp only [isDigit, Bool.and_eq_true, decide_eq_true_eq, Char.le_def, UInt32.le_iff_toNat_le] at digit
  have below : c.toNat ≤ '0'.toNat + 9 := digit.2
  unfold digitValue
  omega

theorem natOfDigits_lt {digits : List Char} (digital : ∀ c ∈ digits, isDigit c = true) :
    natOfDigits digits < 10 ^ digits.length := by
  induction digits with
  | nil => decide
  | cons c cs ih =>
    have small := digitValue_lt (digital c List.mem_cons_self)
    have later := ih fun other member => digital other (List.mem_cons_of_mem _ member)
    calc natOfDigits (c :: cs)
        = (0 * 10 + digitValue c) * 10 ^ cs.length + natOfDigits cs := foldl_digits cs _
      _ = digitValue c * 10 ^ cs.length + natOfDigits cs := by rw [Nat.zero_mul, Nat.zero_add]
      _ < (digitValue c + 1) * 10 ^ cs.length := by
        rw [Nat.succ_mul]
        exact Nat.add_lt_add_left later _
      _ ≤ 10 * 10 ^ cs.length := Nat.mul_le_mul_right _ small
      _ = 10 ^ (c :: cs).length := Nat.pow_succ'.symm

theorem length_toDigits_natOfDigits {digits : List Char} (some : digits ≠ [])
    (digital : ∀ c ∈ digits, isDigit c = true) :
    (Nat.toDigits 10 (natOfDigits digits)).length ≤ digits.length :=
  Nat.toDigits_length 10 _ _ (List.length_pos_iff.2 some) (natOfDigits_lt digital)

theorem short_of_lt {number : Int} (digits : Nat) (positive : 0 < digits)
    (few : digits ≤ integerLimit) (bound : number.natAbs < 10 ^ digits) : Short number :=
  (Nat.toDigits_length 10 _ _ positive bound).trans few

theorem digits_of_readWhole? {left digits rest : List Char}
    (read : readWhole? left = some (digits, rest)) :
    digits ≠ [] ∧ ∀ c ∈ digits, isDigit c = true := by
  unfold readWhole? at read
  split at read
  · obtain ⟨rfl, rfl⟩ := Prod.mk.inj (Option.some.inj read)
    exact ⟨List.cons_ne_nil _ _, isDigit_zero⟩
  · rename_i c cs _
    split at read
    · rename_i digit
      obtain ⟨rfl, rfl⟩ := Prod.mk.inj (Option.some.inj read)
      refine ⟨?_, fun other member => List.mem_takeWhile_imp member⟩
      rw [List.takeWhile_cons, if_pos digit]
      exact List.cons_ne_nil _ _
    · cases read
  · cases read

/-- A sign and an integer part of so many digits make a short integer. -/
theorem short_of_readWhole? {left digits rest : List Char}
    (read : readWhole? left = some (digits, rest)) (few : ¬integerLimit < digits.length)
    (negative : Bool) :
    Short (if negative then -(natOfDigits digits : Int) else natOfDigits digits) := by
  obtain ⟨some, digital⟩ := digits_of_readWhole? read
  have size : (if negative then -(natOfDigits digits : Int) else natOfDigits digits).natAbs =
      natOfDigits digits := by
    cases negative <;> simp
  unfold Short
  rw [size]
  exact (length_toDigits_natOfDigits some digital).trans (Nat.not_lt.1 few)

variable {reading : Reading}

theorem readNumber_fits {left rest : List Char} {value : Json} (room : Nat)
    (read : readNumber reading left = .ok (value, rest)) : obstacleWithin? room value = none := by
  revert read
  fun_cases readNumber reading left with
  | case1 | case2 => exact fun read => by cases read
  | case3 negative digits signed whole _ wholes _ _ _ _ _ _ isInteger few integer size =>
    intro read
    obtain ⟨rfl, _⟩ := Prod.mk.inj (Except.ok.inj read)
    refine obstacle_int.2 (short_of_readWhole? wholes (fun long => few ?_) negative)
    rw [integer, decide_eq_true long]
    rfl
  | case4 =>
    intro read
    obtain ⟨rfl, _⟩ := Prod.mk.inj (Except.ok.inj read)
    simp [obstacleWithin?]

theorem readWord?_fits {left rest : List Char} {value : Json} (room : Nat)
    (read : readWord? left = some (value, rest)) : obstacleWithin? room value = none := by
  obtain ⟨⟨word, meant⟩, member, found⟩ := List.exists_of_findSome?_eq_some read
  have all : ∀ entry ∈ words, obstacleWithin? room entry.2 = none := by
    simp [words, obstacleWithin?]
  obtain ⟨_, same⟩ := Option.ite_none_right_eq_some.1 found
  obtain ⟨rfl, _⟩ := Prod.mk.inj (Option.some.inj same)
  exact all _ member

theorem bind_eq_ok {ε α β : Type} {first : Except ε α} {next : α → Except ε β} {result : β} :
    first >>= next = .ok result ↔ ∃ value, first = .ok value ∧ next value = .ok result := by
  cases first <;> simp [bind, Except.bind]

/-- With so much fuel, a value that is read fits the room that there was for it. -/
def ValuesFit (reading : Reading) (fuel : Nat) : Prop :=
  ∀ {room : Nat} {left rest : List Char} {value : Json},
    readValue reading fuel room left = .ok (value, rest) → obstacleWithin? room value = none

def ItemsFit (reading : Reading) (fuel : Nat) : Prop :=
  ∀ {room : Nat} {left rest : List Char} {items : List Json},
    readItems reading fuel room left = .ok (items, rest) → obstacleOfItems? room items = none

def MembersFit (reading : Reading) (fuel : Nat) : Prop :=
  ∀ {room : Nat} {left rest : List Char} {members : List (String × Json)},
    readMembers reading fuel room left = .ok (members, rest) → obstacleOfMembers? room members = none

theorem valuesFit_succ {fuel : Nat} (itemsFit : ItemsFit reading fuel)
    (membersFit : MembersFit reading fuel) : ValuesFit reading (fuel + 1) := by
  intro room left rest value read
  rw [readValue.eq_def] at read
  dsimp only at read
  -- A text starts a string, an array or an object, or it is a word or a number.
  split at read
  case h_1 =>
    obtain ⟨_, _, made⟩ := bind_eq_ok.1 read
    obtain ⟨rfl, _⟩ := Prod.mk.inj (Except.ok.inj made)
    simp [obstacleWithin?]
  case h_2 =>
    cases room with
    | zero => cases read
    | succ room =>
      dsimp only at read
      split at read
      · obtain ⟨rfl, _⟩ := Prod.mk.inj (Except.ok.inj read)
        rfl
      · obtain ⟨_, items, made⟩ := bind_eq_ok.1 read
        obtain ⟨rfl, _⟩ := Prod.mk.inj (Except.ok.inj made)
        exact itemsFit items
  case h_3 =>
    cases room with
    | zero => cases read
    | succ room =>
      dsimp only at read
      split at read
      · obtain ⟨rfl, _⟩ := Prod.mk.inj (Except.ok.inj read)
        rfl
      · obtain ⟨_, members, made⟩ := bind_eq_ok.1 read
        obtain ⟨rfl, _⟩ := Prod.mk.inj (Except.ok.inj made)
        exact membersFit members
  case h_4 =>
    split at read
    · rename_i found
      exact readWord?_fits room (found.trans (congrArg some (Except.ok.inj read)))
    · exact readNumber_fits room read

theorem itemsFit_succ {fuel : Nat} (valuesFit : ValuesFit reading fuel)
    (itemsFit : ItemsFit reading fuel) : ItemsFit reading (fuel + 1) := by
  intro room left rest items read
  rw [readItems] at read
  obtain ⟨_, item, more⟩ := bind_eq_ok.1 read
  dsimp only at more
  split at more
  · obtain ⟨rfl, _⟩ := Prod.mk.inj (Except.ok.inj more)
    exact Option.or_eq_none_iff.2 ⟨valuesFit item, rfl⟩
  · obtain ⟨_, later, made⟩ := bind_eq_ok.1 more
    obtain ⟨rfl, _⟩ := Prod.mk.inj (Except.ok.inj made)
    exact Option.or_eq_none_iff.2 ⟨valuesFit item, itemsFit later⟩
  · cases more

theorem membersFit_succ {fuel : Nat} (valuesFit : ValuesFit reading fuel)
    (membersFit : MembersFit reading fuel) : MembersFit reading (fuel + 1) := by
  intro room left rest members read
  rw [readMembers.eq_def] at read
  dsimp only at read
  split at read
  · obtain ⟨_, _, named⟩ := bind_eq_ok.1 read
    split at named
    · obtain ⟨_, value, more⟩ := bind_eq_ok.1 named
      split at more
      · obtain ⟨rfl, _⟩ := Prod.mk.inj (Except.ok.inj more)
        exact Option.or_eq_none_iff.2 ⟨valuesFit value, rfl⟩
      · obtain ⟨_, later, made⟩ := bind_eq_ok.1 more
        obtain ⟨rfl, _⟩ := Prod.mk.inj (Except.ok.inj made)
        exact Option.or_eq_none_iff.2 ⟨valuesFit value, membersFit later⟩
      · cases more
    · cases named
  · cases read

theorem reads_fit (reading : Reading) (fuel : Nat) :
    ValuesFit reading fuel ∧ ItemsFit reading fuel ∧ MembersFit reading fuel := by
  induction fuel with
  | zero =>
    refine ⟨?_, ?_, ?_⟩
    all_goals
      intro _ _ _ _ read
      cases read
  | succ fuel ih =>
    obtain ⟨valuesFit, itemsFit, membersFit⟩ := ih
    exact ⟨valuesFit_succ itemsFit membersFit, itemsFit_succ valuesFit itemsFit,
      membersFit_succ valuesFit membersFit⟩

theorem obstacle?_of_parseWritten {text : String} {value : Json}
    (read : parseWritten reading text = .ok value) : obstacle? value = none := by
  unfold parseWritten at read
  cases found : readText reading text.toList with
  | error stop =>
    rw [found] at read
    cases read
  | ok other =>
    rw [found] at read
    obtain rfl := Except.ok.inj read
    unfold readText at found
    split at found
    · cases found
    · split at found
      · cases found
      · rename_i valued
        split at found
        · obtain rfl := Except.ok.inj found
          exact writable_of_readable ((reads_fit reading _).1 valued)
        · cases found

theorem obstacle?_of_parse {text : String} {value : Json} (read : parse text = .ok value) :
    obstacle? value = none := by
  obtain ⟨first, written, rfl⟩ := written_of_parse read
  exact obstacle_settled first (obstacle?_of_parseWritten written)

end Bastion.Json
