import Bastion.Json.Parser
import Bastion.Json.Printer

set_option autoImplicit false

namespace Bastion.Json

/-- What may stand after a value: nothing, a line break, or a mark that ends the value. -/
def Ended (rest : List Char) : Prop :=
  ∀ c ∈ rest.head?, c = ',' ∨ c = ']' ∨ c = '\x7d' ∨ c = '\n'

theorem ended_nil : Ended [] := fun _ member => by cases member

theorem ended_cons {c : Char} {rest : List Char}
    (mark : c = ',' ∨ c = ']' ∨ c = '\x7d' ∨ c = '\n') : Ended (c :: rest) := by
  intro other member
  cases member
  exact mark

/-- A value that has ended is not continued by a character of another kind. -/
theorem Ended.stops {rest : List Char} (ended : Ended rest) (test : Char → Bool)
    (marks : (test ',' || test ']' || test '\x7d' || test '\n') = false) :
    rest.takeWhile test = [] ∧ rest.dropWhile test = rest := by
  cases rest with
  | nil => exact ⟨rfl, rfl⟩
  | cons c rest =>
    have unfit : test c = false := by
      simp only [Bool.or_eq_false_iff] at marks
      rcases ended c rfl with rfl | rfl | rfl | rfl
      · exact marks.1.1.1
      · exact marks.1.1.2
      · exact marks.1.2
      · exact marks.2
    simp only [List.takeWhile_cons, List.dropWhile_cons, unfit, Bool.false_eq_true, ↓reduceIte,
      and_self]

theorem isDigit_toDigits {c : Char} {n : Nat} (member : c ∈ Nat.toDigits 10 n) :
    isDigit c = true := by
  have digit := Nat.isDigit_of_mem_toDigits (by decide) (by decide) member
  simp only [Char.isDigit, Bool.and_eq_true, decide_eq_true_eq] at digit
  simp only [isDigit, Bool.and_eq_true, decide_eq_true_eq]
  exact digit

theorem visible_of_isDigit {c : Char} (digit : isDigit c = true) : isBlank c = false := by
  cases blank : isBlank c with
  | false => rfl
  | true =>
    simp only [isBlank, Bool.or_eq_true, decide_eq_true_eq] at blank
    rcases blank with ((rfl | rfl) | rfl) | rfl <;> exact absurd digit (by decide)

theorem natOfDigits_toDigits (n : Nat) : natOfDigits (Nat.toDigits 10 n) = n := by
  have same : natOfDigits (Nat.toDigits 10 n) = Nat.ofDigitChars 10 (Nat.toDigits 10 n) 0 := by
    unfold natOfDigits Nat.ofDigitChars digitValue
    simp only [Nat.mul_comm]
  rw [same, Nat.ofDigitChars_ten_toDigits]

theorem head_toDigits {n : Nat} (positive : 0 < n) : (Nat.toDigits 10 n).head? ≠ some '0' := by
  induction n using Nat.strongRecOn with
  | ind n ih =>
    have zeroFree : ∀ n < 10, 0 < n → [Nat.digitChar n].head? ≠ some '0' := by decide
    rw [Nat.toDigits_eq_if (by decide)]
    by_cases small : n < 10
    · simp only [small, ↓reduceIte]
      exact zeroFree n small positive
    · simp only [small, ↓reduceIte]
      have shorter := ih (n / 10) (by omega) (by omega)
      cases digits : Nat.toDigits 10 (n / 10) with
      | nil => exact absurd digits Nat.toDigits_ne_nil
      | cons c cs => rwa [digits] at shorter

theorem readWhole?_toDigits (n : Nat) {rest : List Char} (ended : Ended rest) :
    readWhole? (Nat.toDigits 10 n ++ rest) = some (Nat.toDigits 10 n, rest) := by
  rcases Nat.eq_zero_or_pos n with rfl | positive
  · rfl
  · have digits : ∀ c ∈ Nat.toDigits 10 n, isDigit c = true := fun _ => isDigit_toDigits
    have leading := head_toDigits positive
    cases written : Nat.toDigits 10 n with
    | nil => exact absurd written Nat.toDigits_ne_nil
    | cons c cs =>
      rw [written] at digits leading
      have notZero : c ≠ '0' := fun same => leading (congrArg some same)
      have first : isDigit c = true := digits c List.mem_cons_self
      obtain ⟨taken, dropped⟩ := ended.stops isDigit (by decide)
      rw [List.cons_append, readWhole?]
      · simp only [first, ↓reduceIte]
        rw [← List.cons_append, List.takeWhile_append_of_pos digits, taken,
          List.dropWhile_append_of_pos digits, dropped, List.append_nil]
      · exact notZero

theorem Ended.readFraction {rest : List Char} (ended : Ended rest) :
    readFraction rest = ([], rest) := by
  unfold Json.readFraction
  split
  · have mark : ¬('.' = ',' ∨ '.' = ']' ∨ '.' = '\x7d' ∨ '.' = '\n') := by decide
    exact absurd (ended '.' rfl) mark
  · rfl

theorem Ended.readExponent {rest : List Char} (ended : Ended rest) :
    readExponent rest = (none, rest) := by
  unfold Json.readExponent
  cases rest with
  | nil => rfl
  | cons c rest =>
    have mark : ¬(c = 'e' ∨ c = 'E') := by
      rcases ended c rfl with rfl | rfl | rfl | rfl <;> decide
    simp only [mark, ↓reduceIte]

theorem writeInt_cases (value : Int) :
    (value < 0 ∧ writeInt value = '-' :: Nat.toDigits 10 value.natAbs) ∨
      (0 ≤ value ∧ writeInt value = Nat.toDigits 10 value.natAbs) := by
  unfold writeInt
  by_cases negative : value < 0
  · exact .inl ⟨negative, by simp only [negative, ↓reduceIte]⟩
  · exact .inr ⟨Int.not_lt.1 negative, by simp only [negative, ↓reduceIte]⟩

theorem readNumber_writeInt (reading : Reading) {value : Int}
    (short : (Nat.toDigits 10 value.natAbs).length ≤ integerLimit) {rest : List Char}
    (ended : Ended rest) : readNumber reading (writeInt value ++ rest) = .ok (.int value, rest) := by
  have fits : ¬integerLimit < (Nat.toDigits 10 value.natAbs).length := Nat.not_lt.2 short
  rcases writeInt_cases value with ⟨negative, written⟩ | ⟨positive, written⟩
  · rw [written]
    simp only [readNumber, List.cons_append, readWhole?_toDigits _ ended, ended.readFraction,
      ended.readExponent, fits, natOfDigits_toDigits, List.isEmpty_nil, Option.isNone_none,
      Bool.and_self, Bool.true_or, decide_false, ↓reduceIte, Bool.and_false, Bool.false_eq_true]
    have sign : -(value.natAbs : Int) = value := by omega
    rw [sign]
  · have unsigned : ∀ tail, writeInt value ++ rest ≠ '-' :: tail := by
      intro tail same
      cases digits : Nat.toDigits 10 value.natAbs with
      | nil => exact Nat.toDigits_ne_nil digits
      | cons c cs =>
        rw [written, digits, List.cons_append] at same
        obtain ⟨rfl, _⟩ := List.cons.inj same
        have digit := isDigit_toDigits (digits ▸ List.mem_cons_self)
        exact absurd digit (by decide)
    have sign : (value.natAbs : Int) = value := by omega
    unfold readNumber
    split
    rename_i split
    split at split
    · exact absurd ‹_› (unsigned _)
    · obtain ⟨rfl, rfl⟩ := Prod.mk.inj split
      simp only [written, readWhole?_toDigits _ ended, ended.readFraction, ended.readExponent, fits,
        natOfDigits_toDigits, List.isEmpty_nil, Option.isNone_none, Bool.and_self, Bool.true_or,
        decide_false, ↓reduceIte, Bool.and_false, Bool.false_eq_true, sign]

end Bastion.Json
