import Bastion.Proofs.JsonText
import Bastion.Proofs.ShortestDecimal

set_option autoImplicit false

namespace Bastion.Json

open Binary64 (Layout zeros)

def Stops (rest : List Char) : Prop := ∀ c ∈ rest.head?, isDigit c = false

theorem Ended.undigited {rest : List Char} (ended : Ended rest) : Stops rest := by
  intro c first
  rcases ended c first with rfl | rfl | rfl | rfl <;> decide

theorem stops_cons {c : Char} (other : isDigit c = false) (rest : List Char) : Stops (c :: rest) := by
  intro first same
  cases same
  exact other

theorem span_digits {digits rest : List Char} (all : ∀ c ∈ digits, isDigit c = true)
    (stops : Stops rest) :
    (digits ++ rest).takeWhile isDigit = digits ∧ (digits ++ rest).dropWhile isDigit = rest := by
  rw [List.takeWhile_append_of_pos all, List.dropWhile_append_of_pos all]
  cases rest with
  | nil => exact ⟨List.append_nil _, rfl⟩
  | cons c rest =>
    have other := stops c rfl
    simp only [List.takeWhile_cons, List.dropWhile_cons, other, Bool.false_eq_true, ↓reduceIte,
      List.append_nil, and_self]

theorem readWhole?_digits {c : Char} {cs rest : List Char} (leading : c ≠ '0')
    (all : ∀ d ∈ c :: cs, isDigit d = true) (stops : Stops rest) :
    readWhole? (c :: cs ++ rest) = some (c :: cs, rest) := by
  obtain ⟨taken, dropped⟩ := span_digits all stops
  have first : isDigit c = true := all c List.mem_cons_self
  rw [List.cons_append, readWhole?]
  · simp only [first, ↓reduceIte]
    rw [← List.cons_append, taken, dropped]
  · exact leading

theorem readFraction_digits {digits rest : List Char} (some : digits ≠ [])
    (all : ∀ c ∈ digits, isDigit c = true) (stops : Stops rest) :
    readFraction ('.' :: (digits ++ rest)) = (digits, rest) := by
  obtain ⟨taken, dropped⟩ := span_digits all stops
  cases digits with
  | nil => exact absurd rfl some
  | cons c cs =>
    have first : isDigit c = true := all c List.mem_cons_self
    rw [List.cons_append] at taken dropped ⊢
    simp only [readFraction, first, ↓reduceIte, taken, dropped]

/-- The sign of a power of ten, which is always written. -/
def powerSign (negative : Bool) : Char := if negative then '-' else '+'

theorem readExponent_digits (negative : Bool) {digits rest : List Char} (some : digits ≠ [])
    (all : ∀ c ∈ digits, isDigit c = true) (stops : Stops rest) :
    readExponent ('e' :: powerSign negative :: (digits ++ rest)) =
      (.some (if negative then -(natOfDigits digits : Int) else natOfDigits digits), rest) := by
  obtain ⟨taken, dropped⟩ := span_digits all stops
  cases digits with
  | nil => exact absurd rfl some
  | cons c cs =>
    have first : isDigit c = true := all c List.mem_cons_self
    rw [List.cons_append] at taken dropped ⊢
    cases negative <;>
      simp [readExponent, powerSign, first, taken, dropped]

def signed (negative : Bool) (text : List Char) : List Char :=
  if negative then '-' :: text else text

/-- What a number with a fraction or a power of ten is read as, by its parts. -/
theorem readNumber_parts (reading : Reading) (negative : Bool)
    {text whole fraction tail marked rest : List Char} {power : Option Int}
    (unsigned : ∀ later, text ≠ '-' :: later) (wholes : readWhole? text = some (whole, tail))
    (short : whole.length ≤ integerLimit) (fractions : readFraction tail = (fraction, marked))
    (powers : readExponent marked = (power, rest)) (float : fraction ≠ [] ∨ power ≠ none) :
    readNumber reading (signed negative text) =
      .ok (.float (.ofDecimal negative (natOfDigits (whole ++ fraction))
        (power.getD 0 - fraction.length)), rest) := by
  have noInteger : (fraction.isEmpty && power.isNone) = false := by
    rcases float with some | some
    · rw [List.isEmpty_eq_false_iff.2 some, Bool.false_and]
    · rw [Option.isNone_eq_false_iff.2 (Option.isSome_iff_ne_none.2 some), Bool.and_false]
  have fits : ¬integerLimit < whole.length := Nat.not_lt.2 short
  unfold readNumber
  cases negative with
  | true =>
    simp only [signed, ↓reduceIte, wholes, fractions, powers, noInteger, fits, decide_false,
      Bool.and_false, Bool.false_eq_true]
  | false =>
    split
    rename_i split
    split at split
    · rename_i same
      exact absurd same (unsigned _)
    · obtain ⟨rfl, rfl⟩ := Prod.mk.inj split
      simp only [signed, Bool.false_eq_true, ↓reduceIte, wholes, fractions, powers, noInteger, fits,
        decide_false, Bool.and_false]

/-- After a sign or none the text is read as digits and a power of ten of this value. -/
def ReadsAs (text : List Char) (value : ℚ) : Prop :=
  ∀ (reading : Reading) (negative : Bool) {rest : List Char}, Ended rest →
    ∃ (digits : Nat) (power : Int), (digits : ℚ) * 10 ^ power = value ∧
      readNumber reading (signed negative (text ++ rest)) =
        .ok (.float (.ofDecimal negative digits power), rest)

theorem foldl_digits (digits : List Char) (start : Nat) :
    digits.foldl (fun n c => n * 10 + digitValue c) start =
      start * 10 ^ digits.length + natOfDigits digits := by
  unfold natOfDigits
  induction digits generalizing start with
  | nil => rw [List.foldl_nil, List.foldl_nil, List.length_nil, Nat.pow_zero, Nat.mul_one]; rfl
  | cons c cs ih =>
    rw [List.foldl_cons, List.foldl_cons, ih, ih (0 * 10 + digitValue c), List.length_cons]
    ring

theorem natOfDigits_append (first second : List Char) :
    natOfDigits (first ++ second) =
      natOfDigits first * 10 ^ second.length + natOfDigits second := by
  rw [natOfDigits, List.foldl_append, foldl_digits]
  rfl

theorem natOfDigits_zeros (count : Nat) : natOfDigits (zeros count) = 0 := by
  induction count with
  | zero => rfl
  | succ count ih => exact ih

theorem isDigit_zeros {count : Nat} : ∀ c ∈ zeros count, isDigit c = true := by
  intro c member
  rw [List.eq_of_mem_replicate member]
  decide

theorem isDigit_zero : ∀ c ∈ ['0'], isDigit c = true := by
  intro c member
  rw [List.mem_singleton.1 member]
  decide

structure Leading (digits : List Char) : Prop where
  all : ∀ c ∈ digits, isDigit c = true
  first : ∃ c cs, digits = c :: cs ∧ c ≠ '0'

theorem leading_toDigits {n : Nat} (positive : 0 < n) : Leading (Nat.toDigits 10 n) := by
  refine ⟨fun _ => isDigit_toDigits, ?_⟩
  have nonzero := head_toDigits positive
  cases written : Nat.toDigits 10 n with
  | nil => exact absurd written Nat.toDigits_ne_nil
  | cons c cs =>
    rw [written] at nonzero
    exact ⟨c, cs, rfl, fun same => nonzero (congrArg some same)⟩

theorem Leading.readWhole? {digits rest : List Char} (leading : Leading digits)
    (stops : Stops rest) : Json.readWhole? (digits ++ rest) = some (digits, rest) := by
  obtain ⟨c, cs, rfl, nonzero⟩ := leading.first
  exact readWhole?_digits nonzero leading.all stops

theorem Leading.unsigned {digits : List Char} (leading : Leading digits) (rest : List Char) :
    ∀ later, digits ++ rest ≠ '-' :: later := by
  obtain ⟨c, cs, rfl, _⟩ := leading.first
  intro later same
  obtain ⟨rfl, _⟩ := List.cons.inj same
  exact absurd (leading.all '-' List.mem_cons_self) (by decide)

theorem Leading.append {digits more : List Char} (leading : Leading digits)
    (all : ∀ c ∈ more, isDigit c = true) : Leading (digits ++ more) := by
  obtain ⟨c, cs, rfl, nonzero⟩ := leading.first
  exact ⟨fun d member => (List.mem_append.1 member).elim (leading.all d) (all d),
    c, cs ++ more, rfl, nonzero⟩

theorem Leading.take {digits : List Char} (leading : Leading digits) {place : Nat}
    (some : 0 < place) : Leading (digits.take place) := by
  obtain ⟨c, cs, rfl, nonzero⟩ := leading.first
  refine ⟨fun d member => leading.all d (List.mem_of_mem_take member), ?_⟩
  obtain ⟨place, rfl⟩ := Nat.exists_eq_add_one_of_ne_zero (Nat.ne_of_gt some)
  exact ⟨c, cs.take place, rfl, nonzero⟩

variable {digits : List Char}

theorem readsAs_below (leading : Leading digits) (count : Nat) :
    ReadsAs ('0' :: '.' :: (zeros count ++ digits))
      (natOfDigits digits * 10 ^ (-(count : Int) - digits.length)) := by
  intro reading negative rest ended
  obtain ⟨c, cs, same, _⟩ := leading.first
  have all : ∀ d ∈ zeros count ++ digits, isDigit d = true := fun d member =>
    (List.mem_append.1 member).elim (isDigit_zeros d) (leading.all d)
  have some : zeros count ++ digits ≠ [] := by
    rw [same]
    exact List.append_ne_nil_of_right_ne_nil _ (List.cons_ne_nil _ _)
  have unsigned : ∀ later, '0' :: '.' :: (zeros count ++ digits) ++ rest ≠ '-' :: later :=
    fun _ same => absurd (List.cons.inj same).1 (by decide)
  refine ⟨_, _, ?_, readNumber_parts reading negative unsigned rfl (by decide)
    (readFraction_digits some all ended.undigited) ended.readExponent (.inl some)⟩
  have whole : natOfDigits ['0'] = 0 := rfl
  rw [natOfDigits_append ['0'], natOfDigits_append (zeros count), natOfDigits_zeros, whole,
    List.length_append, zeros, List.length_replicate]
  simp only [Nat.zero_mul, Nat.zero_add, Option.getD_none]
  congr 2
  push_cast
  ring

theorem readsAs_above (leading : Leading digits) (count : Nat)
    (short : digits.length + count ≤ integerLimit) :
    ReadsAs (digits ++ zeros count ++ ['.', '0']) (natOfDigits digits * 10 ^ (count : Int)) := by
  intro reading negative rest ended
  have whole : Leading (digits ++ zeros count) := leading.append isDigit_zeros
  have fraction := readFraction_digits (List.cons_ne_nil '0' []) isDigit_zero ended.undigited
  have length : (digits ++ zeros count).length = digits.length + count := by
    rw [List.length_append, zeros, List.length_replicate]
  rw [List.append_assoc]
  refine ⟨_, _, ?_, readNumber_parts reading negative (whole.unsigned _)
    (whole.readWhole? (stops_cons (by decide) _)) (length.trans_le short) fraction
    ended.readExponent (.inl (List.cons_ne_nil _ _))⟩
  have last : natOfDigits ['0'] = 0 := rfl
  rw [natOfDigits_append _ ['0'], natOfDigits_append digits, natOfDigits_zeros, last, zeros,
    List.length_replicate]
  simp only [Option.getD_none, List.length_cons, List.length_nil]
  push_cast
  rw [zpow_natCast]
  norm_num
  ring

theorem readsAs_between (leading : Leading digits) (place : Nat) (some : 0 < place)
    (inside : place < digits.length) (short : place ≤ integerLimit) :
    ReadsAs (digits.take place ++ '.' :: digits.drop place)
      (natOfDigits digits * 10 ^ ((place : Int) - digits.length)) := by
  intro reading negative rest ended
  have whole : Leading (digits.take place) := leading.take some
  have all : ∀ c ∈ digits.drop place, isDigit c = true := fun c member =>
    leading.all c (List.mem_of_mem_drop member)
  have left : digits.drop place ≠ [] := fun none => by
    have bound := List.drop_eq_nil_iff.1 none
    omega
  rw [List.append_assoc, List.cons_append]
  refine ⟨_, _, ?_, readNumber_parts reading negative (whole.unsigned _)
    (whole.readWhole? (stops_cons (by decide) _)) ?_ (readFraction_digits left all ended.undigited)
    ended.readExponent (.inl left)⟩
  · rw [List.take_append_drop, List.length_drop, Nat.cast_sub inside.le, Option.getD_none]
    congr 2
    ring
  · exact (List.length_take_le _ _).trans short

/-- One digit stands before the point, if there is one, and a power of ten follows. -/
theorem readsAs_scaled (leading : Leading digits) (negative : Bool) {power : List Char}
    (powered : power ≠ []) (all : ∀ c ∈ power, isDigit c = true) :
    ReadsAs (digits.take 1 ++ (if (digits.drop 1).isEmpty then [] else '.' :: digits.drop 1) ++
        'e' :: powerSign negative :: power)
      (natOfDigits digits * 10 ^ ((if negative then -(natOfDigits power : Int)
        else natOfDigits power) - (digits.drop 1).length)) := by
  intro reading sign rest ended
  have whole : Leading (digits.take 1) := leading.take Nat.one_pos
  have some : ∀ c ∈ digits.drop 1, isDigit c = true := fun c member =>
    leading.all c (List.mem_of_mem_drop member)
  have mark : Stops ('e' :: powerSign negative :: (power ++ rest)) := stops_cons (by decide) _
  have scaled := readExponent_digits negative powered all ended.undigited
  have fraction : ∃ tail, readFraction tail =
      (digits.drop 1, 'e' :: powerSign negative :: (power ++ rest)) ∧ Stops tail ∧
      (if (digits.drop 1).isEmpty then [] else '.' :: digits.drop 1) ++
        'e' :: powerSign negative :: (power ++ rest) = tail := by
    cases later : digits.drop 1 with
    | nil => exact ⟨_, rfl, mark, rfl⟩
    | cons c cs =>
      rw [later] at some
      exact ⟨_, readFraction_digits (List.cons_ne_nil c cs) some mark, stops_cons (by decide) _, rfl⟩
  obtain ⟨tail, fractions, stops, written⟩ := fraction
  rw [List.append_assoc, List.append_assoc, List.cons_append, List.cons_append, written]
  refine ⟨_, _, ?_, readNumber_parts reading sign (whole.unsigned _) (whole.readWhole? stops) ?_
    fractions scaled (.inr (Option.some_ne_none _))⟩
  · rw [List.take_append_drop, Option.getD_some]
  · exact (List.length_take_le _ _).trans (by decide)

theorem signed_natAbs (power : Int) :
    (if decide (power < 0) = true then -(power.natAbs : Int) else power.natAbs) = power := by
  split
  · rename_i negative
    have negative := of_decide_eq_true negative
    omega
  · rename_i nonneg
    have nonneg : ¬power < 0 := fun negative => nonneg (decide_eq_true negative)
    omega

/-- Whatever its layout, a decimal is read with the value that was written. -/
theorem readsAs_write {n : Nat} (positive : 0 < n) (place : Int) :
    ReadsAs (Layout.plain.write (Nat.toDigits 10 n) (place + (Nat.toDigits 10 n).length))
      (n * 10 ^ place) := by
  have leading := leading_toDigits positive
  have value := natOfDigits_toDigits n
  generalize Nat.toDigits 10 n = digits at *
  subst value
  have limit : (16 : Nat) ≤ integerLimit := by decide
  unfold Layout.write Layout.plain
  simp only
  split
  · rename_i written
    split
    · have reads := readsAs_below leading (-(place + digits.length)).toNat
      rwa [Int.toNat_of_nonneg (by omega), neg_neg, add_sub_cancel_right] at reads
    · split
      · have reads := readsAs_above leading ((place + digits.length).toNat - digits.length)
          (by omega)
        rwa [Nat.cast_sub (by omega), Int.toNat_of_nonneg (by omega), add_sub_cancel_right] at reads
      · have reads := readsAs_between leading (place + digits.length).toNat (by omega) (by omega)
          (by omega)
        rwa [Int.toNat_of_nonneg (by omega), add_sub_cancel_right] at reads
  · have all : ∀ c ∈ zeros (2 - (Nat.toDigits 10 (place + digits.length - 1).natAbs).length) ++
        Nat.toDigits 10 (place + digits.length - 1).natAbs, isDigit c = true := fun c member =>
      (List.mem_append.1 member).elim (isDigit_zeros c) isDigit_toDigits
    have reads := readsAs_scaled leading (decide (place + digits.length - 1 < 0))
      (List.append_ne_nil_of_right_ne_nil _ Nat.toDigits_ne_nil) all
    obtain ⟨c, cs, same, _⟩ := leading.first
    have length : (digits.drop 1).length = digits.length - 1 := List.length_drop
    have some : 1 ≤ digits.length := by
      rw [same, List.length_cons]
      omega
    rw [natOfDigits_append, natOfDigits_zeros, Nat.zero_mul, Nat.zero_add, natOfDigits_toDigits,
      signed_natAbs, length, Nat.cast_sub some, Nat.cast_one, sub_sub_sub_cancel_right,
      add_sub_cancel_right] at reads
    simpa only [powerSign, decide_eq_true_eq] using reads

theorem write_digit {digits : List Char} (leading : Leading digits) (point : Int) :
    ∃ c cs, Layout.plain.write digits point = c :: cs ∧ isDigit c = true := by
  obtain ⟨c, cs, rfl, _⟩ := leading.first
  have digit : isDigit c = true := leading.all c List.mem_cons_self
  unfold Layout.write
  simp only
  split
  · split
    · exact ⟨'0', _, rfl, by decide⟩
    · split
      · exact ⟨c, _, rfl, digit⟩
      · obtain ⟨place, same⟩ : ∃ place, point.toNat = place + 1 :=
          Nat.exists_eq_add_one_of_ne_zero (by omega)
        rw [same]
        exact ⟨c, _, rfl, digit⟩
  · exact ⟨c, _, rfl, digit⟩

/-- The text of a finite number without its sign. -/
def magnitudeText (mantissa : Nat) (exponent : Int) : List Char :=
  if mantissa = 0 then "0.0".toList
  else
    let written := Nat.toDigits 10 (Binary64.shortest mantissa exponent).1
    Layout.plain.write written ((Binary64.shortest mantissa exponent).2 + written.length)

theorem text_finite (negative : Bool) (mantissa : Nat) (exponent : Int)
    (fits : Binary64.Fits mantissa exponent) :
    (Binary64.finite negative mantissa exponent fits).text =
      signed negative (magnitudeText mantissa exponent) := rfl

theorem magnitude_digit {mantissa : Nat} {exponent : Int} (fits : Binary64.Fits mantissa exponent) :
    ∃ c cs, magnitudeText mantissa exponent = c :: cs ∧ isDigit c = true := by
  unfold magnitudeText
  split
  · exact ⟨'0', _, rfl, by decide⟩
  · rename_i nonzero
    have positive := Binary64.digits_pos_of_holds fits (Nat.pos_of_ne_zero nonzero)
      (Binary64.shortest_holds fits (Nat.pos_of_ne_zero nonzero) rfl)
    exact write_digit (leading_toDigits positive) _

theorem readNumber_finite (reading : Reading) (negative : Bool) {mantissa : Nat} {exponent : Int}
    (fits : Binary64.Fits mantissa exponent) {rest : List Char} (ended : Ended rest) :
    readNumber reading (signed negative (magnitudeText mantissa exponent ++ rest)) =
      .ok (.float (.finite negative mantissa exponent fits), rest) := by
  unfold magnitudeText
  split
  · rename_i zero
    obtain rfl : exponent = -1074 := by
      refine fits.2.2.2.resolve_left fun large => ?_
      rw [zero] at large
      exact absurd large (by decide)
    subst zero
    have unsigned : ∀ later, "0.0".toList ++ rest ≠ '-' :: later :=
      fun _ same => absurd (List.cons.inj same).1 (by decide)
    have fraction := readFraction_digits (List.cons_ne_nil '0' []) isDigit_zero ended.undigited
    exact readNumber_parts reading negative unsigned rfl (by decide) fraction ended.readExponent
      (.inl (List.cons_ne_nil _ _))
  · rename_i nonzero
    have positive := Nat.pos_of_ne_zero nonzero
    have holds := Binary64.shortest_holds fits positive rfl
    obtain ⟨digits, power, value, reads⟩ := readsAs_write
      (Binary64.digits_pos_of_holds fits positive holds) _ reading negative ended
    rw [← value] at holds
    rw [Binary64.ofDecimal_of_holds negative fits positive holds] at reads
    exact reads

theorem faithful (reading : Reading) (number : Binary64) : Faithful reading number := by
  cases number with
  | nan => exact ⟨fun _ => rfl, 'N', _, rfl, by decide⟩
  | infinity negative =>
    cases negative with
    | false => exact ⟨fun _ => rfl, 'I', _, rfl, by decide⟩
    | true => exact ⟨fun _ => rfl, '-', _, rfl, by decide⟩
  | finite negative mantissa exponent fits =>
    obtain ⟨c, cs, text, digit⟩ := magnitude_digit fits
    have apart : ∀ other, isDigit other = false → c ≠ other := by
      rintro other unfit rfl
      rw [digit] at unfit
      cases unfit
    have marks : c ≠ '"' ∧ c ≠ '[' ∧ c ≠ '\x7b' :=
      ⟨apart '"' (by decide), apart '[' (by decide), apart '\x7b' (by decide)⟩
    refine ⟨fun {fuel room rest} ended => ?_, ?_⟩
    · obtain ⟨unsigned, minus⟩ := readWord?_digit digit (cs ++ rest)
      have read := readNumber_finite reading negative fits ended
      rw [text] at read
      rw [text_finite, text]
      cases negative with
      | false => exact (readValue_number marks unsigned).trans read
      | true => exact (readValue_number (by decide) minus).trans read
    · rw [text_finite, text]
      cases negative with
      | false => exact ⟨c, cs, rfl, opens_of_isDigit digit⟩
      | true => exact ⟨'-', c :: cs, rfl, by decide⟩

theorem parseWritten_print_all {style : Style} (legible : style.Legible) (reading : Reading)
    {value : Json} (fits : obstacle? value = none) :
    parseWritten reading (print style value) = .ok value :=
  parseWritten_print legible fits fun number _ => faithful reading number

end Bastion.Json
