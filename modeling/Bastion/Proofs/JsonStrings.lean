import Bastion.Json.Parser
import Bastion.Json.Printer

set_option autoImplicit false

namespace Bastion.Json

/-- One more character is read where the escape stands, if something follows it. -/
def Legible (escape : Char → List Char) : Prop :=
  ∀ (c : Char) (reading : Reading) (opening : List Char) (fuel : Nat) (next : Char)
    (rest cs left : List Char),
    readString reading opening fuel (next :: rest) = .ok (cs, left) →
      readString reading opening (fuel + 1) (escape c ++ next :: rest) = .ok (c :: cs, left)

theorem Legible.ne_nil {escape : Char → List Char} (legible : Legible escape) (c : Char) :
    escape c ≠ [] := by
  intro silent
  have read := legible c .lenient [] 1 '"' [] [] [] rfl
  rw [silent] at read
  cases read

theorem hexValue?_digitChar : ∀ n < 16, hexValue? (Nat.digitChar n) = some n := by
  decide

theorem hexDigits_four (unit : Nat) :
    hexDigits 4 [] unit =
      [Nat.digitChar (unit / 16 / 16 / 16 % 16), Nat.digitChar (unit / 16 / 16 % 16),
        Nat.digitChar (unit / 16 % 16), Nat.digitChar (unit % 16)] := rfl

theorem codeUnit?_digits {unit : Nat} (bound : unit < 0x10000) :
    codeUnit? (Nat.digitChar (unit / 16 / 16 / 16 % 16)) (Nat.digitChar (unit / 16 / 16 % 16))
      (Nat.digitChar (unit / 16 % 16)) (Nat.digitChar (unit % 16)) = some unit := by
  have positive : 0 < 16 := by decide
  unfold codeUnit?
  rw [hexValue?_digitChar _ (Nat.mod_lt _ positive), hexValue?_digitChar _ (Nat.mod_lt _ positive),
    hexValue?_digitChar _ (Nat.mod_lt _ positive), hexValue?_digitChar _ (Nat.mod_lt _ positive)]
  have value : unit / 16 / 16 / 16 % 16 * 4096 + unit / 16 / 16 % 16 * 256 + unit / 16 % 16 * 16 +
      unit % 16 = unit := by omega
  exact congrArg some value

/-- A unit that is no half of a pair is the code of its character. -/
theorem readCode_unit (reading : Reading) {unit : Nat} (bound : unit < 0x10000)
    (whole : unit < 0xD800 ∨ 0xE000 ≤ unit) (next : Char) (rest : List Char) :
    readCode reading (hexDigits 4 [] unit ++ next :: rest) = .ok (Char.ofNat unit, next :: rest) := by
  have notHigh : isHighSurrogate unit = false := by
    simp only [isHighSurrogate, Bool.and_eq_false_iff, decide_eq_false_iff_not]
    omega
  have notLow : isLowSurrogate unit = false := by
    simp only [isLowSurrogate, Bool.and_eq_false_iff, decide_eq_false_iff_not]
    omega
  rw [hexDigits_four]
  simp only [List.cons_append, List.nil_append, readCode, codeUnit?_digits bound, notHigh, notLow,
    Bool.false_eq_true, ↓reduceIte]

theorem readCode_pair (reading : Reading) (high low : Nat) (isHigh : 0xD800 ≤ high ∧ high < 0xDC00)
    (isLow : 0xDC00 ≤ low ∧ low < 0xE000) (next : Char) (rest : List Char) :
    readCode reading (hexDigits 4 [] high ++ (unitEscape low ++ next :: rest)) =
      .ok (joinSurrogates high low, next :: rest) := by
  have first : isHighSurrogate high = true := by
    simp only [isHighSurrogate, Bool.and_eq_true, decide_eq_true_eq]
    omega
  have second : isLowSurrogate low = true := by
    simp only [isLowSurrogate, Bool.and_eq_true, decide_eq_true_eq]
    omega
  have highBound : high < 0x10000 := by omega
  have lowBound : low < 0x10000 := by omega
  unfold unitEscape
  rw [hexDigits_four, hexDigits_four]
  simp only [List.cons_append, List.nil_append, readCode, readLowHalf, codeUnit?_digits highBound,
    codeUnit?_digits lowBound, first, second, ↓reduceIte]

theorem toNat_bounds (c : Char) : c.toNat < 0xD800 ∨ 0xE000 ≤ c.toNat ∧ c.toNat < 0x110000 := by
  have valid := c.valid
  change c.toNat < 0xD800 ∨ 0xDFFF < c.toNat ∧ c.toNat < 0x110000 at valid
  omega

theorem readString_code {reading : Reading} {opening rest text cs left : List Char} {fuel : Nat}
    {c : Char} (code : readCode reading text = .ok (c, rest))
    (after : readString reading opening fuel rest = .ok (cs, left)) :
    readString reading opening (fuel + 1) ('\\' :: 'u' :: text) = .ok (c :: cs, left) := by
  simp only [readString, code, bind, Except.bind, after, pure, Except.pure]

theorem legible_codeEscape : Legible codeEscape := by
  intro c reading opening fuel next rest cs left after
  have bounds := toNat_bounds c
  unfold codeEscape
  by_cases narrow : c.toNat < 0x10000
  · have code := readCode_unit reading narrow (by omega) next rest
    rw [Char.ofNat_toNat] at code
    simp only [narrow, ↓reduceIte, unitEscape]
    exact readString_code code after
  · have code := readCode_pair reading (0xD800 + (c.toNat - 0x10000) / 0x400)
      (0xDC00 + (c.toNat - 0x10000) % 0x400) (by omega) (by omega) next rest
    have joined : joinSurrogates (0xD800 + (c.toNat - 0x10000) / 0x400)
        (0xDC00 + (c.toNat - 0x10000) % 0x400) = c := by
      unfold joinSurrogates
      have value : 0x10000 + (0xD800 + (c.toNat - 0x10000) / 0x400 - 0xD800) * 0x400 +
          (0xDC00 + (c.toNat - 0x10000) % 0x400 - 0xDC00) = c.toNat := by omega
      rw [value, Char.ofNat_toNat]
    rw [joined] at code
    simp only [narrow, ↓reduceIte, List.append_assoc]
    exact readString_code code after

theorem shortEscape?_letter {c letter : Char} (escaped : escapeLetter? c = some letter) :
    letter ≠ 'u' ∧ shortEscape? letter = some c := by
  unfold escapeLetter? at escaped
  split at escaped <;> cases escaped <;> exact ⟨by decide, rfl⟩

theorem readString_letter {reading : Reading} {opening rest cs left : List Char} {fuel : Nat}
    {c letter : Char} (escaped : escapeLetter? c = some letter)
    (after : readString reading opening fuel rest = .ok (cs, left)) :
    readString reading opening (fuel + 1) ('\\' :: letter :: rest) = .ok (c :: cs, left) := by
  obtain ⟨notCode, short⟩ := shortEscape?_letter escaped
  rw [readString]
  · simp only [short, after, bind, Except.bind, pure, Except.pure]
  · exact notCode

theorem readString_plain {reading : Reading} {opening rest cs left : List Char} {fuel : Nat}
    {c : Char} (unescaped : escapeLetter? c = none) (printable : ¬c < ' ')
    (after : readString reading opening fuel rest = .ok (cs, left)) :
    readString reading opening (fuel + 1) (c :: rest) = .ok (c :: cs, left) := by
  have notQuote : c ≠ '"' := by
    rintro rfl
    cases unescaped
  have notStroke : c ≠ '\\' := by
    rintro rfl
    cases unescaped
  rw [readString]
  · simp only [printable, ↓reduceIte, after, bind, Except.bind, pure, Except.pure]
  · exact notQuote
  · exact fun _ same _ => notStroke same
  · exact fun _ _ same _ => notStroke same
  · exact fun same _ => notStroke same

theorem legible_escapeControl : Legible escapeControl := by
  intro c reading opening fuel next rest cs left after
  unfold escapeControl
  cases escaped : escapeLetter? c with
  | some letter => exact readString_letter escaped after
  | none =>
    by_cases control : c < ' '
    · simp only [control, ↓reduceIte]
      exact legible_codeEscape c reading opening fuel next rest cs left after
    · simp only [control, ↓reduceIte]
      exact readString_plain escaped control after

theorem legible_escapeAscii : Legible escapeAscii := by
  intro c reading opening fuel next rest cs left after
  unfold escapeAscii
  cases escaped : escapeLetter? c with
  | some letter => exact readString_letter escaped after
  | none =>
    by_cases printable : ' ' ≤ c ∧ c ≤ '~'
    · simp only [printable, and_self, ↓reduceIte]
      exact readString_plain escaped (Char.not_lt.2 printable.1) after
    · simp only [printable, ↓reduceIte]
      exact legible_codeEscape c reading opening fuel next rest cs left after

theorem length_le_flatMap {escape : Char → List Char} (nonempty : ∀ c, escape c ≠ [])
    (text : List Char) : text.length ≤ (text.flatMap escape).length := by
  induction text with
  | nil => exact Nat.le_refl _
  | cons c cs ih =>
    have first := List.length_pos_iff.2 (nonempty c)
    rw [List.flatMap_cons, List.length_append, List.length_cons]
    omega

/-- A string is read back up to its closing quote, which leaves what follows. -/
theorem readString_escaped {escape : Char → List Char} (legible : Legible escape)
    (reading : Reading) (opening rest : List Char) (text : List Char) {fuel : Nat}
    (enough : text.length < fuel) :
    readString reading opening fuel (text.flatMap escape ++ '"' :: rest) = .ok (text, rest) := by
  induction text generalizing fuel with
  | nil =>
    obtain ⟨fuel, rfl⟩ := Nat.exists_eq_add_one_of_ne_zero (Nat.ne_of_gt enough)
    simp only [List.flatMap_nil, List.nil_append, readString]
  | cons c cs ih =>
    obtain ⟨fuel, rfl⟩ := Nat.exists_eq_add_one_of_ne_zero (Nat.ne_zero_of_lt enough)
    have after := ih (Nat.lt_of_succ_lt_succ enough)
    rw [List.flatMap_cons, List.append_assoc]
    cases shape : cs.flatMap escape ++ '"' :: rest with
    | nil => simp at shape
    | cons next others =>
      rw [shape] at after
      exact legible c reading opening fuel next others cs rest after

end Bastion.Json
