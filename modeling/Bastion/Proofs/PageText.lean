import Bastion.Proofs.FloatText
import Bastion.Proofs.SettledJson
import Bastion.Text.Split

set_option autoImplicit false

namespace Bastion

theorem Text.unifyLineEnds_of_clean {text : List Char} (clean : '\r' ∉ text) :
    unifyLineEnds text = text := by
  induction text with
  | nil => rfl
  | cons c cs ih =>
    obtain ⟨other, rest⟩ := not_or.1 (mt List.mem_cons.2 clean)
    rw [unifyLineEnds, ih rest]
    · rintro _ rfl _
      exact other rfl
    · rintro rfl
      exact other rfl

namespace Binary64

theorem clean_of_digits {digits : List Char} (all : ∀ c ∈ digits, Json.isDigit c = true) :
    '\r' ∉ digits :=
  fun member => absurd (all _ member) (by decide)

theorem clean_toDigits (n : Nat) : '\r' ∉ Nat.toDigits 10 n :=
  clean_of_digits fun _ => Json.isDigit_toDigits

theorem clean_zeros (count : Nat) : '\r' ∉ zeros count :=
  clean_of_digits Json.isDigit_zeros

theorem clean_write {digits : List Char} (clean : '\r' ∉ digits) (point : Int) :
    '\r' ∉ Layout.plain.write digits point := by
  have before (place : Nat) : '\r' ∉ digits.take place := fun member =>
    clean (List.mem_of_mem_take member)
  have behind (place : Nat) : '\r' ∉ digits.drop place := fun member =>
    clean (List.mem_of_mem_drop member)
  unfold Layout.write
  split
  · split
    · simp [clean, clean_zeros]
    · split
      · simp [clean, clean_zeros]
      · simp [before, behind]
  · have sign (negative : Prop) [Decidable negative] :
        '\r' ≠ if negative then '-' else '+' := by
      split <;> decide
    have fraction : '\r' ∉ if (digits.drop 1).isEmpty then [] else '.' :: digits.drop 1 := by
      split
      · exact List.not_mem_nil
      · exact List.not_mem_cons_of_ne_of_not_mem (by decide) (behind 1)
    simp only [List.mem_append, List.mem_cons, not_or]
    exact ⟨⟨before 1, fraction⟩, by decide, sign _, clean_zeros _, clean_toDigits _⟩

theorem clean_text (number : Binary64) : '\r' ∉ number.text := by
  cases number with
  | nan => decide
  | infinity negative => cases negative <;> decide
  | finite negative mantissa exponent fits =>
    have magnitude : '\r' ∉ Json.magnitudeText mantissa exponent := by
      unfold Json.magnitudeText
      split
      · decide
      · exact clean_write (clean_toDigits _) _
    rw [Json.text_finite]
    cases negative with
    | false => exact magnitude
    | true => exact List.not_mem_cons_of_ne_of_not_mem (by decide) magnitude

end Binary64

namespace Json

/-- Lines end as lines of the text do, and not otherwise. -/
structure Style.Clean (style : Style) : Prop where
  comma : '\r' ∉ style.comma
  colon : '\r' ∉ style.colon
  escape : ∀ c, '\r' ∉ style.escape c

theorem clean_unitEscape (unit : Nat) : '\r' ∉ unitEscape unit := by
  have digit (n : Nat) : '\r' ≠ Nat.digitChar (n % 16) := by
    have all : ∀ n < 16, '\r' ≠ Nat.digitChar n := by decide
    exact all _ (Nat.mod_lt _ (by decide))
  unfold unitEscape
  rw [hexDigits_four]
  simp [digit]

theorem clean_codeEscape (c : Char) : '\r' ∉ codeEscape c := by
  unfold codeEscape
  simp only
  split
  · exact clean_unitEscape _
  · exact List.not_mem_append (clean_unitEscape _) (clean_unitEscape _)

theorem escapeLetter_ne_return {c letter : Char} (escaped : escapeLetter? c = some letter) :
    '\r' ≠ letter := by
  unfold escapeLetter? at escaped
  split at escaped <;> cases escaped <;> decide

theorem clean_escapeAscii (c : Char) : '\r' ∉ escapeAscii c := by
  unfold escapeAscii
  split
  · rename_i letter escaped
    simp [escapeLetter_ne_return escaped]
  · split
    · rename_i printable
      rintro member
      rw [List.mem_singleton] at member
      exact absurd (member ▸ printable.1) (by decide)
    · exact clean_codeEscape c

theorem clean_escapeControl (c : Char) : '\r' ∉ escapeControl c := by
  unfold escapeControl
  split
  · rename_i letter escaped
    simp [escapeLetter_ne_return escaped]
  · split
    · exact clean_codeEscape c
    · rename_i printable
      rintro member
      rw [List.mem_singleton] at member
      exact absurd (member ▸ by decide) printable

theorem clean_page : Style.page.Clean where
  comma := by decide
  colon := by decide
  escape := clean_escapeAscii

theorem clean_dense : Style.dense.Clean where
  comma := by decide
  colon := by decide
  escape := clean_escapeControl

variable {style : Style}

theorem clean_break {rest : List Char} (level : Nat) (clean : '\r' ∉ rest) :
    '\r' ∉ style.break level rest := by
  unfold Style.break
  split
  · exact clean
  · simp [clean]

theorem clean_writeString (cleanly : style.Clean) (value : String) {rest : List Char}
    (clean : '\r' ∉ rest) : '\r' ∉ writeString style value rest := by
  unfold writeString
  have escaped : '\r' ∉ value.toList.flatMap style.escape := by
    intro member
    obtain ⟨c, _, inside⟩ := List.mem_flatMap.1 member
    exact cleanly.escape c inside
  simp [escaped, clean]

theorem clean_writeInt (value : Int) : '\r' ∉ writeInt value := by
  have digits := Binary64.clean_toDigits value.natAbs
  rcases writeInt_cases value with ⟨_, written⟩ | ⟨_, written⟩
  · rw [written]
    exact List.not_mem_cons_of_ne_of_not_mem (by decide) digits
  · rw [written]
    exact digits

mutual

theorem clean_write (cleanly : style.Clean) : ∀ (value : Json) (level : Nat) (rest : List Char),
    '\r' ∉ rest → '\r' ∉ write style level value rest
  | .null, _, _, clean => by simp [write, clean]
  | .bool true, _, _, clean => by simp [write, clean]
  | .bool false, _, _, clean => by simp [write, clean]
  | .int value, _, _, clean => by
    rw [write]
    exact List.not_mem_append (clean_writeInt value) clean
  | .float number, _, _, clean => by
    rw [write]
    exact List.not_mem_append number.clean_text clean
  | .string value, _, _, clean => by
    rw [write]
    exact clean_writeString cleanly value clean
  | .array [], _, _, clean => by simp [write, clean]
  | .array (item :: items), level, _, clean => by
    rw [write]
    have closed : '\r' ∉ style.break level (']' :: _) :=
      clean_break level (List.not_mem_cons_of_ne_of_not_mem (by decide) clean)
    have later := clean_writeItems cleanly items (level + 1) _ closed
    exact List.not_mem_cons_of_ne_of_not_mem (by decide)
      (clean_break _ (clean_write cleanly item _ _ later))
  | .object [], _, _, clean => by simp [write, clean]
  | .object ((name, value) :: members), level, _, clean => by
    rw [write]
    have closed : '\r' ∉ style.break level ('\x7d' :: _) :=
      clean_break level (List.not_mem_cons_of_ne_of_not_mem (by decide) clean)
    have later := clean_writeMembers cleanly members (level + 1) _ closed
    have valued := clean_write cleanly value (level + 1) _ later
    exact List.not_mem_cons_of_ne_of_not_mem (by decide)
      (clean_break _ (clean_writeString cleanly name (List.not_mem_append cleanly.colon valued)))

theorem clean_writeItems (cleanly : style.Clean) : ∀ (items : List Json) (level : Nat)
    (rest : List Char), '\r' ∉ rest → '\r' ∉ writeItems style level items rest
  | [], _, _, clean => clean
  | item :: items, level, rest, clean => by
    rw [writeItems]
    have later := clean_writeItems cleanly items level rest clean
    exact List.not_mem_append cleanly.comma (clean_break _ (clean_write cleanly item _ _ later))

theorem clean_writeMembers (cleanly : style.Clean) : ∀ (members : List (String × Json))
    (level : Nat) (rest : List Char), '\r' ∉ rest → '\r' ∉ writeMembers style level members rest
  | [], _, _, clean => clean
  | (name, value) :: members, level, rest, clean => by
    rw [writeMembers]
    have later := clean_writeMembers cleanly members level rest clean
    have valued := clean_write cleanly value level _ later
    exact List.not_mem_append cleanly.comma (clean_break _
      (clean_writeString cleanly name (List.not_mem_append cleanly.colon valued)))

end

theorem unifyLineEnds_print (cleanly : style.Clean) (value : Json) :
    String.ofList (Text.unifyLineEnds (print style value).toList) = print style value := by
  unfold print
  rw [String.toList_ofList, Text.unifyLineEnds_of_clean]
  exact clean_write cleanly value 0 [] List.not_mem_nil

theorem parse_page {value : Json} (fits : obstacle? value = none) :
    parse (print .page value) = .ok value.settled :=
  parse_of_written fun reading => parseWritten_print_all legible_page reading fits

end Json

end Bastion
