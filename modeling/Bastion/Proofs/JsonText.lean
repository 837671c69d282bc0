import Bastion.Json.Limits
import Bastion.Proofs.JsonNumbers
import Bastion.Proofs.JsonStrings

set_option autoImplicit false

namespace Bastion.Json

/-- Blanks may follow a comma and a colon, and each character is read back from its escape. -/
structure Style.Legible (style : Style) : Prop where
  comma : ∃ blanks, style.comma = ',' :: blanks ∧ ∀ c ∈ blanks, isBlank c = true
  colon : ∃ blanks, style.colon = ':' :: blanks ∧ ∀ c ∈ blanks, isBlank c = true
  escape : Json.Legible style.escape

theorem isBlank_of_space : ∀ c ∈ [' '], isBlank c = true := by
  intro c member
  rw [List.mem_singleton.1 member]
  rfl

theorem legible_dense : Style.dense.Legible where
  comma := ⟨[], rfl, fun _ member => by cases member⟩
  colon := ⟨[], rfl, fun _ member => by cases member⟩
  escape := legible_escapeControl

theorem legible_line : Style.line.Legible where
  comma := ⟨[' '], rfl, isBlank_of_space⟩
  colon := ⟨[' '], rfl, isBlank_of_space⟩
  escape := legible_escapeAscii

theorem legible_page : Style.page.Legible where
  comma := ⟨[], rfl, fun _ member => by cases member⟩
  colon := ⟨[' '], rfl, isBlank_of_space⟩
  escape := legible_escapeAscii

mutual

def floats : Json → List Binary64
  | .float number => [number]
  | .array items => floatsOfItems items
  | .object members => floatsOfMembers members
  | _ => []

def floatsOfItems : List Json → List Binary64
  | [] => []
  | item :: items => floats item ++ floatsOfItems items

def floatsOfMembers : List (String × Json) → List Binary64
  | [] => []
  | (_, value) :: members => floats value ++ floatsOfMembers members

end

/-- A value may start with the character. -/
def Opens (c : Char) : Prop := isBlank c = false ∧ c ≠ ']' ∧ c ≠ '\uFEFF'

instance (c : Char) : Decidable (Opens c) := inferInstanceAs (Decidable (_ ∧ _ ∧ _))

/-- The number is read back from its text, wherever that has ended. -/
structure Faithful (reading : Reading) (number : Binary64) : Prop where
  reads : ∀ {fuel room : Nat} {rest : List Char}, Ended rest →
    readValue reading (fuel + 1) room (number.text ++ rest) = .ok (.float number, rest)
  starts : ∃ c cs, number.text = c :: cs ∧ Opens c

theorem skipBlanks_append {blanks : List Char} (blank : ∀ c ∈ blanks, isBlank c = true)
    (rest : List Char) : skipBlanks (blanks ++ rest) = skipBlanks rest :=
  List.dropWhile_append_of_pos blank

theorem skipBlanks_cons {c : Char} (visible : isBlank c = false) (rest : List Char) :
    skipBlanks (c :: rest) = c :: rest := by
  simp only [skipBlanks, List.dropWhile_cons, visible, Bool.false_eq_true, ↓reduceIte]

theorem skipBlanks_break (style : Style) (level : Nat) (rest : List Char) :
    skipBlanks (style.break level rest) = skipBlanks rest := by
  unfold Style.break
  cases style.indent with
  | none => rfl
  | some width =>
    have blank : ∀ c ∈ '\n' :: List.replicate (width * level) ' ', isBlank c = true := by
      intro c member
      rcases List.mem_cons.1 member with rfl | later
      · decide
      · rw [List.eq_of_mem_replicate later]
        decide
    exact skipBlanks_append blank rest

theorem ended_break (style : Style) (level : Nat) {rest : List Char} (ended : Ended rest) :
    Ended (style.break level rest) := by
  unfold Style.break
  cases style.indent with
  | none => exact ended
  | some width => exact ended_cons (by decide)

theorem length_break (style : Style) (level : Nat) (rest : List Char) :
    rest.length ≤ (style.break level rest).length := by
  unfold Style.break
  cases style.indent with
  | none => exact Nat.le_refl _
  | some width =>
    simp only [List.length_cons, List.length_append, List.length_replicate]
    omega

theorem text_ne_nil (number : Binary64) : number.text ≠ [] := by
  have written (digits : List Char) (point : Int) :
      Binary64.Layout.plain.write digits point ≠ [] := by
    unfold Binary64.Layout.write
    split
    · split
      · exact List.cons_ne_nil _ _
      · split
        · simp
        · simp
    · simp
  cases number with
  | nan => decide
  | infinity negative => cases negative <;> decide
  | finite negative mantissa exponent fits =>
    unfold Binary64.text
    cases negative with
    | true => exact List.cons_ne_nil _ _
    | false =>
      by_cases zero : mantissa = 0
      · simp [zero]
      · simpa [zero] using written _ _

theorem writeInt_ne_nil (value : Int) : writeInt value ≠ [] := by
  rcases writeInt_cases value with ⟨_, written⟩ | ⟨_, written⟩
  · rw [written]
    exact List.cons_ne_nil _ _
  · rw [written]
    exact Nat.toDigits_ne_nil

theorem length_lt_append {text : List Char} (visible : text ≠ []) (rest : List Char) :
    rest.length < (text ++ rest).length := by
  have positive := List.length_pos_iff.2 visible
  rw [List.length_append]
  omega

theorem length_writeString (style : Style) (value : String) (rest : List Char) :
    rest.length < (writeString style value rest).length := by
  simp only [writeString, List.length_cons, List.length_append]
  omega

mutual

theorem length_write (style : Style) : ∀ (value : Json) (level : Nat) (rest : List Char),
    rest.length < (write style level value rest).length
  | .null, _, rest => length_lt_append (by decide) rest
  | .bool true, _, rest => length_lt_append (by decide) rest
  | .bool false, _, rest => length_lt_append (by decide) rest
  | .int value, _, rest => length_lt_append (writeInt_ne_nil value) rest
  | .float number, _, rest => length_lt_append (text_ne_nil number) rest
  | .string value, _, rest => length_writeString style value rest
  | .array [], _, rest => by
    simp only [write, List.length_cons]
    omega
  | .array (item :: items), level, rest => by
    have closing := length_break style level (']' :: rest)
    have later := length_writeItems style items (level + 1) (style.break level (']' :: rest))
    have first := length_write style item (level + 1)
      (writeItems style (level + 1) items (style.break level (']' :: rest)))
    have opening := length_break style (level + 1) (write style (level + 1) item
      (writeItems style (level + 1) items (style.break level (']' :: rest))))
    simp only [write, List.length_cons] at *
    omega
  | .object [], _, rest => by
    simp only [write, List.length_cons]
    omega
  | .object ((name, value) :: members), level, rest => by
    have closing := length_break style level ('\x7d' :: rest)
    have later := length_writeMembers style members (level + 1) (style.break level ('\x7d' :: rest))
    have first := length_write style value (level + 1)
      (writeMembers style (level + 1) members (style.break level ('\x7d' :: rest)))
    have named := length_writeString style name (style.colon ++ write style (level + 1) value
      (writeMembers style (level + 1) members (style.break level ('\x7d' :: rest))))
    have opening := length_break style (level + 1) (writeString style name (style.colon ++
      write style (level + 1) value
        (writeMembers style (level + 1) members (style.break level ('\x7d' :: rest)))))
    simp only [write, List.length_cons, List.length_append] at *
    omega

theorem length_writeItems (style : Style) : ∀ (items : List Json) (level : Nat)
    (rest : List Char), rest.length ≤ (writeItems style level items rest).length
  | [], _, _ => Nat.le_refl _
  | item :: items, level, rest => by
    have later := length_writeItems style items level rest
    have first := length_write style item level (writeItems style level items rest)
    have opening := length_break style level
      (write style level item (writeItems style level items rest))
    simp only [writeItems, List.length_append] at *
    omega

theorem length_writeMembers (style : Style) : ∀ (members : List (String × Json)) (level : Nat)
    (rest : List Char), rest.length ≤ (writeMembers style level members rest).length
  | [], _, _ => Nat.le_refl _
  | (name, value) :: members, level, rest => by
    have later := length_writeMembers style members level rest
    have first := length_write style value level (writeMembers style level members rest)
    have named := length_writeString style name
      (style.colon ++ write style level value (writeMembers style level members rest))
    have opening := length_break style level (writeString style name
      (style.colon ++ write style level value (writeMembers style level members rest)))
    simp only [writeMembers, List.length_append] at *
    omega

end

theorem break_append (style : Style) (level : Nat) (text rest : List Char) :
    style.break level (text ++ rest) = style.break level text ++ rest := by
  unfold Style.break
  split
  · rfl
  · simp

theorem writeString_append (style : Style) (value : String) (text rest : List Char) :
    writeString style value (text ++ rest) = writeString style value text ++ rest := by
  simp [writeString]

mutual

/-- What is written before a text is written without a look at it. -/
theorem write_append (style : Style) : ∀ (value : Json) (level : Nat) (text rest : List Char),
    write style level value (text ++ rest) = write style level value text ++ rest
  | .null, _, _, _ | .bool _, _, _, _ | .int _, _, _, _ | .float _, _, _, _ => by simp [write]
  | .string value, _, text, rest => writeString_append style value text rest
  | .array [], _, _, _ | .object [], _, _, _ => rfl
  | .array (item :: items), level, text, rest => by
    rw [write, write, ← List.cons_append, break_append, writeItems_append, write_append, break_append,
      List.cons_append]
  | .object ((name, value) :: members), level, text, rest => by
    rw [write, write, ← List.cons_append, break_append, writeMembers_append, write_append,
      ← List.append_assoc, writeString_append, break_append, List.cons_append]

theorem writeItems_append (style : Style) : ∀ (items : List Json) (level : Nat)
    (text rest : List Char),
    writeItems style level items (text ++ rest) = writeItems style level items text ++ rest
  | [], _, _, _ => rfl
  | item :: items, level, text, rest => by
    rw [writeItems, writeItems, writeItems_append, write_append, break_append, List.append_assoc]

theorem writeMembers_append (style : Style) : ∀ (members : List (String × Json)) (level : Nat)
    (text rest : List Char),
    writeMembers style level members (text ++ rest) = writeMembers style level members text ++ rest
  | [], _, _, _ => rfl
  | (name, value) :: members, level, text, rest => by
    rw [writeMembers, writeMembers, writeMembers_append, write_append, ← List.append_assoc,
      writeString_append, break_append, List.append_assoc]

end

variable {style : Style} {reading : Reading}

theorem opens_of_isDigit {c : Char} (digit : isDigit c = true) : Opens c := by
  refine ⟨visible_of_isDigit digit, ?_, ?_⟩
  all_goals
    rintro rfl
    exact absurd digit (by decide)

theorem write_starts (style : Style) (value : Json)
    (faithful : ∀ number ∈ value.floats, Faithful reading number) (level : Nat)
    (rest : List Char) : ∃ c cs, write style level value rest = c :: cs ∧ Opens c := by
  cases value with
  | null => exact ⟨'n', _, rfl, by decide⟩
  | bool value =>
    cases value with
    | false => exact ⟨'f', _, rfl, by decide⟩
    | true => exact ⟨'t', _, rfl, by decide⟩
  | int value =>
    rcases writeInt_cases value with ⟨_, written⟩ | ⟨_, written⟩
    · exact ⟨'-', _, congrArg (· ++ rest) written, by decide⟩
    · cases digits : Nat.toDigits 10 value.natAbs with
      | nil => exact absurd digits Nat.toDigits_ne_nil
      | cons c cs =>
        have digit := isDigit_toDigits (digits ▸ List.mem_cons_self)
        exact ⟨c, cs ++ rest, congrArg (· ++ rest) (written.trans digits), opens_of_isDigit digit⟩
  | float number =>
    obtain ⟨c, cs, text, opens⟩ := (faithful number List.mem_cons_self).starts
    exact ⟨c, cs ++ rest, congrArg (· ++ rest) text, opens⟩
  | string value => exact ⟨'"', _, rfl, by decide⟩
  | array items => cases items <;> exact ⟨'[', _, rfl, by decide⟩
  | object members => cases members <;> exact ⟨'\x7b', _, rfl, by decide⟩

theorem readString_writeString (legible : style.Legible) (reading : Reading) (value : String)
    (opening rest : List Char) :
    readString reading opening ((value.toList.flatMap style.escape ++ '"' :: rest).length + 1)
      (value.toList.flatMap style.escape ++ '"' :: rest) = .ok (value.toList, rest) := by
  apply readString_escaped legible.escape
  have room : value.toList.length ≤ (value.toList.flatMap style.escape).length :=
    length_le_flatMap legible.escape.ne_nil _
  rw [List.length_append, List.length_cons]
  omega

theorem readWord?_digit {c : Char} (digit : isDigit c = true) (cs : List Char) :
    readWord? (c :: cs) = none ∧ readWord? ('-' :: c :: cs) = none := by
  have apart : ∀ other, isDigit other = false → other ≠ c := by
    rintro other unfit rfl
    rw [digit] at unfit
    cases unfit
  unfold readWord? words
  simp [apart 'n' (by decide), apart 't' (by decide), apart 'f' (by decide),
    apart 'N' (by decide), apart 'I' (by decide), apart '-' (by decide)]

/-- A text that starts no string, array or object and is no word is read as a number. -/
theorem readValue_number {fuel room : Nat} {c : Char} {cs : List Char}
    (other : c ≠ '"' ∧ c ≠ '[' ∧ c ≠ '\x7b') (wordless : readWord? (c :: cs) = none) :
    readValue reading (fuel + 1) room (c :: cs) = readNumber reading (c :: cs) := by
  rw [readValue]
  · simp only [wordless]
  · exact fun _ same => other.1 (List.cons.inj same).1
  · exact fun _ same => other.2.1 (List.cons.inj same).1
  · exact fun _ same => other.2.2 (List.cons.inj same).1

theorem readValue_writeInt {value : Int}
    (short : (Nat.toDigits 10 value.natAbs).length ≤ integerLimit) {fuel room : Nat}
    {rest : List Char} (ended : Ended rest) :
    readValue reading (fuel + 1) room (writeInt value ++ rest) = .ok (.int value, rest) := by
  have number := readNumber_writeInt reading short ended
  cases digits : Nat.toDigits 10 value.natAbs with
  | nil => exact absurd digits Nat.toDigits_ne_nil
  | cons c cs =>
    have digit := isDigit_toDigits (digits ▸ List.mem_cons_self)
    obtain ⟨positive, negative⟩ := readWord?_digit digit (cs ++ rest)
    rcases writeInt_cases value with ⟨_, written⟩ | ⟨_, written⟩
    · rw [written, digits] at number ⊢
      exact (readValue_number (by decide) negative).trans number
    · rw [written, digits] at number ⊢
      refine (readValue_number ⟨?_, ?_, ?_⟩ positive).trans number
      all_goals
        rintro rfl
        exact absurd digit (by decide)

theorem readValue_array {fuel room : Nat} {text cs left : List Char} {c : Char}
    {items : List Json} (opened : skipBlanks text = c :: cs) (different : c ≠ ']')
    (read : readItems reading fuel room (c :: cs) = .ok (items, left)) :
    readValue reading (fuel + 1) (room + 1) ('[' :: text) = .ok (.array items, left) := by
  rw [readValue]
  simp only [opened]
  split
  · rename_i same
    exact absurd (List.cons.inj same).1 different
  · simp only [read, bind, Except.bind, pure, Except.pure]

theorem readItems_last {fuel room : Nat} {text rest left : List Char} {item : Json}
    (read : readValue reading fuel room text = .ok (item, rest))
    (closed : skipBlanks rest = ']' :: left) :
    readItems reading (fuel + 1) room text = .ok ([item], left) := by
  rw [readItems]
  simp only [read, closed, bind, Except.bind, pure, Except.pure]

theorem readItems_more {fuel room : Nat} {text rest next left : List Char} {item : Json}
    {items : List Json} (read : readValue reading fuel room text = .ok (item, rest))
    (more : skipBlanks rest = ',' :: next)
    (later : readItems reading fuel room (skipBlanks next) = .ok (items, left)) :
    readItems reading (fuel + 1) room text = .ok (item :: items, left) := by
  rw [readItems]
  simp only [read, more, later, bind, Except.bind, pure, Except.pure]

theorem readValue_object {fuel room : Nat} {text rest left : List Char}
    {members : List (String × Json)} (opened : skipBlanks text = '"' :: rest)
    (read : readMembers reading fuel room ('"' :: rest) = .ok (members, left)) :
    readValue reading (fuel + 1) (room + 1) ('\x7b' :: text) = .ok (.object members, left) := by
  rw [readValue]
  simp only [opened]
  split
  · rename_i same
    exact absurd (List.cons.inj same).1 (by decide)
  · simp only [read, bind, Except.bind, pure, Except.pure]

theorem readMembers_last {fuel room : Nat} {text valueText rest left named : List Char}
    {name : String} {value : Json}
    (read : readString reading ('"' :: text) (text.length + 1) text = .ok (name.toList, named))
    (colon : skipBlanks named = ':' :: valueText)
    (valued : readValue reading fuel room (skipBlanks valueText) = .ok (value, rest))
    (closed : skipBlanks rest = '\x7d' :: left) :
    readMembers reading (fuel + 1) room ('"' :: text) = .ok ([(name, value)], left) := by
  rw [readMembers]
  simp only [read, colon, valued, closed, bind, Except.bind, pure, Except.pure, String.ofList_toList]

theorem readMembers_more {fuel room : Nat} {text valueText rest next left named : List Char}
    {name : String} {value : Json} {members : List (String × Json)}
    (read : readString reading ('"' :: text) (text.length + 1) text = .ok (name.toList, named))
    (colon : skipBlanks named = ':' :: valueText)
    (valued : readValue reading fuel room (skipBlanks valueText) = .ok (value, rest))
    (more : skipBlanks rest = ',' :: next)
    (later : readMembers reading fuel room (skipBlanks next) = .ok (members, left)) :
    readMembers reading (fuel + 1) room ('"' :: text) = .ok ((name, value) :: members, left) := by
  rw [readMembers]
  simp only [read, colon, valued, more, later, bind, Except.bind, pure, Except.pure, String.ofList_toList]

theorem skipBlanks_write {value : Json} (faithful : ∀ number ∈ value.floats, Faithful reading number)
    (level : Nat) (rest : List Char) :
    skipBlanks (write style level value rest) = write style level value rest := by
  obtain ⟨c, cs, text, opens⟩ := write_starts style value faithful level rest
  rw [text, skipBlanks_cons opens.1]

theorem Style.Legible.comma_break (legible : style.Legible) (level : Nat) (text : List Char) :
    ∃ next, style.comma ++ style.break level text = ',' :: next ∧
      skipBlanks next = skipBlanks text ∧ text.length ≤ next.length := by
  obtain ⟨blanks, comma, blank⟩ := legible.comma
  have broken := length_break style level text
  refine ⟨blanks ++ style.break level text, by rw [comma, List.cons_append], ?_, ?_⟩
  · rw [skipBlanks_append blank, skipBlanks_break]
  · rw [List.length_append]
    omega

theorem Style.Legible.colon_text (legible : style.Legible) (text : List Char) :
    ∃ next, style.colon ++ text = ':' :: next ∧ skipBlanks next = skipBlanks text := by
  obtain ⟨blanks, colon, blank⟩ := legible.colon
  exact ⟨blanks ++ text, by rw [colon, List.cons_append], skipBlanks_append blank text⟩

/-- With so much fuel, values that fit are read back. -/
def ReadsValues (style : Style) (reading : Reading) (fuel : Nat) : Prop :=
  ∀ (value : Json) (level room : Nat) (rest : List Char), obstacleWithin? room value = none →
    (∀ number ∈ value.floats, Faithful reading number) → Ended rest →
    2 * (write style level value rest).length ≤ fuel →
    readValue reading fuel room (write style level value rest) = .ok (value, rest)

def ReadsItems (style : Style) (reading : Reading) (fuel : Nat) : Prop :=
  ∀ (item : Json) (items : List Json) (level outer room : Nat) (rest : List Char),
    obstacleOfItems? room (item :: items) = none →
    (∀ number ∈ floatsOfItems (item :: items), Faithful reading number) →
    2 * (write style level item
      (writeItems style level items (style.break outer (']' :: rest)))).length < fuel →
    readItems reading fuel room (write style level item
      (writeItems style level items (style.break outer (']' :: rest)))) =
        .ok (item :: items, rest)

def ReadsMembers (style : Style) (reading : Reading) (fuel : Nat) : Prop :=
  ∀ (name : String) (value : Json) (members : List (String × Json)) (level outer room : Nat)
    (rest : List Char), obstacleOfMembers? room ((name, value) :: members) = none →
    (∀ number ∈ floatsOfMembers ((name, value) :: members), Faithful reading number) →
    2 * (writeString style name (style.colon ++ write style level value
      (writeMembers style level members (style.break outer ('\x7d' :: rest))))).length < fuel →
    readMembers reading fuel room (writeString style name (style.colon ++ write style level value
      (writeMembers style level members (style.break outer ('\x7d' :: rest))))) =
        .ok ((name, value) :: members, rest)

theorem readsValues_succ (legible : style.Legible) {fuel : Nat}
    (readsItems : ReadsItems style reading fuel) (readsMembers : ReadsMembers style reading fuel) :
    ReadsValues style reading (fuel + 1) := by
  intro value level room rest fits faithful ended enough
  cases value with
  | null => rfl
  | bool value => cases value <;> rfl
  | int value => exact readValue_writeInt (obstacle_int.1 fits) ended
  | float number => exact (faithful number List.mem_cons_self).reads ended
  | string value =>
    have text := readString_writeString legible reading value (writeString style value rest) rest
    simp only [writeString] at text
    simp only [write, writeString, readValue, text, bind, Except.bind, pure, Except.pure,
      String.ofList_toList]
  | array items =>
    obtain ⟨inner, rfl, fitting⟩ := array_fits.1 fits
    cases items with
    | nil => rfl
    | cons item items =>
      have faithfulItem : ∀ number ∈ item.floats, Faithful reading number :=
        fun number member => faithful number (List.mem_append_left _ member)
      have opening := length_break style (level + 1) (write style (level + 1) item
        (writeItems style (level + 1) items (style.break level (']' :: rest))))
      simp only [write, List.length_cons] at enough ⊢
      have read := readsItems item items (level + 1) level inner rest fitting faithful (by omega)
      obtain ⟨c, cs, text, opens⟩ := write_starts style item faithfulItem (level + 1)
        (writeItems style (level + 1) items (style.break level (']' :: rest)))
      rw [text] at read ⊢
      refine readValue_array ?_ opens.2.1 read
      rw [skipBlanks_break, skipBlanks_cons opens.1]
  | object members =>
    obtain ⟨inner, rfl, fitting⟩ := object_fits.1 fits
    rcases members with _ | ⟨⟨name, value⟩, members⟩
    · rfl
    · have opening := length_break style (level + 1) (writeString style name (style.colon ++
        write style (level + 1) value
          (writeMembers style (level + 1) members (style.break level ('\x7d' :: rest)))))
      simp only [write, List.length_cons] at enough ⊢
      have read := readsMembers name value members (level + 1) level inner rest fitting faithful
        (by omega)
      refine readValue_object ?_ read
      rw [skipBlanks_break]
      exact skipBlanks_cons (by decide) _

theorem readsItems_succ (legible : style.Legible) {fuel : Nat}
    (readsValues : ReadsValues style reading fuel) (readsItems : ReadsItems style reading fuel) :
    ReadsItems style reading (fuel + 1) := by
  intro item items level outer room rest fits faithful enough
  obtain ⟨fitsItem, fitsItems⟩ := Option.or_eq_none_iff.1 fits
  have faithfulItem : ∀ number ∈ item.floats, Faithful reading number :=
    fun number member => faithful number (List.mem_append_left _ member)
  have shorter := length_write style item level
    (writeItems style level items (style.break outer (']' :: rest)))
  cases items with
  | nil =>
    have closing : Ended (style.break outer (']' :: rest)) :=
      ended_break style outer (ended_cons (by decide))
    refine readItems_last
      (readsValues item level room _ fitsItem faithfulItem closing (by omega)) ?_
    rw [writeItems, skipBlanks_break]
    exact skipBlanks_cons (by decide) rest
  | cons next items =>
    have faithfulItems : ∀ number ∈ floatsOfItems (next :: items), Faithful reading number :=
      fun number member => faithful number (List.mem_append_right _ member)
    have faithfulNext : ∀ number ∈ next.floats, Faithful reading number :=
      fun number member => faithfulItems number (List.mem_append_left _ member)
    obtain ⟨after, comma, blank, longer⟩ := legible.comma_break level
      (write style level next (writeItems style level items (style.break outer (']' :: rest))))
    rw [writeItems, comma] at enough shorter ⊢
    rw [List.length_cons] at shorter
    refine readItems_more (readsValues item level room _ fitsItem faithfulItem
      (ended_cons (by decide)) (by omega)) (skipBlanks_cons (by decide) _) ?_
    rw [blank, skipBlanks_write faithfulNext]
    exact readsItems next items level outer room rest fitsItems faithfulItems (by omega)

theorem readsMembers_succ (legible : style.Legible) {fuel : Nat}
    (readsValues : ReadsValues style reading fuel)
    (readsMembers : ReadsMembers style reading fuel) :
    ReadsMembers style reading (fuel + 1) := by
  intro name value members level outer room rest fits faithful enough
  obtain ⟨fitsValue, fitsMembers⟩ := Option.or_eq_none_iff.1 fits
  have faithfulValue : ∀ number ∈ value.floats, Faithful reading number :=
    fun number member => faithful number (List.mem_append_left _ member)
  have named := length_writeString style name (style.colon ++ write style level value
    (writeMembers style level members (style.break outer ('\x7d' :: rest))))
  have shorter := length_write style value level
    (writeMembers style level members (style.break outer ('\x7d' :: rest)))
  have read := readString_writeString legible reading name
    (writeString style name (style.colon ++ write style level value
      (writeMembers style level members (style.break outer ('\x7d' :: rest)))))
    (style.colon ++ write style level value
      (writeMembers style level members (style.break outer ('\x7d' :: rest))))
  rw [List.length_append] at named
  obtain ⟨valueText, colon, spaced⟩ := legible.colon_text (write style level value
    (writeMembers style level members (style.break outer ('\x7d' :: rest))))
  have separated := (congrArg skipBlanks colon).trans (skipBlanks_cons (by decide) valueText)
  rw [skipBlanks_write faithfulValue] at spaced
  have valued (ended) := readsValues value level room (writeMembers style level members
    (style.break outer ('\x7d' :: rest))) fitsValue faithfulValue ended (by omega)
  rw [← spaced] at valued
  cases members with
  | nil =>
    have closing : Ended (style.break outer ('\x7d' :: rest)) :=
      ended_break style outer (ended_cons (by decide))
    apply readMembers_last read separated (valued closing)
    rw [writeMembers, skipBlanks_break]
    exact skipBlanks_cons (by decide) rest
  | cons member members =>
    obtain ⟨other, next⟩ := member
    have faithfulMembers : ∀ number ∈ floatsOfMembers ((other, next) :: members),
        Faithful reading number :=
      fun number member => faithful number (List.mem_append_right _ member)
    obtain ⟨after, comma, blank, longer⟩ := legible.comma_break level
      (writeString style other (style.colon ++ write style level next
        (writeMembers style level members (style.break outer ('\x7d' :: rest)))))
    rw [writeMembers, comma] at enough shorter named read separated valued ⊢
    rw [List.length_cons] at shorter
    refine readMembers_more read separated (valued (ended_cons (by decide)))
      (skipBlanks_cons (by decide) _) ?_
    rw [blank]
    refine (congrArg _ (skipBlanks_cons (by decide) _)).trans ?_
    exact readsMembers other next members level outer room rest fitsMembers faithfulMembers
      (by omega)

/-- Every step into a value spends some of its text, so twice the text is fuel enough. -/
theorem reads_all (legible : style.Legible) (fuel : Nat) :
    ReadsValues style reading fuel ∧ ReadsItems style reading fuel ∧
      ReadsMembers style reading fuel := by
  induction fuel with
  | zero =>
    refine ⟨?_, ?_, ?_⟩
    · intro value level room rest _ _ _ enough
      have positive := length_write style value level rest
      omega
    · intro item items level outer room rest _ _ enough
      omega
    · intro name value members level outer room rest _ _ enough
      omega
  | succ fuel ih =>
    obtain ⟨readsValues, readsItems, readsMembers⟩ := ih
    exact ⟨readsValues_succ legible readsItems readsMembers,
      readsItems_succ legible readsValues readsItems,
      readsMembers_succ legible readsValues readsMembers⟩

theorem readText_write (legible : style.Legible) {value : Json} (fits : obstacle? value = none)
    (faithful : ∀ number ∈ value.floats, Faithful reading number) {rest : List Char}
    (ended : Ended rest) (blank : skipBlanks rest = []) :
    readText reading (write style 0 value rest) = .ok value := by
  have enough : 2 * (write style 0 value rest).length ≤ 2 * (write style 0 value rest).length + 2 := by
    omega
  have read := (reads_all legible _).1 value 0 readingLimit rest (readable_of_writable fits) faithful
    ended enough
  obtain ⟨c, cs, text, opens⟩ := write_starts style value faithful 0 rest
  have unmarked : (write style 0 value rest).head? ≠ some '\uFEFF' := by
    rw [text]
    exact fun same => opens.2.2 (Option.some.inj same)
  unfold readText
  simp only [unmarked, ↓reduceIte, skipBlanks_write faithful, read, blank]

/-- A value within the limits, with floating point numbers that are read back, is read back. -/
theorem parseWritten_print (legible : style.Legible) {value : Json} (fits : obstacle? value = none)
    (faithful : ∀ number ∈ value.floats, Faithful reading number) :
    parseWritten reading (print style value) = .ok value := by
  unfold parseWritten print
  rw [String.toList_ofList, readText_write legible fits faithful ended_nil rfl]

theorem parseWritten_print_line (legible : style.Legible) {value : Json}
    (fits : obstacle? value = none) (faithful : ∀ number ∈ value.floats, Faithful reading number) :
    parseWritten reading (print style value ++ "\n") = .ok value := by
  have line : (print style value ++ "\n").toList = write style 0 value ['\n'] := by
    unfold print
    rw [String.toList_append, String.toList_ofList]
    exact (write_append style value 0 [] ['\n']).symm
  unfold parseWritten
  rw [line, readText_write legible fits faithful (ended_cons (by decide)) rfl]

end Bastion.Json
