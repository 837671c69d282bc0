import Bastion.Compute.Ports
import Bastion.Proofs.TextOccurrences
import Bastion.Text.Digit

set_option autoImplicit false

namespace Bastion.Compute

variable {start last : List Char}

theorem endOr_of_ne_nil (start : List Char) {last : List Char} (given : last ≠ []) :
    endOr start last = last := by
  unfold endOr
  rw [if_neg (by simpa using given)]

theorem endOr_nil (start : List Char) : endOr start [] = start := rfl

theorem endOr_endOr (start last : List Char) : endOr start (endOr start last) = endOr start last := by
  cases last with
  | nil => cases start <;> rfl
  | cons c rest => rfl

theorem portEntry_append (strokeless : '/' ∉ start) (last : List Char) :
    portEntry (start ++ '/' :: last) =
      if start = endOr start last then start else start ++ '-' :: endOr start last := by
  unfold portEntry
  simp only [Text.cutChars_append strokeless]

theorem entryRange_append (dashless : '-' ∉ start) (last : List Char) :
    entryRange (start ++ '-' :: last) = start ++ '/' :: endOr start last := by
  unfold entryRange
  simp only [Text.cutChars_append dashless]

theorem entryRange_of_not_mem (dashless : '-' ∉ start) :
    entryRange start = start ++ '/' :: start := by
  unfold entryRange
  simp only [Text.cutChars_of_not_mem dashless, endOr_nil]

/-- A start without the mark of an entry is read back with its end, whether the two were written as one
or not. -/
theorem entryRange_portEntry (strokeless : '/' ∉ start) (dashless : '-' ∉ start) (given : last ≠ []) :
    entryRange (portEntry (start ++ '/' :: last)) = start ++ '/' :: last := by
  rw [portEntry_append strokeless, endOr_of_ne_nil start given]
  split
  · rename_i same
    rw [entryRange_of_not_mem dashless, ← same]
  · rw [entryRange_append dashless, endOr_of_ne_nil start given]

theorem ne_allPorts (dashless : '-' ∉ start) (last : List Char) :
    String.ofList (start ++ '/' :: last) ≠ Rule.allPorts := by
  intro all
  have characters := congrArg String.toList all
  rw [String.toList_ofList] at characters
  cases start with
  | nil => cases characters
  | cons c rest => exact dashless ((List.cons.inj characters).1 ▸ List.mem_cons_self)

theorem portEntries_ofList {range : List Char} (some : String.ofList range ≠ Rule.allPorts) :
    portEntries (String.ofList range) = [String.ofList (portEntry range)] := by
  unfold portEntries
  rw [if_neg some, String.toList_ofList]

/-- All ports, or two ends of which the first has neither mark and the second is given, as digits are. -/
def TwoEnded (ports : String) : Prop :=
  ports = Rule.allPorts ∨ ∃ start last, '/' ∉ start ∧ '-' ∉ start ∧ last ≠ [] ∧
    ports = String.ofList (start ++ '/' :: last)

theorem portRange_portEntries {ports : String} (ends : TwoEnded ports) :
    portRange (portEntries ports) = ports := by
  rcases ends with rfl | ⟨start, last, strokeless, dashless, given, rfl⟩
  · rfl
  · rw [portEntries_ofList (ne_allPorts dashless last)]
    unfold portRange
    simp only [String.toList_ofList, entryRange_portEntry strokeless dashless given]

/-- Of a range that comes back the start has no dash: it would end there. -/
theorem dashless_of_entryRange (strokeless : '/' ∉ start)
    (back : entryRange (portEntry (start ++ '/' :: last)) = start ++ '/' :: last) : '-' ∉ start := by
  intro dash
  obtain ⟨before, after, rfl, dashless⟩ := List.eq_append_cons_of_mem dash
  have short : '/' ∉ before := fun member => strokeless (List.mem_append_left _ member)
  -- Whether the end was left out or not, the entry goes on with the dash after this start.
  have cutShort : ∃ entryEnd, entryRange (portEntry (before ++ '-' :: after ++ '/' :: last)) =
      before ++ '/' :: entryEnd := by
    rw [portEntry_append strokeless]
    split
    · exact ⟨_, entryRange_append dashless after⟩
    · rw [List.append_assoc, List.cons_append]
      exact ⟨_, entryRange_append dashless _⟩
  obtain ⟨entryEnd, shorter⟩ := cutShort
  rw [back, List.append_assoc, List.append_cancel_left_eq, List.cons_append] at shorter
  cases shorter

/-- A range comes back from its entries in these cases, and in the one that neither end is given. -/
theorem portRange_portEntries_iff {ports : String} :
    portRange (portEntries ports) = ports ↔ TwoEnded ports ∨ ports = "/" := by
  constructor
  · intro back
    by_cases all : ports = Rule.allPorts
    · exact .inl (.inl all)
    have characters : entryRange (portEntry ports.toList) = ports.toList := by
      unfold portEntries at back
      rw [if_neg all] at back
      have same := congrArg String.toList back
      unfold portRange at same
      rwa [String.toList_ofList, String.toList_ofList] at same
    by_cases stroke : '/' ∈ ports.toList
    · obtain ⟨start, last, text, strokeless⟩ := List.eq_append_cons_of_mem stroke
      rw [text] at characters
      have dashless := dashless_of_entryRange strokeless characters
      have written : ports = String.ofList (start ++ '/' :: last) := by
        rw [← text, String.ofList_toList]
      cases last with
      | nil =>
        rw [portEntry_append strokeless, endOr_nil, if_pos rfl, entryRange_of_not_mem dashless,
          List.append_cancel_left_eq] at characters
        obtain rfl := (List.cons.inj characters).2
        exact .inr written
      | cons c rest =>
        exact .inl (.inr ⟨start, c :: rest, strokeless, dashless, List.cons_ne_nil c rest, written⟩)
    · -- A range has a stroke, whatever entry it was made of.
      have marked : ∀ entry, '/' ∈ entryRange entry := fun entry => by
        unfold entryRange
        simp
      exact absurd (characters ▸ marked _) stroke
  · rintro (ends | rfl)
    · exact portRange_portEntries ends
    · rfl

/-- No entry, or a single one with no stroke where it starts: without a dash, or with an end after it
that is given and is not the start. -/
def SingleEntry (entries : List String) : Prop :=
  entries = [] ∨ ∃ start, '/' ∉ start ∧ '-' ∉ start ∧
    (entries = [String.ofList start] ∨ ∃ last, last ≠ [] ∧ start ≠ last ∧
      entries = [String.ofList (start ++ '-' :: last)])

theorem portEntry_entryRange (strokeless : '/' ∉ start) (dashless : '-' ∉ start) (given : last ≠ [])
    (apart : start ≠ last) :
    portEntry (entryRange (start ++ '-' :: last)) = start ++ '-' :: last := by
  rw [entryRange_append dashless, endOr_of_ne_nil start given, portEntry_append strokeless,
    endOr_of_ne_nil start given, if_neg apart]

theorem portEntry_entryRange_single (strokeless : '/' ∉ start) (dashless : '-' ∉ start) :
    portEntry (entryRange start) = start := by
  rw [entryRange_of_not_mem dashless, portEntry_append strokeless, if_pos]
  cases start <;> rfl

/-- Every entry makes a range of two ends, the first of which has no dash. -/
theorem entryRange_eq (entry : List Char) : ∃ start last,
    '-' ∉ start ∧ entryRange entry = start ++ '/' :: endOr start last ∧
      (entry = start ∧ last = [] ∨ entry = start ++ '-' :: last) := by
  by_cases dash : '-' ∈ entry
  · obtain ⟨start, last, rfl, dashless⟩ := List.eq_append_cons_of_mem dash
    exact ⟨start, last, dashless, entryRange_append dashless last, .inr rfl⟩
  · exact ⟨entry, [], dash, entryRange_of_not_mem dash, .inl ⟨rfl, rfl⟩⟩

/-- Of an entry that comes back the start has no stroke: it would end there. -/
theorem strokeless_of_portEntry {entryEnd entry : List Char}
    (shape : entry = start ∨ entry = start ++ '-' :: last) (dashless : '-' ∉ start)
    (back : portEntry (start ++ '/' :: entryEnd) = entry) : '/' ∉ start := by
  intro stroke
  obtain ⟨before, after, rfl, strokeless⟩ := List.eq_append_cons_of_mem stroke
  have rest : after ++ '/' :: entryEnd ≠ [] := List.append_ne_nil_of_right_ne_nil _ (List.cons_ne_nil _ _)
  -- What follows the first stroke has another one, so it is no second writing of the start.
  have apart : before ≠ after ++ '/' :: entryEnd := fun same =>
    strokeless (same ▸ List.mem_append_right _ List.mem_cons_self)
  rw [List.append_assoc, List.cons_append, portEntry_append strokeless, endOr_of_ne_nil _ rest,
    if_neg apart] at back
  rcases shape with rfl | rfl
  · rw [List.append_cancel_left_eq] at back
    cases back
  · rw [List.append_assoc, List.append_cancel_left_eq] at back
    cases back

theorem portEntries_portRange_cons (entry : String) (rest : List String) :
    portEntries (portRange (entry :: rest)) = [String.ofList (portEntry (entryRange entry.toList))] := by
  obtain ⟨start, last, dashless, range, _⟩ := entryRange_eq entry.toList
  unfold portRange
  rw [portEntries_ofList]
  rw [range]
  exact ne_allPorts dashless _

theorem portEntries_portRange_iff {entries : List String} :
    portEntries (portRange entries) = entries ↔ SingleEntry entries := by
  constructor
  · intro back
    cases entries with
    | nil => exact .inl rfl
    | cons entry rest =>
      rw [portEntries_portRange_cons] at back
      obtain ⟨same, rfl⟩ := List.cons.inj back
      obtain ⟨start, last, dashless, range, shape⟩ := entryRange_eq entry.toList
      have characters := congrArg String.toList same
      rw [String.toList_ofList, range] at characters
      have strokeless := strokeless_of_portEntry (shape.imp And.left id) dashless characters
      refine .inr ⟨start, strokeless, dashless, ?_⟩
      rcases shape with ⟨whole, _⟩ | ended
      · exact .inl (by rw [← whole, String.ofList_toList])
      · rw [ended, portEntry_append strokeless, endOr_endOr] at characters
        split at characters
        · simp at characters
        · rename_i apart
          rw [List.append_cancel_left_eq] at characters
          have kept := (List.cons.inj characters).2
          rw [kept] at apart
          refine .inr ⟨last, ?_, apart, by rw [← ended, String.ofList_toList]⟩
          rintro rfl
          exact apart kept
  · rintro (rfl | ⟨start, strokeless, dashless, rfl | ⟨last, given, apart, rfl⟩⟩)
    · rfl
    · rw [portEntries_portRange_cons, String.toList_ofList,
        portEntry_entryRange_single strokeless dashless]
    · rw [portEntries_portRange_cons, String.toList_ofList,
        portEntry_entryRange strokeless dashless given apart]

def Numeral (text : List Char) : Prop := text ≠ [] ∧ ∀ c ∈ text, Text.isDigit c = true

theorem Numeral.markless {text : List Char} (numeral : Numeral text) : '/' ∉ text ∧ '-' ∉ text :=
  ⟨fun stroke => absurd (numeral.2 _ stroke) (by decide),
    fun dash => absurd (numeral.2 _ dash) (by decide)⟩

theorem Numeral.of_ascii {text : List Char} (some : text ≠ []) (digits : text.all Char.isDigit = true) :
    Numeral text :=
  ⟨some, fun c member => Text.isDigit_of_ascii c (List.all_eq_true.1 digits c member)⟩

/-- No entry, or a single one: a port, or two different ports with a dash between them. -/
def PortList (entries : List String) : Prop :=
  entries = [] ∨ (∃ port, Numeral port ∧ entries = [String.ofList port]) ∨
    ∃ first last, Numeral first ∧ Numeral last ∧ first ≠ last ∧
      entries = [String.ofList (first ++ '-' :: last)]

theorem PortList.singleEntry {entries : List String} (listed : PortList entries) :
    SingleEntry entries := by
  rcases listed with none | ⟨port, numeral, single⟩ | ⟨first, last, numeral, given, apart, pair⟩
  · exact .inl none
  · obtain ⟨strokeless, dashless⟩ := numeral.markless
    exact .inr ⟨port, strokeless, dashless, .inl single⟩
  · obtain ⟨strokeless, dashless⟩ := numeral.markless
    exact .inr ⟨first, strokeless, dashless, .inr ⟨last, given.1, apart, pair⟩⟩

/-- Each way of writing ports is undone by the other one: `_ports` and `_port_range` are inverse. -/
theorem port_writings_inverse :
    (∀ ports, TwoEnded ports → portRange (portEntries ports) = ports) ∧
      ∀ entries, PortList entries → portEntries (portRange entries) = entries :=
  ⟨fun _ ends => portRange_portEntries_iff.2 (.inl ends),
    fun _ listed => portEntries_portRange_iff.2 listed.singleEntry⟩

/-- A range whose end holds both marks, and entries of two ports. -/
theorem port_writings_inverse_marked :
    TwoEnded "1/2-3/4" ∧ PortList ["1-1024"] ∧
      portRange (portEntries "1/2-3/4") = "1/2-3/4" ∧ portEntries (portRange ["1-1024"]) = ["1-1024"] := by
  have ends : TwoEnded "1/2-3/4" :=
    .inr ⟨"1".toList, "2-3/4".toList, by decide, by decide, by decide, rfl⟩
  have listed : PortList ["1-1024"] :=
    .inr (.inr ⟨"1".toList, "1024".toList, .of_ascii (by decide) (by decide),
      .of_ascii (by decide) (by decide), by decide, rfl⟩)
  exact ⟨ends, listed, port_writings_inverse.1 _ ends, port_writings_inverse.2 _ listed⟩

end Bastion.Compute
