import Bastion.Json.Shape
import Bastion.Proofs.JsonLimits
import Bastion.Proofs.KeyedEntries

set_option autoImplicit false

namespace Bastion

namespace Checked

variable {α β γ : Type}

theorem map_eq_valid {change : α → β} {checked : Checked α} {result : β} :
    change <$> checked = .valid result ↔ ∃ value, checked = .valid value ∧ change value = result := by
  change map change checked = _ ↔ _
  cases checked <;> simp [map]

theorem seq_eq_valid {change : Checked (α → β)} {checked : Checked α} {result : β} :
    change <*> checked = .valid result ↔
      ∃ made value, change = .valid made ∧ checked = .valid value ∧ made value = result := by
  change apply change checked = _ ↔ _
  cases change <;> cases checked <;> simp [apply]

theorem inside_eq_valid {place : Place} {checked : Checked α} {value : α} :
    checked.inside place = .valid value ↔ checked = .valid value := by
  cases checked <;> simp [inside]

/-- Each item of a list that passed was made of one that was checked. -/
theorem items_sound {check : γ → Checked α} {index : Nat} {items : List γ} {values : List α}
    (valid : Checked.items check index items = .valid values) :
    ∀ value ∈ values, ∃ item ∈ items, check item = .valid value := by
  induction items generalizing index values with
  | nil =>
    obtain rfl := Checked.valid.inj valid
    exact fun _ member => by cases member
  | cons item rest ih =>
    obtain ⟨_, others, mapped, later, rfl⟩ := seq_eq_valid.1 valid
    obtain ⟨first, passed, rfl⟩ := map_eq_valid.1 mapped
    intro value member
    rcases List.mem_cons.1 member with rfl | behind
    · exact ⟨item, List.mem_cons_self, inside_eq_valid.1 passed⟩
    · obtain ⟨other, held, fits⟩ := ih later value behind
      exact ⟨other, List.mem_cons_of_mem _ held, fits⟩

theorem items_map {check : γ → Checked α} {write : α → γ} {values : List α}
    (passes : ∀ value ∈ values, check (write value) = .valid value) (index : Nat) :
    Checked.items check index (values.map write) = .valid values := by
  induction values generalizing index with
  | nil => rfl
  | cons value rest ih =>
    have first := passes value List.mem_cons_self
    have later := ih (fun other member => passes other (List.mem_cons_of_mem _ member)) (index + 1)
    rw [List.map_cons, items, first, later]
    rfl

theorem members_mapValues (check : γ → Checked α) (write : α → γ)
    (passes : ∀ value, check (write value) = .valid value) (entries : List (String × α)) :
    Checked.members check (Keyed.mapValues write entries) = .valid entries := by
  unfold Keyed.mapValues
  induction entries with
  | nil => rfl
  | cons entry rest ih =>
    rw [List.map_cons, members, passes, ih]
    rfl

end Checked

namespace Json.Shape

variable {α : Type} {check : Json → Checked α} {value : Json}

theorem model_eq_valid {check : List (String × Json) → Checked α} {result : α} :
    model check value = .valid result ↔
      ∃ members, value = .object members ∧ check members = .valid result := by
  cases value <;> simp [model, Checked.mismatch]

theorem required_eq_valid {members : List (String × Json)} {name : String} {result : α} :
    required members name check = .valid result ↔
      ∃ value, Keyed.last? members name = some value ∧ check value = .valid result := by
  unfold required
  rw [Checked.inside_eq_valid]
  cases Keyed.last? members name <;> simp [Checked.mismatch]

theorem withDefault_eq_valid {members : List (String × Json)} {name : String} {default result : α}
    (valid : withDefault members name default check = .valid result) :
    result = default ∨
      ∃ value, Keyed.last? members name = some value ∧ check value = .valid result := by
  unfold withDefault at valid
  cases found : Keyed.last? members name with
  | none =>
    rw [found] at valid
    exact .inl (Checked.valid.inj valid).symm
  | some value =>
    rw [found] at valid
    exact .inr ⟨value, rfl, Checked.inside_eq_valid.1 valid⟩

theorem required_valid (members : List (String × Json)) (name : String) {result : α}
    (found : Keyed.last? members name = some value) (valid : check value = .valid result) :
    required members name check = .valid result :=
  required_eq_valid.2 ⟨value, found, valid⟩

theorem withDefault_valid (members : List (String × Json)) (name : String) (default : α)
    {result : α} (found : Keyed.last? members name = some value)
    (valid : check value = .valid result) :
    withDefault members name default check = .valid result := by
  unfold withDefault
  rw [found]
  exact Checked.inside_eq_valid.2 valid

theorem choice_valid {choices : List (String × α)} {text : String} {chosen : α} (mismatch : Mismatch)
    (found : Keyed.get? choices text = some chosen) :
    choice mismatch choices (.string text) = .valid chosen := by
  simp only [choice, found]

theorem withDefault_text (members : List (String × Json)) (name : String) {text : Option String}
    (found : Keyed.last? members name = some (.ofString? text)) :
    withDefault members name none (optional string) = .valid text := by
  apply withDefault_valid members name none found
  cases text <;> rfl

theorem optional_eq_valid {result : α} (valid : optional check value = .valid (some result)) :
    check value = .valid result := by
  unfold optional at valid
  split at valid
  · cases valid
  · obtain ⟨_, passed, same⟩ := Checked.map_eq_valid.1 valid
    rwa [← Option.some.inj same]

theorem list_eq_valid {results : List α} (valid : list check value = .valid results) :
    ∃ items, value = .array items ∧
      ∀ result ∈ results, ∃ item ∈ items, check item = .valid result := by
  cases value with
  | array items => exact ⟨items, rfl, Checked.items_sound valid⟩
  | _ => cases valid

theorem nodup_of_mapping {results : List (String × α)}
    (valid : mapping check value = .valid results) : (Keyed.names results).Nodup := by
  cases value with
  | object members =>
    obtain ⟨entries, _, rfl⟩ := Checked.map_eq_valid.1 valid
    exact Keyed.nodup_collect entries
  | _ => cases valid

/-- A document that was written for a value is checked as that value. -/
theorem documentOfText_print {style : Style} (legible : style.Legible) (depth : Nat)
    (shallow : depth ≤ depthLimit) (fits : ∀ room, obstacleWithin? (room + depth) value = none)
    (check : Json → Checked α) : documentOfText check (print style value) = check value := by
  have within : obstacle? value = none := by
    have limits : writingLimit - depth + depth = writingLimit :=
      Nat.sub_add_cancel (shallow.trans (by decide))
    rw [obstacle?, ← limits]
    exact fits _
  have deep : value.depth ≤ depthLimit := (depth_le value (fits 0)).trans (by omega)
  unfold documentOfText document
  rw [parseWritten_print_all legible .strict within]
  exact if_pos deep

def Brief (value : Json) : Prop := ∃ room, obstacleWithin? room value = none

theorem Brief.item {items : List Json} (brief : Brief (.array items)) :
    ∀ item ∈ items, Brief item := by
  obtain ⟨room, fits⟩ := brief
  obtain ⟨inner, rfl, fitting⟩ := array_fits.1 fits
  exact fun item member => ⟨inner, obstacleOfItems?_eq_none.1 fitting item member⟩

theorem Brief.member {members : List (String × Json)} (brief : Brief (.object members))
    {name : String} (found : Keyed.last? members name = some value) : Brief value := by
  obtain ⟨room, fits⟩ := brief
  obtain ⟨inner, rfl, fitting⟩ := object_fits.1 fits
  rw [← Keyed.get?_collect] at found
  have held := Keyed.mem_of_mem_collect (Keyed.mem_of_get? found)
  exact ⟨inner, obstacleOfMembers?_eq_none.1 fitting _ held⟩

theorem brief_of_documentOfText {text : String} {result : α}
    (valid : documentOfText check text = .valid result) :
    ∃ value, Brief value ∧ check value = .valid result := by
  unfold documentOfText at valid
  cases read : parseWritten .strict text with
  | error error =>
    rw [read] at valid
    cases valid
  | ok value =>
    rw [read] at valid
    change document check value = .valid result at valid
    unfold document at valid
    split at valid
    · exact ⟨value, ⟨_, obstacle?_of_parseWritten read⟩, valid⟩
    · cases valid

theorem short_of_plainInteger? {text : List Char} {number : Int}
    (read : plainInteger? text = some (.valid number)) : Short number := by
  unfold plainInteger? at read
  dsimp only at read
  split at read
  · rename_i wholes
    split at read
    · cases read
    · rename_i few
      split at read
      · obtain rfl := Checked.valid.inj (Option.some.inj read)
        exact short_of_readWhole? wholes few _
      · cases read
  · cases read

theorem short_of_integerOfText {text : String} {number : Int}
    (read : integerOfText text = .valid number) : Short number := by
  unfold integerOfText at read
  split at read
  · rename_i plain
    exact short_of_plainInteger? (plain.trans (congrArg some read))
  · split at read
    · rename_i plain
      obtain rfl := Checked.valid.inj read
      obtain ⟨form, _, told⟩ := Option.bind_eq_some_iff.1 plain
      exact short_of_plainInteger? told
    · cases read

theorem short_of_integerOfFloat {real : Binary64} {number : Int}
    (read : integerOfFloat real = .valid number) : Short number := by
  unfold integerOfFloat at read
  split at read
  · split at read
    · cases read
    · split at read
      · rename_i below
        obtain rfl := Checked.valid.inj read
        have limit : wholeLimit < 10 ^ 19 := by decide
        exact short_of_lt 19 (by decide) (by decide) (below.trans limit)
      · cases read
  · cases read

/-- However an integer is spelled, it is short if the value is brief. -/
theorem short_of_integer {number : Int} (brief : Brief value)
    (valid : integer value = .valid number) : Short number := by
  cases value with
  | int whole =>
    obtain rfl := Checked.valid.inj valid
    obtain ⟨room, fits⟩ := brief
    exact obstacle_int.1 fits
  | bool truth =>
    obtain rfl := Checked.valid.inj valid
    cases truth <;> exact short_of_lt 1 (by decide) (by decide) (by decide)
  | float real => exact short_of_integerOfFloat valid
  | string text => exact short_of_integerOfText valid
  | _ => cases valid

end Json.Shape

end Bastion
