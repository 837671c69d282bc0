import Bastion.Json.Basic

set_option autoImplicit false

namespace Bastion.Json

def integerLimit : Nat := 4300

/-- How many containers may lie within each other in a text that is read. The stack of an interpreter
leaves room for a few more or fewer, by how deep the call is. -/
def readingLimit : Nat := 985

/-- How many may lie within each other in a value that is written, which has a limit of its own. -/
def writingLimit : Nat := 985

inductive Obstacle where
  | tooDeep
  | longInteger
  deriving DecidableEq, Repr

def Obstacle.message : Obstacle → String
  | .tooDeep => "maximum recursion depth exceeded"
  | .longInteger =>
    s!"Exceeds the limit ({integerLimit} digits) for integer string conversion; " ++
      "use sys.set_int_max_str_digits() to increase the limit"

mutual

/-- The first obstacle in a value, where so many containers may lie within each other. -/
def obstacleWithin? : Nat → Json → Option Obstacle
  | _, .int value =>
    if integerLimit < (Nat.toDigits 10 value.natAbs).length then some .longInteger else none
  | 0, .array _ => some .tooDeep
  | 0, .object _ => some .tooDeep
  | room + 1, .array items => obstacleOfItems? room items
  | room + 1, .object members => obstacleOfMembers? room members
  | _, _ => none

def obstacleOfItems? (room : Nat) : List Json → Option Obstacle
  | [] => none
  | item :: items => (obstacleWithin? room item).or (obstacleOfItems? room items)

def obstacleOfMembers? (room : Nat) : List (String × Json) → Option Obstacle
  | [] => none
  | (_, value) :: members => (obstacleWithin? room value).or (obstacleOfMembers? room members)

end

/-- What stands in the way of writing a value. -/
def obstacle? (value : Json) : Option Obstacle := obstacleWithin? writingLimit value

/-- An integer that is not too long for a text. -/
def Short (number : Int) : Prop := (Nat.toDigits 10 number.natAbs).length ≤ integerLimit

theorem obstacle_int {room : Nat} {number : Int} :
    obstacleWithin? room (.int number) = none ↔ Short number := by
  unfold obstacleWithin? Short
  by_cases long : integerLimit < (Nat.toDigits 10 number.natAbs).length
  · simp [long]
  · simp [long, Nat.not_lt.1 long]

@[simp]
theorem obstacle_null {room : Nat} : obstacleWithin? room .null = none := by
  unfold obstacleWithin?
  rfl

@[simp]
theorem obstacle_string {room : Nat} {text : String} :
    obstacleWithin? room (.string text) = none := by
  unfold obstacleWithin?
  rfl

@[simp]
theorem obstacle_ofString? {room : Nat} {text : Option String} :
    obstacleWithin? room (.ofString? text) = none := by
  cases text
  · exact obstacle_null
  · exact obstacle_string

theorem obstacleOfItems?_eq_none {room : Nat} {items : List Json} :
    obstacleOfItems? room items = none ↔ ∀ item ∈ items, obstacleWithin? room item = none := by
  induction items with
  | nil => simp [obstacleOfItems?]
  | cons item items ih => simp [obstacleOfItems?, Option.or_eq_none_iff, ih]

theorem obstacleOfMembers?_eq_none {room : Nat} {members : List (String × Json)} :
    obstacleOfMembers? room members = none ↔
      ∀ member ∈ members, obstacleWithin? room member.2 = none := by
  induction members with
  | nil => simp [obstacleOfMembers?]
  | cons member members ih => simp [obstacleOfMembers?, Option.or_eq_none_iff, ih]

theorem obstacle_array {room : Nat} {items : List Json} :
    obstacleWithin? (room + 1) (.array items) = none ↔
      ∀ item ∈ items, obstacleWithin? room item = none := by
  rw [obstacleWithin?, obstacleOfItems?_eq_none]

theorem obstacle_object {room : Nat} {members : List (String × Json)} :
    obstacleWithin? (room + 1) (.object members) = none ↔
      ∀ member ∈ members, obstacleWithin? room member.2 = none := by
  rw [obstacleWithin?, obstacleOfMembers?_eq_none]

theorem array_fits {room : Nat} {items : List Json} :
    obstacleWithin? room (.array items) = none ↔
      ∃ inner, room = inner + 1 ∧ obstacleOfItems? inner items = none := by
  cases room <;> simp [obstacleWithin?]

theorem object_fits {room : Nat} {members : List (String × Json)} :
    obstacleWithin? room (.object members) = none ↔
      ∃ inner, room = inner + 1 ∧ obstacleOfMembers? inner members = none := by
  cases room <;> simp [obstacleWithin?]

/-- What fits where there is room for some containers fits where there is room for more. -/
theorem fits_wider : ∀ {value : Json} {room wider : Nat}, room ≤ wider →
    obstacleWithin? room value = none → obstacleWithin? wider value = none
  | .null, _, _, _, _ | .bool _, _, _, _, _ | .float _, _, _, _, _ | .string _, _, _, _, _ => by
    simp [obstacleWithin?]
  | .int _, _, _, _, fits => obstacle_int.2 (obstacle_int.1 fits)
  | .array _, _ + 1, _ + 1, more, fits => obstacle_array.2 fun item member =>
    fits_wider (Nat.le_of_succ_le_succ more) (obstacle_array.1 fits item member)
  | .object _, _ + 1, _ + 1, more, fits => obstacle_object.2 fun member held =>
    fits_wider (Nat.le_of_succ_le_succ more) (obstacle_object.1 fits member held)
  | .array _, 0, _, _, fits | .object _, 0, _, _, fits => by simp [obstacleWithin?] at fits

theorem readable_of_writable {value : Json} (fits : obstacle? value = none) :
    obstacleWithin? readingLimit value = none := by
  have limits : writingLimit ≤ readingLimit := by decide
  exact fits_wider limits fits

theorem writable_of_readable {value : Json} (fits : obstacleWithin? readingLimit value = none) :
    obstacle? value = none := by
  have limits : readingLimit ≤ writingLimit := by decide
  exact fits_wider limits fits

end Bastion.Json
