import Bastion.Checked
import Bastion.Json.Parser
import Bastion.Text.Blank

set_option autoImplicit false

namespace Bastion.Json.Shape

def string : Json → Checked String
  | .string value => .valid value
  | _ => .mismatch .notString

def optional {α : Type} (check : Json → Checked α) : Json → Checked (Option α)
  | .null => .valid none
  | value => (check value).map some

def list {α : Type} (check : Json → Checked α) : Json → Checked (List α)
  | .array items => .items check 0 items
  | _ => .mismatch .notList

/-- A list that is told apart from others when it is missing. -/
def tuple {α : Type} (check : Json → Checked α) : Json → Checked (List α)
  | .array items => .items check 0 items
  | _ => .mismatch .notTuple

/-- All members are checked, also those that a later one of the same name replaces. -/
def mapping {α : Type} (check : Json → Checked α) : Json → Checked (List (String × α))
  | .object members => (Checked.members check members).map Keyed.collect
  | _ => .mismatch .notMapping

/-- An object whose members are checked one by one, of those of one name the last; other members are
passed over. -/
def model {α : Type} (check : List (String × Json) → Checked α) : Json → Checked α
  | .object members => check members
  | _ => .mismatch .notObject

def required {α : Type} (members : List (String × Json)) (name : String)
    (check : Json → Checked α) : Checked α :=
  Checked.inside (.member name) <|
    match Keyed.last? members name with
    | some value => check value
    | none => .mismatch .missing

def withDefault {α : Type} (members : List (String × Json)) (name : String) (default : α)
    (check : Json → Checked α) : Checked α :=
  match Keyed.last? members name with
  | some value => Checked.inside (.member name) (check value)
  | none => .valid default

def choice {α : Type} (mismatch : Mismatch) (choices : List (String × α)) : Json → Checked α
  | .string value =>
    match Keyed.get? choices value with
    | some choice => .valid choice
    | none => .mismatch mismatch
  | _ => .mismatch mismatch

/-- An optional minus and digits without leading zeros. Too many digits are a mismatch whatever follows
them. -/
def plainInteger? (text : List Char) : Option (Checked Int) :=
  let (negative, digits) :=
    match text with
    | '-' :: digits => (true, digits)
    | digits => (false, digits)
  match readWhole? digits with
  | some (digits, rest) =>
    let size : Int := natOfDigits digits
    if integerLimit < digits.length then some (.mismatch .longInteger)
    else if rest.isEmpty then some (.valid (if negative then -size else size))
    else none
  | none => none

/-- The numeral from its first digit that is not a zero, or from a minus. Zeros and low lines before it
are dropped; the last of them stays where nothing or a point follows. `last` is the character passed
last. -/
def dropZeros (last : Char) : List Char → Option (List Char)
  | [] => some [last]
  | c :: rest =>
    if c = '0' ∨ c = '_' then dropZeros c rest
    else if ('1' ≤ c ∧ c ≤ '9') ∨ c = '-' then some (c :: rest)
    else if c = '.' then some (last :: c :: rest)
    else none

def withoutLeadingZeros (text : List Char) : Option (List Char) :=
  match text with
  | '0' :: rest => dropZeros '0' rest
  | c :: _ => if '1' ≤ c ∧ c ≤ '9' then some text else none
  | [] => none

/-- Drops a point that zeros follow and nothing else. -/
def withoutZeroFraction (text : List Char) : List Char :=
  match text.dropWhile (· ≠ '.') with
  | _ :: zero :: zeros =>
    if (zero :: zeros).all (· = '0') then text.takeWhile (· ≠ '.') else text
  | _ => text

/-- Whether low lines stand singly between other characters. -/
def lowLinesSingle : List Char → Bool
  | '_' :: '_' :: _ => false
  | ['_'] => false
  | _ :: rest => lowLinesSingle rest
  | [] => true

def withoutLowLines (text : List Char) : List Char :=
  if text.head? ≠ some '_' ∧ lowLinesSingle text then text.filter (· ≠ '_') else text

/-- A numeral with blanks around it, a sign, leading zeros, a zero fraction or low lines between its
digits, in its plain form. -/
def plainForm? (text : List Char) : Option (List Char) := do
  let (sign, digits) ←
    match Text.trimmed text with
    | '+' :: '-' :: _ => none
    | '+' :: digits => some ([], digits)
    | '-' :: digits => some (['-'], digits)
    | digits => some ([], digits)
  let digits ← withoutLeadingZeros digits
  return sign ++ withoutLowLines (withoutZeroFraction digits)

/-- A numeral that is not plain is unreadable, not too long, when its plain form has too many
digits. -/
def integerOfText (text : String) : Checked Int :=
  match plainInteger? text.toList with
  | some checked => checked
  | none =>
    match (plainForm? text.toList).bind plainInteger? with
    | some (.valid value) => .valid value
    | _ => .mismatch .unreadableInteger

/-- The sizes of whole numbers that are taken for integers are below two to the sixty-third. -/
def wholeLimit : Nat := 0x8000000000000000

def integerOfFloat (number : Binary64) : Checked Int :=
  if number.isFinite then
    match number.toInt? with
    | none => .mismatch .fractional
    | some value => if value.natAbs < wholeLimit then .valid value else .mismatch .longInteger
  else .mismatch .notFinite

def integer : Json → Checked Int
  | .int value => .valid value
  | .bool value => .valid (if value then 1 else 0)
  | .float number => integerOfFloat number
  | .string text => integerOfText text
  | _ => .mismatch .notInteger

/-- The most containers around a value in a document. -/
def depthLimit : Nat := 200

/-- Checks a value, unless it is nested too deep. -/
def document {α : Type} (check : Json → Checked α) (value : Json) : Checked α :=
  if value.depth ≤ depthLimit then check value else .mismatch .notJson

def documentOfText {α : Type} (check : Json → Checked α) (text : String) : Checked α :=
  match parseWritten .strict text with
  | .ok value => document check value
  | .error _ => .mismatch .notJson

end Bastion.Json.Shape
