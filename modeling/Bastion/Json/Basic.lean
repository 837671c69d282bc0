import Bastion.Binary64
import Bastion.Keyed

set_option autoImplicit false

namespace Bastion

inductive Json where
  | null
  | bool (value : Bool)
  | int (value : Int)
  | float (value : Binary64)
  | string (value : String)
  | array (items : List Json)
  | object (members : List (String × Json))
  deriving Inhabited, Repr

namespace Json

mutual

def decEq : (a b : Json) → Decidable (a = b)
  | .null, .null => isTrue rfl
  | .bool a, .bool b =>
    if h : a = b then isTrue (by rw [h]) else isFalse fun e => h (by injection e)
  | .int a, .int b =>
    if h : a = b then isTrue (by rw [h]) else isFalse fun e => h (by injection e)
  | .float a, .float b =>
    if h : a = b then isTrue (by rw [h]) else isFalse fun e => h (by injection e)
  | .string a, .string b =>
    if h : a = b then isTrue (by rw [h]) else isFalse fun e => h (by injection e)
  | .array a, .array b =>
    match decEqItems a b with
    | isTrue h => isTrue (by rw [h])
    | isFalse h => isFalse fun e => h (by injection e)
  | .object a, .object b =>
    match decEqMembers a b with
    | isTrue h => isTrue (by rw [h])
    | isFalse h => isFalse fun e => h (by injection e)
  | .null, .bool _ | .null, .int _ | .null, .float _ | .null, .string _ | .null, .array _
  | .null, .object _ | .bool _, .null | .bool _, .int _ | .bool _, .float _ | .bool _, .string _
  | .bool _, .array _ | .bool _, .object _ | .int _, .null | .int _, .bool _ | .int _, .float _
  | .int _, .string _ | .int _, .array _ | .int _, .object _ | .float _, .null | .float _, .bool _
  | .float _, .int _ | .float _, .string _ | .float _, .array _ | .float _, .object _
  | .string _, .null | .string _, .bool _ | .string _, .int _ | .string _, .float _
  | .string _, .array _ | .string _, .object _ | .array _, .null | .array _, .bool _
  | .array _, .int _ | .array _, .float _ | .array _, .string _ | .array _, .object _
  | .object _, .null | .object _, .bool _ | .object _, .int _ | .object _, .float _
  | .object _, .string _ | .object _, .array _ => isFalse (by intro e; injection e)

def decEqItems : (a b : List Json) → Decidable (a = b)
  | [], [] => isTrue rfl
  | [], _ :: _ => isFalse (by intro e; injection e)
  | _ :: _, [] => isFalse (by intro e; injection e)
  | x :: xs, y :: ys =>
    match decEq x y with
    | isFalse h => isFalse fun e => h (by injection e)
    | isTrue h =>
      match decEqItems xs ys with
      | isTrue g => isTrue (by rw [h, g])
      | isFalse g => isFalse fun e => g (by injection e)

def decEqMembers : (a b : List (String × Json)) → Decidable (a = b)
  | [], [] => isTrue rfl
  | [], _ :: _ => isFalse (by intro e; injection e)
  | _ :: _, [] => isFalse (by intro e; injection e)
  | (k, x) :: xs, (l, y) :: ys =>
    if h : k = l then
      match decEq x y with
      | isFalse g => isFalse fun e => g (by injection e with e _; injection e)
      | isTrue g =>
        match decEqMembers xs ys with
        | isTrue i => isTrue (by rw [h, g, i])
        | isFalse i => isFalse fun e => i (by injection e)
    else isFalse fun e => h (by injection e with e _; injection e)

end

instance : DecidableEq Json := decEq

mutual

/-- The number of containers around the innermost value. A container with nothing in it adds
nothing. -/
def depth : Json → Nat
  | .array items => depthItems items
  | .object members => depthMembers members
  | _ => 0

def depthItems : List Json → Nat
  | [] => 0
  | item :: items => max (depth item + 1) (depthItems items)

def depthMembers : List (String × Json) → Nat
  | [] => 0
  | (_, value) :: members => max (depth value + 1) (depthMembers members)

end

mutual

/-- Of the members of one name, the last one in the place of the first. -/
def settled : Json → Json
  | .array items => .array (settledItems items)
  | .object members => .object (Keyed.collect (settledMembers members))
  | value => value

def settledItems : List Json → List Json
  | [] => []
  | item :: items => settled item :: settledItems items

def settledMembers : List (String × Json) → List (String × Json)
  | [] => []
  | (name, value) :: members => (name, settled value) :: settledMembers members

end

def ofString? : Option String → Json
  | none => .null
  | some value => .string value

end Json

end Bastion
