import Bastion.Binary64.Shortest
import Bastion.Json.Basic

set_option autoImplicit false

namespace Bastion.Json

def hexDigits : Nat → List Char → Nat → List Char
  | 0, digits, _ => digits
  | width + 1, digits, n => hexDigits width (Nat.digitChar (n % 16) :: digits) (n / 16)

def unitEscape (unit : Nat) : List Char := '\\' :: 'u' :: hexDigits 4 [] unit

/-- A character by its code, in two halves past U+FFFF. -/
def codeEscape (c : Char) : List Char :=
  let code := c.toNat
  if code < 0x10000 then unitEscape code
  else
    let offset := code - 0x10000
    unitEscape (0xD800 + offset / 0x400) ++ unitEscape (0xDC00 + offset % 0x400)

def escapeLetter? (c : Char) : Option Char :=
  match c with
  | '"' => some '"'
  | '\\' => some '\\'
  | '\n' => some 'n'
  | '\r' => some 'r'
  | '\t' => some 't'
  | '\x08' => some 'b'
  | '\x0c' => some 'f'
  | _ => none

def escapeAscii (c : Char) : List Char :=
  match escapeLetter? c with
  | some letter => ['\\', letter]
  | none => if ' ' ≤ c ∧ c ≤ '~' then [c] else codeEscape c

def escapeControl (c : Char) : List Char :=
  match escapeLetter? c with
  | some letter => ['\\', letter]
  | none => if c < ' ' then codeEscape c else [c]

structure Style where
  comma : List Char
  colon : List Char
  /-- The blanks of one level where every item has its own line. -/
  indent : Option Nat
  escape : Char → List Char

/-- One line, with a blank after each comma and colon, in ASCII. -/
def Style.line : Style := ⟨[',', ' '], [':', ' '], none, escapeAscii⟩

def Style.dense : Style := ⟨[','], [':'], none, escapeControl⟩

/-- Every item on a line of its own, two blanks deeper than its container, in ASCII. -/
def Style.page : Style := ⟨[','], [':', ' '], some 2, escapeAscii⟩

def Style.break (style : Style) (level : Nat) (rest : List Char) : List Char :=
  match style.indent with
  | none => rest
  | some width => '\n' :: (List.replicate (width * level) ' ' ++ rest)

def writeInt (value : Int) : List Char :=
  if value < 0 then '-' :: Nat.toDigits 10 value.natAbs else Nat.toDigits 10 value.natAbs

def writeString (style : Style) (value : String) (rest : List Char) : List Char :=
  '"' :: (value.toList.flatMap style.escape ++ '"' :: rest)

mutual

def write (style : Style) (level : Nat) : Json → List Char → List Char
  | .null, rest => "null".toList ++ rest
  | .bool value, rest => (if value then "true" else "false").toList ++ rest
  | .int value, rest => writeInt value ++ rest
  | .float value, rest => value.text ++ rest
  | .string value, rest => writeString style value rest
  | .array [], rest => '[' :: ']' :: rest
  | .array (item :: items), rest =>
    '[' :: style.break (level + 1) (write style (level + 1) item
      (writeItems style (level + 1) items (style.break level (']' :: rest))))
  | .object [], rest => '\x7b' :: '\x7d' :: rest
  | .object ((name, value) :: members), rest =>
    '\x7b' :: style.break (level + 1) (writeString style name (style.colon ++
      write style (level + 1) value
        (writeMembers style (level + 1) members (style.break level ('\x7d' :: rest)))))

def writeItems (style : Style) (level : Nat) : List Json → List Char → List Char
  | [], rest => rest
  | item :: items, rest =>
    style.comma ++ style.break level (write style level item (writeItems style level items rest))

def writeMembers (style : Style) (level : Nat) : List (String × Json) → List Char → List Char
  | [], rest => rest
  | (name, value) :: members, rest =>
    style.comma ++ style.break level (writeString style name (style.colon ++
      write style level value (writeMembers style level members rest)))

end

def print (style : Style) (value : Json) : String := String.ofList (write style 0 value [])

end Bastion.Json
