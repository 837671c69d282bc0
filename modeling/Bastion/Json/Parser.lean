import Bastion.Json.Limits

set_option autoImplicit false

/- Reading JSON text. A reader takes characters and answers a value with the characters left. Where
it halts, the characters left give the place of the fault. Objects are read with all their members, those
of one name included; a reading settles on the last of them. -/
namespace Bastion.Json

inductive Fault where
  | byteOrderMark
  | expectedValue
  | expectedName
  | expectedColon
  | expectedComma
  | extraText
  | unterminatedString
  | controlCharacter
  | badEscape
  | badCodeEscape
  | loneSurrogate
  | longInteger (digits : Nat)
  | deepArray
  | deepObject
  deriving DecidableEq, Repr

/-- A fault, and how many characters were left when it was met. -/
structure Halt where
  fault : Fault
  remaining : Nat
  deriving DecidableEq, Repr

def halt {α : Type} (fault : Fault) (left : List Char) : Except Halt (α × List Char) :=
  .error ⟨fault, left.length⟩

/-- How a text is read. A lenient reading has a replacement character for an escape of half a pair of
surrogates, which a whole reading refuses. A strict reading refuses it too, and numbers with a fraction
or a power of ten whose integer part has too many digits. -/
inductive Reading where
  | lenient
  | whole
  | strict
  deriving DecidableEq, Repr

def isBlank (c : Char) : Bool :=
  c = ' ' || c = '\t' || c = '\n' || c = '\r'

def skipBlanks (text : List Char) : List Char := text.dropWhile isBlank

def isDigit (c : Char) : Bool := '0' ≤ c && c ≤ '9'

def hexValue? (c : Char) : Option Nat :=
  if '0' ≤ c ∧ c ≤ '9' then some (c.toNat - '0'.toNat)
  else if 'a' ≤ c ∧ c ≤ 'f' then some (c.toNat - 'a'.toNat + 10)
  else if 'A' ≤ c ∧ c ≤ 'F' then some (c.toNat - 'A'.toNat + 10)
  else none

def codeUnit? (a b c d : Char) : Option Nat := do
  return (← hexValue? a) * 4096 + (← hexValue? b) * 256 + (← hexValue? c) * 16 + (← hexValue? d)

def isHighSurrogate (unit : Nat) : Bool := 0xD800 ≤ unit && unit < 0xDC00

def isLowSurrogate (unit : Nat) : Bool := 0xDC00 ≤ unit && unit < 0xE000

def joinSurrogates (high low : Nat) : Char :=
  Char.ofNat (0x10000 + (high - 0xD800) * 0x400 + (low - 0xDC00))

def shortEscape? (c : Char) : Option Char :=
  match c with
  | '"' => some '"'
  | '\\' => some '\\'
  | '/' => some '/'
  | 'b' => some '\x08'
  | 'f' => some '\x0c'
  | 'n' => some '\n'
  | 'r' => some '\r'
  | 't' => some '\t'
  | _ => none

def readHalf (reading : Reading) (left : List Char) : Except Halt (Char × List Char) :=
  match reading with
  | .lenient => .ok ('\uFFFD', left)
  | .whole | .strict => halt .loneSurrogate left

/-- The second half of a pair of surrogates. At least one character must follow it. -/
def readLowHalf (reading : Reading) (high : Nat) (left : List Char) :
    Except Halt (Char × List Char) :=
  match left with
  | '\\' :: 'u' :: a :: b :: c :: d :: next :: rest =>
    match codeUnit? a b c d with
    | none => halt .badCodeEscape ('u' :: a :: b :: c :: d :: next :: rest)
    | some low =>
      if isLowSurrogate low then .ok (joinSurrogates high low, next :: rest)
      else readHalf reading left
  | _ => readHalf reading left

/-- A character by its code, after the letter `u`. At least one character must follow it. -/
def readCode (reading : Reading) (left : List Char) : Except Halt (Char × List Char) :=
  match left with
  | a :: b :: c :: d :: next :: rest =>
    match codeUnit? a b c d with
    | none => halt .badCodeEscape ('u' :: left)
    | some unit =>
      if isHighSurrogate unit then readLowHalf reading unit (next :: rest)
      else if isLowSurrogate unit then readHalf reading (next :: rest)
      else .ok (Char.ofNat unit, next :: rest)
  | _ => halt .badCodeEscape ('u' :: left)

/-- The characters of a string after its opening quote. `opening` is what was left at that quote. -/
def readString (reading : Reading) (opening : List Char) :
    Nat → List Char → Except Halt (List Char × List Char)
  | 0, left => halt .unterminatedString left
  | fuel + 1, left =>
    match left with
    | [] => halt .unterminatedString opening
    | '"' :: rest => .ok ([], rest)
    | '\\' :: 'u' :: rest => do
      let (c, rest) ← readCode reading rest
      let (cs, rest) ← readString reading opening fuel rest
      return (c :: cs, rest)
    | '\\' :: e :: rest =>
      match shortEscape? e with
      | none => halt .badEscape left
      | some c => do
        let (cs, rest) ← readString reading opening fuel rest
        return (c :: cs, rest)
    | ['\\'] => halt .unterminatedString opening
    | c :: rest =>
      if c < ' ' then halt .controlCharacter left
      else do
        let (cs, rest) ← readString reading opening fuel rest
        return (c :: cs, rest)

def digitValue (c : Char) : Nat := c.toNat - '0'.toNat

def natOfDigits (digits : List Char) : Nat :=
  digits.foldl (fun n c => n * 10 + digitValue c) 0

/-- An integer part: a zero alone, or digits that start with another one. -/
def readWhole? (left : List Char) : Option (List Char × List Char) :=
  match left with
  | '0' :: rest => some (['0'], rest)
  | c :: _ => if isDigit c then some (left.takeWhile isDigit, left.dropWhile isDigit) else none
  | [] => none

/-- The digits after a point. A point without a digit is not read. -/
def readFraction (left : List Char) : List Char × List Char :=
  match left with
  | '.' :: c :: rest =>
    if isDigit c then ((c :: rest).takeWhile isDigit, (c :: rest).dropWhile isDigit)
    else ([], left)
  | _ => ([], left)

/-- A power of ten. A mark without a digit is not read. -/
def readExponent (left : List Char) : Option Int × List Char :=
  match left with
  | mark :: rest =>
    if mark = 'e' ∨ mark = 'E' then
      let (negative, digits) :=
        match rest with
        | '-' :: digits => (true, digits)
        | '+' :: digits => (false, digits)
        | _ => (false, rest)
      match digits with
      | c :: _ =>
        if isDigit c then
          let size : Int := natOfDigits (digits.takeWhile isDigit)
          (some (if negative then -size else size), digits.dropWhile isDigit)
        else (none, left)
      | [] => (none, left)
    else (none, left)
  | [] => (none, left)

def readNumber (reading : Reading) (left : List Char) : Except Halt (Json × List Char) :=
  let (negative, unsigned) :=
    match left with
    | '-' :: rest => (true, rest)
    | _ => (false, left)
  match readWhole? unsigned with
  | none => halt .expectedValue left
  | some (whole, rest) =>
    let (fraction, rest) := readFraction rest
    let (exponent, rest) := readExponent rest
    let isInteger := fraction.isEmpty && exponent.isNone
    if (isInteger || reading = .strict) && integerLimit < whole.length then
      halt (.longInteger whole.length) left
    else if isInteger then
      let size : Int := natOfDigits whole
      .ok (.int (if negative then -size else size), rest)
    else
      let shift := exponent.getD 0 - fraction.length
      .ok (.float (.ofDecimal negative (natOfDigits (whole ++ fraction)) shift), rest)

def words : List (List Char × Json) :=
  [("null".toList, .null), ("true".toList, .bool true), ("false".toList, .bool false),
    ("NaN".toList, .float .nan), ("Infinity".toList, .float (.infinity false)),
    ("-Infinity".toList, .float (.infinity true))]

def readWord? (left : List Char) : Option (Json × List Char) :=
  words.findSome? fun (word, value) =>
    if word.isPrefixOf left then some (value, left.drop word.length) else none

mutual

/-- `room` is the number of containers that may still lie within each other here. -/
def readValue (reading : Reading) : Nat → Nat → List Char → Except Halt (Json × List Char)
  | 0, _, left => halt .expectedValue left
  | fuel + 1, room, left =>
    match left with
    | '"' :: rest => do
      let (cs, rest) ← readString reading left (rest.length + 1) rest
      return (.string (String.ofList cs), rest)
    | '[' :: rest =>
      match room with
      | 0 => halt .deepArray left
      | room + 1 =>
        match skipBlanks rest with
        | ']' :: rest => .ok (.array [], rest)
        | rest => do
          let (items, rest) ← readItems reading fuel room rest
          return (.array items, rest)
    | '\x7b' :: rest =>
      match room with
      | 0 => halt .deepObject left
      | room + 1 =>
        match skipBlanks rest with
        | '\x7d' :: rest => .ok (.object [], rest)
        | rest => do
          let (members, rest) ← readMembers reading fuel room rest
          return (.object members, rest)
    | _ =>
      match readWord? left with
      | some found => .ok found
      | none => readNumber reading left

/-- The items of an array, up to and with its closing bracket. -/
def readItems (reading : Reading) : Nat → Nat → List Char → Except Halt (List Json × List Char)
  | 0, _, left => halt .expectedValue left
  | fuel + 1, room, left => do
    let (item, rest) ← readValue reading fuel room left
    match skipBlanks rest with
    | ']' :: rest => return ([item], rest)
    | ',' :: rest =>
      let (items, rest) ← readItems reading fuel room (skipBlanks rest)
      return (item :: items, rest)
    | rest => halt .expectedComma rest

/-- The members of an object, up to and with its closing brace. -/
def readMembers (reading : Reading) :
    Nat → Nat → List Char → Except Halt (List (String × Json) × List Char)
  | 0, _, left => halt .expectedName left
  | fuel + 1, room, left =>
    match left with
    | '"' :: rest => do
      let (name, rest) ← readString reading left (rest.length + 1) rest
      match skipBlanks rest with
      | ':' :: rest =>
        let (value, rest) ← readValue reading fuel room (skipBlanks rest)
        match skipBlanks rest with
        | '\x7d' :: rest => return ([(String.ofList name, value)], rest)
        | ',' :: rest =>
          let (members, rest) ← readMembers reading fuel room (skipBlanks rest)
          return ((String.ofList name, value) :: members, rest)
        | rest => halt .expectedComma rest
      | rest => halt .expectedColon rest
    | _ => halt .expectedName left

end

/-- Reads one value with blanks around it, and nothing else. -/
def readText (reading : Reading) (text : List Char) : Except Halt Json :=
  if text.head? = some '\uFEFF' then .error ⟨.byteOrderMark, text.length⟩
  else
    match readValue reading (2 * text.length + 2) readingLimit (skipBlanks text) with
    | .error stop => .error stop
    | .ok (value, rest) =>
      match skipBlanks rest with
      | [] => .ok value
      | rest => .error ⟨.extraText, rest.length⟩

/-- A fault and its place: characters before it, and its line and column, both from one. -/
structure SyntaxError where
  fault : Fault
  offset : Nat
  line : Nat
  column : Nat
  deriving DecidableEq, Repr

def SyntaxError.locate (text : List Char) (stop : Halt) : SyntaxError :=
  let offset := text.length - stop.remaining
  let before := text.take offset
  { fault := stop.fault
    offset := offset
    line := before.count '\n' + 1
    column := (before.reverse.takeWhile (· ≠ '\n')).length + 1 }

/-- A text as it is written, all members of one name included. -/
def parseWritten (reading : Reading) (text : String) : Except SyntaxError Json :=
  match readText reading text.toList with
  | .ok value => .ok value
  | .error stop => .error (.locate text.toList stop)

/-- Strings hold characters, so that a text with half a pair of surrogates is refused, though only where
it has no other fault. -/
def parse (text : String) : Except SyntaxError Json := do
  let _ ← parseWritten .lenient text
  let value ← parseWritten .whole text
  return value.settled

def Fault.text : Fault → String
  | .byteOrderMark => "Unexpected UTF-8 BOM (decode using utf-8-sig)"
  | .expectedValue => "Expecting value"
  | .expectedName => "Expecting property name enclosed in double quotes"
  | .expectedColon => "Expecting ':' delimiter"
  | .expectedComma => "Expecting ',' delimiter"
  | .extraText => "Extra data"
  | .unterminatedString => "Unterminated string starting at"
  | .controlCharacter => "Invalid control character at"
  | .badEscape => "Invalid \\escape"
  | .badCodeEscape => "Invalid \\uXXXX escape"
  | .loneSurrogate => "Invalid surrogate escape"
  | .longInteger digits =>
    s!"Exceeds the limit ({integerLimit} digits) for integer string conversion: value has " ++
      s!"{digits} digits; use sys.set_int_max_str_digits() to increase the limit"
  | .deepArray =>
    "maximum recursion depth exceeded while decoding a JSON array from a unicode string"
  | .deepObject =>
    "maximum recursion depth exceeded while decoding a JSON object from a unicode string"

/-- Faults of the text name their place; what goes over a limit does not. -/
def SyntaxError.message (error : SyntaxError) : String :=
  match error.fault with
  | .longInteger _ | .deepArray | .deepObject => error.fault.text
  | fault => s!"{fault.text}: line {error.line} column {error.column} (char {error.offset})"

end Bastion.Json
