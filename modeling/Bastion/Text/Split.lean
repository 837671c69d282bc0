set_option autoImplicit false

namespace Bastion.Text

/-- What stands before and after the first separator. All stands before where there is none. -/
def cutChars (separator : Char) : List Char → List Char × List Char
  | [] => ([], [])
  | c :: rest =>
    if c = separator then ([], rest)
    else
      let (before, after) := cutChars separator rest
      (c :: before, after)

def cut (separator : Char) (text : String) : String × String :=
  let (before, after) := cutChars separator text.toList
  (String.ofList before, String.ofList after)

/-- What stands after the last separator, or all. -/
def afterLastChars (separator : Char) (text : List Char) : List Char :=
  (text.reverse.takeWhile (· ≠ separator)).reverse

def afterLast (separator : Char) (text : String) : String :=
  String.ofList (afterLastChars separator text.toList)

/-- What stands before the last separator, or all where there is none. -/
def beforeLastChars (separator : Char) (text : List Char) : List Char :=
  if separator ∈ text then ((text.reverse.dropWhile (· ≠ separator)).drop 1).reverse else text

def beforeLast (separator : Char) (text : String) : String :=
  String.ofList (beforeLastChars separator text.toList)

def containsChars (word : List Char) : List Char → Bool
  | [] => word.isEmpty
  | c :: rest => word.isPrefixOf (c :: rest) || containsChars word rest

def contains (word text : String) : Bool := containsChars word.toList text.toList

/-- The pieces between the occurrences of a word, which are taken from the left and do not overlap.
`skip` counts the characters of an occurrence that are still to be passed. -/
def piecesFrom (word : List Char) (skip : Nat) : List Char → List (List Char)
  | [] => [[]]
  | c :: rest =>
    match skip with
    | skip + 1 => piecesFrom word skip rest
    | 0 =>
      if !word.isEmpty && word.isPrefixOf (c :: rest) then
        [] :: piecesFrom word (word.length - 1) rest
      else
        match piecesFrom word 0 rest with
        | [] => [[c]]
        | piece :: pieces => (c :: piece) :: pieces

def pieces (word text : String) : List String :=
  (piecesFrom word.toList 0 text.toList).map String.ofList

/-- Line ends of all platforms as one line feed. -/
def unifyLineEnds : List Char → List Char
  | '\r' :: '\n' :: rest => '\n' :: unifyLineEnds rest
  | '\r' :: rest => '\n' :: unifyLineEnds rest
  | c :: rest => c :: unifyLineEnds rest
  | [] => []

end Bastion.Text
