import Bastion.Cidr.Basic

set_option autoImplicit false

namespace Bastion.Cidr

def octets (address : Nat) : List Nat :=
  [address / 0x1000000 % 256, address / 0x10000 % 256, address / 0x100 % 256, address % 256]

/-- The sixteen-bit groups of an address, `count` of them, the highest first. -/
def groups : Nat → Nat → List Nat
  | 0, _ => []
  | count + 1, address => address / Nat.pow 0x10000 count % 0x10000 :: groups count address

def joined (separator : Char) (parts : List (List Char)) : List Char :=
  List.intercalate [separator] parts

def writeV4 (address : Nat) : List Char :=
  joined '.' ((octets address).map (Nat.toDigits 10))

def leadingZeros (groups : List Nat) : Nat := (groups.takeWhile (· = 0)).length

/-- Place and length of the longest run of zeros, the first one of several. -/
def longestZeros : List Nat → Nat × Nat
  | [] => (0, 0)
  | group :: groups =>
    let (place, length) := longestZeros groups
    let here := leadingZeros (group :: groups)
    if length ≤ here then (0, here) else (place + 1, length)

def writeGroups (groups : List Nat) : List Char := joined ':' (groups.map (Nat.toDigits 16))

def writeV6 (address : Nat) : List Char :=
  let all := groups 8 address
  let (place, length) := longestZeros all
  if 1 < length then
    writeGroups (all.take place) ++ ':' :: ':' :: writeGroups (all.drop (place + length))
  else writeGroups all

def writeScope : Option Scope → List Char
  | none => []
  | some scope => '%' :: scope.text.toList

def write : Cidr → List Char
  | .v4 block => writeV4 block.address ++ '/' :: Nat.toDigits 10 block.length
  | .v6 block scope =>
    writeV6 block.address ++ writeScope scope ++ '/' :: Nat.toDigits 10 block.length

def text (cidr : Cidr) : String := String.ofList cidr.write

end Bastion.Cidr
