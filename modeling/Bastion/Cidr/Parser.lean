import Bastion.Cidr.Printer
import Bastion.Json.Parser

set_option autoImplicit false

namespace Bastion.Cidr

open Json (isDigit natOfDigits integerLimit hexValue?)

/-- An octet has no leading zeros and at most three digits. -/
def readOctet? (text : List Char) : Option Nat :=
  if text.isEmpty || !text.all isDigit || 3 < text.length then none
  else if text ≠ ['0'] ∧ text.head? = some '0' then none
  else if natOfDigits text ≤ 255 then some (natOfDigits text)
  else none

def readV4? (text : List Char) : Option Nat :=
  match text.splitOn '.' with
  | [a, b, c, d] => do
    let a ← readOctet? a
    let b ← readOctet? b
    let c ← readOctet? c
    let d ← readOctet? d
    return a * 0x1000000 + b * 0x10000 + c * 0x100 + d
  | _ => none

def readHex (text : List Char) : Nat :=
  text.foldl (fun n c => n * 16 + (hexValue? c).getD 0) 0

def readGroup? (text : List Char) : Option Nat :=
  if text.isEmpty || !text.all (fun c => (hexValue? c).isSome) || 4 < text.length then none
  else some (readHex text)

def readGroups? : List (List Char) → Option (List Nat)
  | [] => some []
  | part :: parts => do
    let group ← readGroup? part
    let groups ← readGroups? parts
    return group :: groups

def addressOf (groups : List Nat) : Nat := groups.foldl (fun n group => n * 0x10000 + group) 0

/-- The parts between colons, a last one in octets turned into two groups. -/
def expandOctets? (parts : List (List Char)) : Option (List (List Char)) :=
  match parts.getLast? with
  | none => some parts
  | some last =>
    if '.' ∈ last then do
      let address ← readV4? last
      return parts.dropLast ++
        [Nat.toDigits 16 (address / 0x10000), Nat.toDigits 16 (address % 0x10000)]
    else some parts

/-- The places of the empty parts that are neither first nor last. -/
def innerGaps (parts : List (List Char)) : List Nat :=
  (List.range parts.length).filter fun i =>
    0 < i && i + 1 < parts.length && parts.getD i [] = []

/-- Both sides of a gap of zero groups. A side that is empty at its outer end has no group at all. -/
def readAround? (before after : List (List Char)) : Option Nat := do
  let before ←
    if before.head? = some [] then (if before.length = 1 then some [] else none) else some before
  let after ←
    if after.getLast? = some [] then (if after.length = 1 then some [] else none) else some after
  if before.length + after.length < 8 then
    let high ← readGroups? before
    let low ← readGroups? after
    return addressOf (high ++ List.replicate (8 - (high.length + low.length)) 0 ++ low)
  else none

def readV6? (text : List Char) : Option Nat := do
  let parts := text.splitOn ':'
  if parts.length < 3 then none
  else
    let parts ← expandOctets? parts
    if 9 < parts.length then none
    else
      match innerGaps parts with
      | [] => if parts.length = 8 then (readGroups? parts).map addressOf else none
      | [gap] => readAround? (parts.take gap) (parts.drop (gap + 1))
      | _ => none

/-- A length in digits that is not over the number of bits. It may have leading zeros, but not more
digits than an integer is read with. -/
def readLength? (bits : Nat) (text : List Char) : Option Nat :=
  if text.isEmpty || !text.all isDigit || integerLimit < text.length then none
  else if natOfDigits text ≤ bits then some (natOfDigits text)
  else none

/-- The length that a mask of network bits stands for. -/
def lengthOfMask? (mask : Nat) : Option Nat :=
  (List.range 33).find? fun length => mask = 0x100000000 - Nat.pow 2 (32 - length)

/-- A mask of network bits, else one of host bits. -/
def readMask? (text : List Char) : Option Nat := do
  let mask ← readV4? text
  (lengthOfMask? mask).or (lengthOfMask? (0xFFFFFFFF - mask))

def readBlockV4? (address : List Char) (length : Option (List Char)) :
    Option (AddressBlock 32) := do
  let number ← readV4? address
  match length with
  | none => AddressBlock.single? 32 number
  | some length => AddressBlock.of? 32 number (← (readLength? 32 length).or (readMask? length))

def readScope? (text : List Char) : Option (List Char × Option Scope) :=
  match text.splitOn '%' with
  | [address] => some (address, none)
  | [address, scope] =>
    if valid : ScopeText (String.ofList scope) then some (address, some ⟨String.ofList scope, valid⟩)
    else none
  | _ => none

def readBlockV6? (text : List Char) (length : Option (List Char)) : Option Cidr := do
  let (address, scope) ← readScope? text
  let number ← readV6? address
  match length with
  | none => return .v6 (← AddressBlock.single? 128 number) scope
  | some length => return .v6 (← AddressBlock.of? 128 number (← readLength? 128 length)) scope

def readParts? (address : List Char) (length : Option (List Char)) : Option Cidr :=
  ((readBlockV4? address length).map Cidr.v4).or (readBlockV6? address length)

def read? (text : List Char) : Option Cidr :=
  match text.splitOn '/' with
  | [address] => readParts? address none
  | [address, length] => readParts? address (some length)
  | _ => none

def parse? (text : String) : Option Cidr := read? text.toList

/-- The block of the address that an integer is, of the smaller version that has it. -/
def ofInt? (number : Int) : Option Cidr :=
  if number < 0 then none
  else
    ((AddressBlock.single? 32 number.toNat).map Cidr.v4).or
      ((AddressBlock.single? 128 number.toNat).map fun block => .v6 block none)

def ofJson? : Json → Option Cidr
  | .string text => parse? text
  | .int number => ofInt? number
  | .bool value => ofInt? (if value then 1 else 0)
  | _ => none

end Bastion.Cidr
