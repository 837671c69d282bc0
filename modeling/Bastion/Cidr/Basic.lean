set_option autoImplicit false

namespace Bastion

/-- A block of addresses of `bits` bits. The bits past the shared part are zero. -/
structure AddressBlock (bits : Nat) where
  address : Nat
  length : Nat
  length_le : length ≤ bits
  address_lt : address < Nat.pow 2 bits
  aligned : address % Nat.pow 2 (bits - length) = 0
  deriving DecidableEq, Repr

namespace AddressBlock

/-- The block of that address and length, if no bit past the length is set. -/
def of? (bits address length : Nat) : Option (AddressBlock bits) :=
  if within : length ≤ bits ∧ address < Nat.pow 2 bits ∧ address % Nat.pow 2 (bits - length) = 0 then
    some ⟨address, length, within.1, within.2.1, within.2.2⟩
  else none

def single? (bits address : Nat) : Option (AddressBlock bits) := of? bits address bits

theorem of?_self {bits : Nat} (block : AddressBlock bits) :
    of? bits block.address block.length = some block :=
  dif_pos ⟨block.length_le, block.address_lt, block.aligned⟩

end AddressBlock

/-- What may name the scope of an address: some text without the marks that end it. -/
def ScopeText (text : String) : Prop := text ≠ "" ∧ '%' ∉ text.toList ∧ '/' ∉ text.toList

instance (text : String) : Decidable (ScopeText text) := by
  unfold ScopeText; infer_instance

/-- The name of the scope that an address is valid in. -/
structure Scope where
  text : String
  valid : ScopeText text
  deriving DecidableEq, Repr

inductive Cidr where
  | v4 (block : AddressBlock 32)
  | v6 (block : AddressBlock 128) (scope : Option Scope)
  deriving DecidableEq, Repr

def Cidr.anyV4 : Cidr := .v4 ⟨0, 0, by decide, by decide, by decide⟩

end Bastion
