set_option autoImplicit false

/- Binary floating point numbers of 53 significant bits, as exact values: a finite number is
`± mantissa * 2 ^ exponent`. The mantissa is normalised, so equal numbers are equal terms (the two
zeros apart). Reading rounds a decimal to the nearest number, a tie to the even mantissa. -/
namespace Bastion

def Binary64.topBit : Nat := 0x10000000000000

/-- The mantissas and exponents that the format has; each magnitude has one. -/
def Binary64.Fits (mantissa : Nat) (exponent : Int) : Prop :=
  mantissa < 2 * topBit ∧ -1074 ≤ exponent ∧ exponent ≤ 971 ∧
    (topBit ≤ mantissa ∨ exponent = -1074)

instance (mantissa : Nat) (exponent : Int) : Decidable (Binary64.Fits mantissa exponent) := by
  unfold Binary64.Fits; infer_instance

inductive Binary64 where
  | nan
  | infinity (negative : Bool)
  | finite (negative : Bool) (mantissa : Nat) (exponent : Int)
      (fits : Binary64.Fits mantissa exponent)
  deriving DecidableEq, Repr

namespace Binary64

/-- The quotient rounded to the nearest integer, a tie to the even one. -/
def roundDiv (num den : Nat) : Nat :=
  let floor := num / den
  let twice := 2 * (num % den)
  if twice < den then floor
  else if den < twice then floor + 1
  else if floor % 2 = 0 then floor else floor + 1

/-- `num / den` divided by `2 ^ exponent`, as a quotient of naturals. -/
def scale (num den : Nat) (exponent : Int) : Nat × Nat :=
  (num * Nat.pow 2 (-exponent).toNat, den * Nat.pow 2 exponent.toNat)

/-- The exponent at which `num / den` has a mantissa of 53 bits, or the least one there is. -/
def exponentOf (num den : Nat) : Int :=
  let low : Int := (Nat.log2 num : Int) - (Nat.log2 den : Int) - 53
  let (n, d) := scale num den low
  max (if 2 * topBit ≤ n / d then low + 1 else low) (-1074)

def ofMantissa (negative : Bool) (mantissa : Nat) (exponent : Int) : Binary64 :=
  if fits : Fits mantissa exponent then .finite negative mantissa exponent fits
  else .infinity negative

def zero (negative : Bool) : Binary64 :=
  .finite negative 0 (-1074) (by decide)

/-- The number nearest to `± num / den`. A magnitude past the largest number is an infinity. -/
def ofRatio (negative : Bool) (num den : Nat) : Binary64 :=
  if num = 0 then zero negative
  else
    let exponent := exponentOf num den
    let (n, d) := scale num den exponent
    let mantissa := roundDiv n d
    if mantissa = 2 * topBit then ofMantissa negative topBit (exponent + 1)
    else ofMantissa negative mantissa exponent

/-- The number nearest to `± digits * 10 ^ exponent`. Exponents out of every number's reach are
answered at once, so the powers computed stay small. -/
def ofDecimal (negative : Bool) (digits : Nat) (exponent : Int) : Binary64 :=
  if digits = 0 then zero negative
  else if 400 < exponent then .infinity negative
  else if exponent + (Nat.log2 digits + 1 : Nat) < -400 then zero negative
  else ofRatio negative (digits * Nat.pow 10 exponent.toNat) (Nat.pow 10 (-exponent).toNat)

/-- The integer that a number is, if it is one. -/
def toInt? : Binary64 → Option Int
  | .finite negative mantissa exponent _ =>
    let unit := Nat.pow 2 (-exponent).toNat
    if mantissa % unit = 0 then
      let magnitude : Int := (mantissa / unit * Nat.pow 2 exponent.toNat : Nat)
      some (if negative then -magnitude else magnitude)
    else none
  | _ => none

def isFinite : Binary64 → Bool
  | .finite .. => true
  | _ => false

end Binary64

end Bastion
