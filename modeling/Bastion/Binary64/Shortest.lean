import Bastion.Binary64

set_option autoImplicit false

namespace Bastion.Binary64

/-- The interval that rounds to `mantissa * 2 ^ exponent`, in quarters of the last binary place. -/
structure Interval where
  low : Nat
  value : Nat
  high : Nat
  closed : Bool

def Interval.around (mantissa : Nat) (exponent : Int) : Interval where
  low := if mantissa = topBit ∧ -1074 < exponent then 4 * mantissa - 1 else 4 * mantissa - 2
  value := 4 * mantissa
  high := 4 * mantissa + 2
  closed := mantissa % 2 = 0

/-- Multipliers that make `digit * 10 ^ place` and `quarter * 2 ^ (exponent - 2)` comparable. -/
def commonScale (place exponent : Int) : Nat × Nat :=
  (Nat.pow 10 place.toNat * Nat.pow 2 (2 - exponent).toNat,
    Nat.pow 2 (exponent - 2).toNat * Nat.pow 10 (-place).toNat)

/-- Of the two neighbours of the number on the grid `10 ^ place`, the nearer one of those that
round to the number. -/
def onGrid? (interval : Interval) (exponent place : Int) : Option Nat :=
  let (digitUnit, quarterUnit) := commonScale place exponent
  let below := interval.value * quarterUnit / digitUnit
  let inside (digits : Nat) : Bool :=
    let low := interval.low * quarterUnit
    let high := interval.high * quarterUnit
    let point := digits * digitUnit
    if interval.closed then low ≤ point ∧ point ≤ high else low < point ∧ point < high
  let gapBelow := interval.value * quarterUnit - below * digitUnit
  let gapAbove := (below + 1) * digitUnit - interval.value * quarterUnit
  match inside below, inside (below + 1) with
  | false, false => none
  | true, false => some below
  | false, true => some (below + 1)
  | true, true =>
    if gapBelow < gapAbove then some below
    else if gapAbove < gapBelow then some (below + 1)
    else some (if below % 2 = 0 then below else below + 1)

def searchGrids (interval : Interval) (exponent : Int) : Nat → Int → Nat × Int
  | 0, place => (interval.value, place)
  | fuel + 1, place =>
    match onGrid? interval exponent place with
    | some digits => (digits, place)
    | none => searchGrids interval exponent fuel (place - 1)

def coarsePlace (mantissa : Nat) (exponent : Int) : Int :=
  Int.fdiv (((Nat.log2 mantissa : Int) + 1 + exponent) * 30103) 100000 + 2

def shortest (mantissa : Nat) (exponent : Int) : Nat × Int :=
  searchGrids (.around mantissa exponent) exponent 30 (coarsePlace mantissa exponent)

structure Layout where
  firstPoint : Int
  lastPoint : Int
  exponentDigits : Nat

/-- Zeros may stand before the digits (up to three after the point), and numbers below ten to the
sixteenth are written out; all others have an exponent with a sign and two digits at least. -/
def Layout.plain : Layout where
  firstPoint := -3
  lastPoint := 16
  exponentDigits := 2

def zeros (count : Nat) : List Char := List.replicate count '0'

def Layout.write (layout : Layout) (digits : List Char) (point : Int) : List Char :=
  if layout.firstPoint ≤ point ∧ point ≤ layout.lastPoint then
    if point ≤ 0 then '0' :: '.' :: (zeros (-point).toNat ++ digits)
    else if (digits.length : Int) ≤ point then
      digits ++ zeros (point.toNat - digits.length) ++ ['.', '0']
    else digits.take point.toNat ++ '.' :: digits.drop point.toNat
  else
    let exponent := point - 1
    let magnitude := Nat.toDigits 10 exponent.natAbs
    let fraction := digits.drop 1
    digits.take 1 ++ (if fraction.isEmpty then [] else '.' :: fraction) ++
      'e' :: (if exponent < 0 then '-' else '+') ::
        (zeros (layout.exponentDigits - magnitude.length) ++ magnitude)

def text : Binary64 → List Char
  | .nan => "NaN".toList
  | .infinity negative => (if negative then "-Infinity" else "Infinity").toList
  | .finite negative mantissa exponent _ =>
    let magnitude :=
      if mantissa = 0 then "0.0".toList
      else
        let (digits, place) := shortest mantissa exponent
        let written := Nat.toDigits 10 digits
        Layout.plain.write written (place + written.length)
    if negative then '-' :: magnitude else magnitude

end Bastion.Binary64
