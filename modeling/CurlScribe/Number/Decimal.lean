import CurlScribe.Number.Binary64

/-! Decimal numerals: reading one to the nearest binary64, and the fewest digits that read back. -/
namespace CurlScribe

/-- The number `digits * 10 ^ power`. -/
structure Decimal where
  digits : Nat
  power : Int
deriving DecidableEq

def digitValue (c : Char) : Nat := c.toNat - '0'.toNat

/-- The value of a run of decimal digits that continues `start`. -/
def digitsValue (start : Nat) (cs : List Char) : Nat :=
  cs.foldl (fun n c => 10 * n + digitValue c) start

def decimalDigits (n : Nat) : List Char := Nat.toDigits 10 n

namespace Decimal

/-- A numeral whose leading digit stands beyond this place is zero or infinite anyhow. -/
def farPlace : Int := 400

/-- The nearest binary64 rank. -/
def rank (d : Decimal) : Nat :=
  if d.digits = 0 then 0
  else
    let place := d.power + (decimalDigits d.digits).length
    if farPlace < place then Binary64.infinityRank
    else if place < -farPlace then 0
    else if d.power < 0 then Binary64.nearestRatio d.digits (Nat.pow 10 d.power.natAbs)
    else Binary64.nearestRatio (d.digits * Nat.pow 10 d.power.natAbs) 1

def dropZeros (fuel : Nat) (d : Decimal) : Decimal :=
  match fuel with
  | 0 => d
  | fuel + 1 =>
    if d.digits % 10 = 0 && d.digits != 0 then dropZeros fuel ⟨d.digits / 10, d.power + 1⟩ else d

/-- Where a number lies halfway between two numerals that both read back. -/
inductive Tie where
  | even
  | up
deriving DecidableEq

/-- Every finite magnitude is a decimal with 1074 places. -/
def exactOf (k : Nat) : Decimal := ⟨Binary64.magnitude k * Nat.pow 5 1074, -1074⟩

/-- The place of the leading digit of a magnitude that is not zero. -/
def leadingPlace (k : Nat) : Int :=
  (decimalDigits (Binary64.magnitude k * Nat.pow 10 400 / Nat.pow 2 1074)).length - 401

/-- The nearer of the two numerals with last place `power` around the magnitude of rank `k`, among
those that read back as `k`. -/
def around (tie : Tie) (k : Nat) (power : Int) : Option Decimal :=
  let num := Binary64.magnitude k * Nat.pow 10 (-power).toNat
  let den := Nat.pow 2 1074 * Nat.pow 10 power.toNat
  let below : Decimal := ⟨num / den, power⟩
  let above : Decimal := ⟨num / den + 1, power⟩
  let rest := 2 * (num % den)
  let preferAbove :=
    den < rest || (rest == den && (tie == .up || below.digits % 2 == 1))
  let (first, second) := if preferAbove then (above, below) else (below, above)
  if first.rank = k then some first else if second.rank = k then some second else none

/-- The numeral with the fewest digits that reads back as the finite rank `k`, and of those the
nearest to it. -/
def shortest (tie : Tie) (k : Nat) : Decimal :=
  if k = 0 then ⟨0, 0⟩
  else
    let place := leadingPlace k
    let found := (List.range 17).findSome? fun (n : Nat) => around tie k (place - (n : Int))
    match found with
    | some d => dropZeros 20 d
    | none => dropZeros 1074 (exactOf k)

/-- Positional digits: the whole part, never empty, and the fraction, perhaps empty. -/
def positional (d : Decimal) : List Char × List Char :=
  let ds := decimalDigits d.digits
  if 0 ≤ d.power then (ds ++ List.replicate d.power.natAbs '0', [])
  else
    let places := d.power.natAbs
    if places < ds.length then (ds.take (ds.length - places), ds.drop (ds.length - places))
    else (['0'], List.replicate (places - ds.length) '0' ++ ds)

/-- The power of ten of the leading digit. -/
def exponent (d : Decimal) : Int := d.power + (decimalDigits d.digits).length - 1

end Decimal

namespace Binary64

/-- The text of a number on a command line: positional, with a fraction only where it is needed. -/
def plainText (x : Binary64) : List Char :=
  if x.isNaN then "NaN".toList
  else
    let sign := if x.negative then ['-'] else []
    if !x.isFinite then sign ++ "inf".toList
    else
      let (whole, fraction) := (Decimal.shortest .up x.rank).positional
      sign ++ whole ++ (if fraction.isEmpty then [] else '.' :: fraction)

/-- The text of a finite number in JSON: positional with a fraction while the leading digit stands
between the places -5 and 15, scientific beyond. -/
def jsonText (x : Binary64) : List Char :=
  let sign := if x.negative then ['-'] else []
  let d := Decimal.shortest .even x.rank
  if -5 ≤ d.exponent ∧ d.exponent ≤ 15 then
    let (whole, fraction) := d.positional
    sign ++ whole ++ '.' :: (if fraction.isEmpty then ['0'] else fraction)
  else
    let (lead, rest) := (decimalDigits d.digits).splitAt 1
    let mantissa := lead ++ (if rest.isEmpty then [] else '.' :: rest)
    let power := decimalDigits d.exponent.natAbs
    sign ++ mantissa ++ 'e' :: (if d.exponent < 0 then '-' else '+') :: power

end Binary64

end CurlScribe
