/-! Binary64 numbers as exact data: a sign and the rank of the magnitude among all magnitudes. -/
namespace CurlScribe

/-- The rank counts the magnitudes from zero upwards, so it is the 64-bit word without its sign. -/
structure Binary64 where
  negative : Bool
  rank : Nat
deriving DecidableEq

namespace Binary64

/-- The rank of infinity; a higher rank is no number. -/
def infinityRank : Nat := 0x7FF0000000000000

def zero : Binary64 := ⟨false, 0⟩

def infinity (negative : Bool) : Binary64 := ⟨negative, infinityRank⟩

def notANumber : Binary64 := ⟨false, infinityRank + 1⟩

def isFinite (x : Binary64) : Bool := x.rank < infinityRank

def isNaN (x : Binary64) : Bool := infinityRank < x.rank

def neg (x : Binary64) : Binary64 := ⟨!x.negative, x.rank⟩

/-- Equal as numbers: the two zeros are equal and nothing equals what is no number. -/
def sameValue (x y : Binary64) : Bool :=
  !x.isNaN && x.rank == y.rank && (x.negative == y.negative || x.rank == 0)

/-- How many ranks there are from one power of two up to the next. -/
def binade : Nat := 0x10000000000000

/-- The magnitude of a finite rank, counted in units of 2^-1074. -/
def magnitude (k : Nat) : Nat :=
  if k < binade then k else (binade + k % binade) * Nat.pow 2 (k / binade - 1)

/-- The greatest rank whose magnitude is at most `q` units. -/
def floorRank (q : Nat) : Nat :=
  if q < 2 * binade then q
  else
    let shift := q.log2 - 52
    shift * binade + q / Nat.pow 2 shift

/-- The rank nearest to `num / den` units of 2^-1074. A tie goes to the even rank, and what lies
beyond the largest finite magnitude by half a step or more goes to infinity. -/
def nearestUnits (num den : Nat) : Nat :=
  let k := floorRank (num / den)
  let low := magnitude k
  let gap := (magnitude (k + 1) - low) * den
  let twice := 2 * (num - low * den)
  let rounded :=
    if twice < gap then k
    else if gap < twice then k + 1
    else if k % 2 = 0 then k
    else k + 1
  min rounded infinityRank

/-- The rank nearest to the quotient `num / den`. -/
def nearestRatio (num den : Nat) : Nat := nearestUnits (num * Nat.pow 2 1074) den

/-- The rank nearest to the product of two finite magnitudes. -/
def mulRank (a b : Nat) : Nat := nearestUnits (magnitude a * magnitude b) (Nat.pow 2 1074)

/-- The rank nearest to the quotient of two finite magnitudes. -/
def divRank (a b : Nat) : Nat := nearestUnits (magnitude a * Nat.pow 2 1074) (magnitude b)

def ofNat (n : Nat) : Binary64 := ⟨false, nearestRatio n 1⟩

def ofInt : Int → Binary64
  | .ofNat n => ofNat n
  | .negSucc n => (ofNat (n + 1)).neg

end Binary64

end CurlScribe
