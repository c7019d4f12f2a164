import CurlScribe.Number.Decimal

/-! JSON values with the fields of an object in order, and when two values mean the same. -/
namespace CurlScribe

/-- A whole number that fits 64 bits, with or without a sign, or a finite binary64. -/
inductive Json.Number where
  | whole (n : Int) (low : -0x8000000000000000 ≤ n) (high : n < 0x10000000000000000)
  | real (x : Binary64) (finite : x.isFinite = true)
deriving DecidableEq

inductive Json where
  | null
  | bool (b : Bool)
  | num (n : Json.Number)
  | str (s : String)
  | arr (items : List Json)
  | obj (fields : List (String × Json))

namespace Json

namespace Number

def ofInt? (n : Int) : Option Number :=
  if h : -0x8000000000000000 ≤ n ∧ n < 0x10000000000000000 then some (whole n h.1 h.2) else none

def ofReal? (x : Binary64) : Option Number :=
  if h : x.isFinite = true then some (real x h) else none

def ofUInt64 (n : UInt64) : Number :=
  whole n.toNat (by omega) (by have := n.toNat_lt; omega)

def toBinary64 : Number → Binary64
  | whole n _ _ => Binary64.ofInt n
  | real x _ => x

/-- Equal as numbers of one kind: a whole number never equals a binary64. -/
def same : Number → Number → Bool
  | whole m _ _, whole n _ _ => m == n
  | real x _, real y _ => x.sameValue y
  | _, _ => false

end Number

/-- A binary64 that is not finite has no number in JSON. -/
def ofBinary64 (x : Binary64) : Json :=
  match Number.ofReal? x with
  | some n => num n
  | none => null

mutual

/-- Same meaning: the order of the fields of an object does not count. -/
def same : Json → Json → Bool
  | null, null => true
  | bool a, bool b => a == b
  | num m, num n => m.same n
  | str s, str t => s == t
  | arr xs, arr ys => sameItems xs ys
  | obj fs, obj gs => fs.length == gs.length && sameFields fs gs
  | _, _ => false

def sameItems : List Json → List Json → Bool
  | [], [] => true
  | x :: xs, y :: ys => same x y && sameItems xs ys
  | _, _ => false

/-- Every field has a partner of its name that means the same. -/
def sameFields : List (String × Json) → List (String × Json) → Bool
  | [], _ => true
  | (k, v) :: rest, gs =>
    (match gs.lookup k with
      | some w => same v w
      | none => false) && sameFields rest gs

end

end Json

end CurlScribe
