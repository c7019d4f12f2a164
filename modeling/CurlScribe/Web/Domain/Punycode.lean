/-! Punycode: a label of any characters as one of ASCII letters, digits and hyphens. -/
namespace CurlScribe.Punycode

/-- The characters below this one are written as they are. -/
def firstCoded : Nat := 0x80

def startBias : Nat := 72

def digitChar (d : Nat) : Char :=
  if d < 26 then Char.ofNat ('a'.toNat + d) else Char.ofNat ('0'.toNat + (d - 26))

def digit? (c : Char) : Option Nat :=
  if c.isDigit then some (c.toNat - '0'.toNat + 26)
  else if c.isAlpha then some (c.toLower.toNat - 'a'.toNat)
  else none

/-- The least value that a digit at this place has when more digits follow. -/
def threshold (bias place : Nat) : Nat :=
  if place ≤ bias then 1 else if bias + 26 ≤ place then 26 else place - bias

theorem threshold_pos (bias place : Nat) : 0 < threshold bias place := by
  unfold threshold
  split
  · omega
  · split <;> omega

theorem threshold_le (bias place : Nat) : threshold bias place ≤ 26 := by
  unfold threshold
  split
  · omega
  · split <;> omega

/-- How often a gap must be cut down, in places, and what is left of it. -/
def settle (places gap : Nat) : Nat :=
  if 455 < gap then settle (places + 36) (gap / 35) else places + 36 * gap / (gap + 38)
termination_by gap
decreasing_by exact Nat.div_lt_self (by omega) (by decide)

/-- The bias after a gap, for a text that has `count` characters by then. -/
def adapt (gap count : Nat) (first : Bool) : Nat :=
  let g := if first then gap / 700 else gap / 2
  settle 0 (g + g / count)

/-- The digits of a gap. -/
def gapDigits (bias place gap : Nat) : List Char :=
  let t := threshold bias place
  if gap < t then [digitChar gap]
  else digitChar (t + (gap - t) % (36 - t)) :: gapDigits bias (place + 36) ((gap - t) / (36 - t))
termination_by gap
decreasing_by
  have h := threshold_pos bias place
  exact Nat.lt_of_le_of_lt (Nat.div_le_self _ _) (by omega)

/-! Encoding. -/

structure Encoder where
  digits : List Char
  gap : Nat
  bias : Nat
  /-- How many characters are written by now. -/
  count : Nat
  /-- Whether nothing has been coded yet. -/
  first : Bool

/-- Passes a character while `n` is coded: a lower one widens the gap, `n` itself ends it. -/
def Encoder.pass (n : Nat) (e : Encoder) (m : Nat) : Encoder :=
  if m < n then { e with gap := e.gap + 1 }
  else if m = n then
    { digits := e.digits ++ gapDigits e.bias 36 e.gap
      gap := 0
      bias := adapt e.gap (e.count + 1) e.first
      count := e.count + 1
      first := false }
  else e

/-- Codes the characters in rising order; `next` is the least that may come. -/
def encodeFrom (text : List Nat) (e : Encoder) (next : Nat) : List Nat → Encoder
  | [] => e
  | n :: rest =>
    let e := { e with gap := e.gap + (n - next) * (e.count + 1) }
    let e := text.foldl (Encoder.pass n) e
    encodeFrom text { e with gap := e.gap + 1 } (n + 1) rest

/-- Adds a number to a rising list that does not have it. -/
def insertRising (n : Nat) : List Nat → List Nat
  | [] => [n]
  | m :: rest =>
    if n < m then n :: m :: rest else if n = m then m :: rest else m :: insertRising n rest

/-- The characters that are coded, each once, in rising order. -/
def coded (text : List Nat) : List Nat :=
  (text.filter fun n => firstCoded ≤ n).foldr insertRising []

def encode (text : List Nat) : List Char :=
  let plain := (text.filter fun n => n < firstCoded).map Char.ofNat
  let e := encodeFrom text ⟨[], 0, startBias, plain.length, true⟩ firstCoded (coded text)
  (if plain.isEmpty then [] else plain ++ ['-']) ++ e.digits

/-! Decoding. -/

structure Decoder where
  text : List Nat
  /-- The least character that may come. -/
  next : Nat
  /-- The sum of gaps since the start of the text. -/
  position : Nat
  bias : Nat
  /-- The gap that is being read, the weight of its next digit, and its place. -/
  gap : Nat := 0
  weight : Nat := 1
  place : Nat := 36

/-- Ends a gap: it says which character comes next and where it goes. -/
def Decoder.settle (d : Decoder) (gap : Nat) : Option Decoder :=
  let count := d.text.length + 1
  let sum := d.position + gap
  let n := d.next + sum / count
  let i := sum % count
  if 0x10FFFF < n || (0xD800 ≤ n && n ≤ 0xDFFF) then none
  else
    some {
      text := d.text.take i ++ n :: d.text.drop i
      next := n
      position := i + 1
      bias := adapt gap count (d.text.all fun m => m < firstCoded) }

def Decoder.take (d : Decoder) (c : Char) : Option Decoder :=
  (digit? c).bind fun v =>
    let gap := d.gap + v * d.weight
    let t := threshold d.bias d.place
    if v < t then d.settle gap
    else some { d with gap, weight := d.weight * (36 - t), place := d.place + 36 }

/-- The plain characters before the last hyphen, and the digits after it. -/
def cutPlain (cs : List Char) : List Char × List Char :=
  let digits := (cs.reverse.takeWhile (· != '-')).reverse
  if digits.length + 1 < cs.length then (cs.take (cs.length - digits.length - 1), digits)
  else ([], cs)

def decode (cs : List Char) : Option (List Nat) :=
  let (plain, digits) := cutPlain cs
  match digits.foldlM Decoder.take ⟨plain.map Char.toNat, firstCoded, 0, startBias, 0, 1, 36⟩ with
  | some d => if d.place = 36 then some d.text else none
  | none => none

end CurlScribe.Punycode
