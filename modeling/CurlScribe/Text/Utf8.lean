/-! UTF-8: the bytes of a text, its size, and decoding that replaces what is malformed. -/
namespace CurlScribe.Text

/-- The bytes of one character. -/
def charBytes (c : Char) : List Nat := (String.utf8EncodeChar c).map UInt8.toNat

def bytes (cs : List Char) : List Nat := cs.flatMap charBytes

def replacement : Char := Char.ofNat 0xFFFD

/-- How many bytes may follow a lead byte, and the range of the first of them. -/
def leadShape (b : Nat) : Option (Nat × Nat × Nat) :=
  if 0xC2 ≤ b && b ≤ 0xDF then some (1, 0x80, 0xBF)
  else if b == 0xE0 then some (2, 0xA0, 0xBF)
  else if b == 0xED then some (2, 0x80, 0x9F)
  else if 0xE1 ≤ b && b ≤ 0xEF then some (2, 0x80, 0xBF)
  else if b == 0xF0 then some (3, 0x90, 0xBF)
  else if 0xF1 ≤ b && b ≤ 0xF3 then some (3, 0x80, 0xBF)
  else if b == 0xF4 then some (3, 0x80, 0x8F)
  else none

/-- A character that is still being read: the bits so far, the bytes still to come, and the range
of the next one. -/
structure Partial where
  bits : Nat
  missing : Nat
  low : Nat
  high : Nat

/-- Decodes bytes; every maximal prefix of a character that breaks off is replaced by U+FFFD. -/
def decodeFrom : Option Partial → List Nat → List Char
  | none, [] => []
  | some _, [] => [replacement]
  | none, b :: rest => start b rest
  | some p, b :: rest =>
    if p.low ≤ b && b ≤ p.high then
      let bits := p.bits * 64 + b % 64
      if p.missing = 1 then Char.ofNat bits :: decodeFrom none rest
      else decodeFrom (some ⟨bits, p.missing - 1, 0x80, 0xBF⟩) rest
    else replacement :: start b rest
where
  start (b : Nat) (rest : List Nat) : List Char :=
    if b < 0x80 then Char.ofNat b :: decodeFrom none rest
    else
      match leadShape b with
      | some (missing, low, high) =>
        let lead := if missing = 1 then b % 32 else if missing = 2 then b % 16 else b % 8
        decodeFrom (some ⟨lead, missing, low, high⟩) rest
      | none => replacement :: decodeFrom none rest

def decodeLossy (bs : List Nat) : List Char := decodeFrom none bs

/-- Decodes bytes that are well-formed throughout. -/
def decodeStrict (bs : List Nat) : Option (List Char) :=
  let cs := decodeLossy bs
  if bytes cs == bs then some cs else none

end CurlScribe.Text
