import CurlScribe.Text.Utf8

/-! Percent-encoding of text and its decoding to bytes. -/
namespace CurlScribe.Percent

def upperHexDigit (n : Nat) : Char := (Nat.digitChar (n % 16)).toUpper

def escape (b : Nat) : List Char := ['%', upperHexDigit (b / 16), upperHexDigit b]

/-- Escapes what is not ASCII and the ASCII characters of a set. -/
def encode (set : Char → Bool) (cs : List Char) : List Char :=
  cs.flatMap fun c =>
    if 0x80 ≤ c.toNat || set c then (Text.charBytes c).flatMap escape else [c]

def hexByte? (b : Nat) : Option Nat :=
  if 0x30 ≤ b && b ≤ 0x39 then some (b - 0x30)
  else if 0x61 ≤ b && b ≤ 0x66 then some (b - 0x61 + 10)
  else if 0x41 ≤ b && b ≤ 0x46 then some (b - 0x41 + 10)
  else none

def pairByte? (a b : Nat) : Option Nat :=
  match hexByte? a, hexByte? b with
  | some high, some low => some (16 * high + low)
  | _, _ => none

def mark : Nat := 0x25

/-- Resolves escapes; a mark without two digits stands for itself. -/
def decode : List Nat → List Nat
  | [] => []
  | [a] => [a]
  | [a, b] => [a, b]
  | a :: b :: c :: rest =>
    if a = mark then
      match pairByte? b c with
      | some byte => byte :: decode rest
      | none => a :: decode (b :: c :: rest)
    else a :: decode (b :: c :: rest)

/-- The C0 controls and the delete character. -/
def isControl (c : Char) : Bool := c.toNat < 0x20 || c.toNat == 0x7F

def inPath (c : Char) : Bool :=
  isControl c || [' ', '"', '<', '>', '\x60', '#', '?', '\x7b', '\x7d'].contains c

/-- Escaped in a query; a single quote only where the scheme is a special one. -/
def inQuery (special : Bool) (c : Char) : Bool :=
  isControl c || [' ', '"', '#', '<', '>'].contains c || (special && c == '\'')

/-- Characters that mean the same escaped or not, and the braces of placeholders. -/
def isPlain (c : Char) : Bool :=
  c.isAlpha || c.isDigit || ['-', '.', '_', '~', '\x7b', '\x7d'].contains c

def plainOf? (a b : Char) : Option Char :=
  (pairByte? a.toNat b.toNat).bind fun byte =>
    let c := Char.ofNat byte
    if byte < 0x80 && isPlain c then some c else none

/-- Resolves the escapes of plain characters and leaves all others, so that a path goes on naming
the same resource. -/
def relax : List Char → List Char
  | [] => []
  | '%' :: a :: b :: rest =>
    match plainOf? a b with
    | some c => c :: relax rest
    | none => '%' :: relax (a :: b :: rest)
  | c :: rest => c :: relax rest

end CurlScribe.Percent
