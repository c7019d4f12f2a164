import CurlScribe.Web.Percent

/-! The form encoding of name and value pairs, as query strings use it. -/
namespace CurlScribe.Form

/-- A name or value: `+` stands for a blank, escapes for bytes, and malformed bytes are replaced. -/
def decodePart (bs : List Nat) : String :=
  String.ofList (Text.decodeLossy (Percent.decode (bs.map fun b => if b = 0x2B then 0x20 else b)))

/-- The first `=` ends the name. -/
def decodePair (bs : List Nat) : String × String :=
  (decodePart (bs.takeWhile (· != 0x3D)), decodePart ((bs.dropWhile (· != 0x3D)).drop 1))

/-- The pairs between the `&`; empty ones are passed over. -/
def decode (cs : List Char) : List (String × String) :=
  (((Text.bytes cs).splitOn 0x26).filter fun bs => !bs.isEmpty).map decodePair

def encodeByte (b : Nat) : List Char :=
  let c := Char.ofNat b
  if b < 0x80 && (c.isAlpha || c.isDigit || ['*', '-', '.', '_'].contains c) then [c]
  else if b = 0x20 then ['+']
  else Percent.escape b

def encodePart (s : String) : List Char := (Text.bytes s.toList).flatMap encodeByte

def encode (pairs : List (String × String)) : List Char :=
  ['&'].intercalate (pairs.map fun (name, value) => encodePart name ++ '=' :: encodePart value)

end CurlScribe.Form
