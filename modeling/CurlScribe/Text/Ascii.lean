/-! Letters and digits of ASCII, and comparison that ignores their case. -/
namespace CurlScribe.Text

def isAsciiAlnum (c : Char) : Bool := c.isAlpha || c.isDigit

/-- The same text up to the case of ASCII letters. -/
def sameIgnoringCase (s t : List Char) : Bool := s.map Char.toLower == t.map Char.toLower

def lowerAscii (s : String) : String := String.ofList (s.toList.map Char.toLower)

def isControl (c : Char) : Bool := c.toNat < 0x20 || (0x7F ≤ c.toNat && c.toNat ≤ 0x9F)

end CurlScribe.Text
