/-! Blank characters and the blank margins of a text. -/
namespace CurlScribe.Text

/-- The Unicode property White_Space. -/
def isBlank (c : Char) : Bool :=
  let n := c.toNat
  (9 ≤ n && n ≤ 13) || n == 0x20 || n == 0x85 || n == 0xA0 || n == 0x1680 ||
    (0x2000 ≤ n && n ≤ 0x200A) || n == 0x2028 || n == 0x2029 || n == 0x202F || n == 0x205F ||
    n == 0x3000

def trimStart (cs : List Char) : List Char := cs.dropWhile isBlank

def trimEnd (cs : List Char) : List Char := (cs.reverse.dropWhile isBlank).reverse

def trim (cs : List Char) : List Char := trimEnd (trimStart cs)

/-- A text without its blank margins. -/
def trimmed (s : String) : String := String.ofList (trim s.toList)

/-- Nothing but blank characters. -/
def blank (s : String) : Bool := s.toList.all isBlank

/-- A text that says something. -/
def nonBlank (s : Option String) : Option String := s.filter fun t => !blank t

end CurlScribe.Text
