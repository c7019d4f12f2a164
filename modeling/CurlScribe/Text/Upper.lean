import CurlScribe.Text.Blank

/-! Full upper-casing, as far as it leads to ASCII letters. -/
namespace CurlScribe.Text

/-- The capital letters of a character, where they are all ASCII; another character stands for
itself, since no capital form of it can occur in an ASCII word. -/
def asciiCapitals (c : Char) : List Char :=
  match c.toNat with
  | 0xDF => ['S', 'S']
  | 0x131 => ['I']
  | 0x17F => ['S']
  | 0xFB00 => ['F', 'F']
  | 0xFB01 => ['F', 'I']
  | 0xFB02 => ['F', 'L']
  | 0xFB03 => ['F', 'F', 'I']
  | 0xFB04 => ['F', 'F', 'L']
  | 0xFB05 => ['S', 'T']
  | 0xFB06 => ['S', 'T']
  | _ => [c.toUpper]

/-- The word in ASCII capitals that a text spells, its blank margins aside. -/
def capitals (s : String) : List Char := (trim s.toList).flatMap asciiCapitals

end CurlScribe.Text
