import CurlScribe.Text.Ascii

/-! String literals of Java. -/
namespace CurlScribe.Java

def escapeChar (c : Char) : List Char :=
  match c with
  | '"' => ['\\', '"']
  | '\\' => ['\\', '\\']
  | '\n' => ['\\', 'n']
  | '\x0d' => ['\\', 'r']
  | '\t' => ['\\', 't']
  | '\x08' => ['\\', 'b']
  | '\x0c' => ['\\', 'f']
  | _ =>
    if Text.isControl c then
      ['\\', 'u', '0', '0', Nat.digitChar (c.toNat / 16), Nat.digitChar (c.toNat % 16)]
    else [c]

/-- The inside of a literal. -/
def escape (s : String) : String := String.ofList (s.toList.flatMap escapeChar)

def literal (s : String) : String := "\"" ++ escape s ++ "\""

end CurlScribe.Java
