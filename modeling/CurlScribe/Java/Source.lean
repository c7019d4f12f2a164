/-! Lines of source text with their indentation. -/
namespace CurlScribe.Java

/-- A line of source and how deep it is indented. -/
structure Line where
  depth : Nat
  text : String
deriving DecidableEq

namespace Line

def blank : Line := ⟨0, ""⟩

def deeper (n : Nat) (l : Line) : Line :=
  if l.text = "" then l else ⟨l.depth + n, l.text⟩

def render (l : Line) : String :=
  String.ofList (List.replicate (4 * l.depth) ' ') ++ l.text ++ "\n"

end Line

/-- A line that opens a block, the inside of the block, and its end. -/
def block (opening : String) (inside : List Line) : List Line :=
  ⟨0, opening⟩ :: inside.map (Line.deeper 1) ++ [⟨0, "\x7d"⟩]

def render (lines : List Line) : String := String.join (lines.map Line.render)

end CurlScribe.Java
