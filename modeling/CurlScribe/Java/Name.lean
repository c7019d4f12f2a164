import CurlScribe.Request.Method
import CurlScribe.Text.Ascii

/-! Names in Java: made from free text, kept off the keywords, and made distinct. -/
namespace CurlScribe.Java

/-! Words. -/

/-- Breaks a run of letters and digits before a capital that follows a small letter or digit. -/
def humps : List Char → List (List Char)
  | [] => []
  | [c] => [[c]]
  | c :: d :: rest =>
    if (c.isLower || c.isDigit) && d.isUpper then [c] :: humps (d :: rest)
    else
      match humps (d :: rest) with
      | w :: ws => (c :: w) :: ws
      | [] => [[c]]

/-- The words of a text: runs of ASCII letters and digits, broken at their humps. -/
def words (cs : List Char) : List (List Char) :=
  ((cs.splitOnP fun c => !Text.isAsciiAlnum c).filter fun run => !run.isEmpty).flatMap humps

def capitalize : List Char → List Char
  | [] => []
  | c :: rest => c.toUpper :: rest

def guardDigit (cs : List Char) : List Char :=
  match cs with
  | c :: _ => if c.isDigit then '_' :: cs else cs
  | [] => []

/-- All words capitalized; empty when there are none. -/
def pascalCase (s : String) : String :=
  String.ofList (guardDigit ((words s.toList).flatMap capitalize))

/-- The first word in small letters, the others capitalized. -/
def camelCase (s : String) : String :=
  match words s.toList with
  | [] => ""
  | w :: ws => String.ofList (guardDigit (w.map Char.toLower ++ ws.flatMap capitalize))

def keywords : List String := [
  "abstract", "assert", "boolean", "break", "byte", "case", "catch", "char", "class", "const",
  "continue", "default", "do", "double", "else", "enum", "extends", "final", "finally", "float",
  "for", "goto", "if", "implements", "import", "instanceof", "int", "interface", "long", "native",
  "new", "package", "private", "protected", "public", "return", "short", "static", "strictfp",
  "super", "switch", "synchronized", "this", "throw", "throws", "transient", "try", "void",
  "volatile", "while", "true", "false", "null", "var", "record"]

def isKeyword (s : String) : Bool := keywords.contains s

/-- A name that may be declared. -/
def identifier (s : String) : String :=
  let name := camelCase s
  if name = "" then "value" else if isKeyword name then name ++ "_" else name

/-! Distinct names. -/

/-- The first of `base` with a number from `n` on that is not taken. A number that is passed over
cannot come again, so its name need not be kept. -/
def numbered (base : String) (taken : List String) (n : Nat) : String :=
  let candidate := base ++ toString n
  if candidate ∈ taken then numbered base (taken.erase candidate) (n + 1) else candidate
termination_by taken.length
decreasing_by
  rename_i h
  rw [List.length_erase_of_mem h]
  exact Nat.sub_lt (List.length_pos_of_mem h) (by decide)

/-- A name itself, or the first with a number from 2 on that is not taken. -/
def fresh (taken : List String) (base : String) : String :=
  if base ∈ taken then numbered base taken 2 else base

/-! Methods. -/

def segmentName (segment : List Char) : String :=
  match segment with
  | '\x7b' :: rest =>
    if rest.getLast? = some '\x7d' then "By" ++ pascalCase (String.ofList rest.dropLast)
    else pascalCase (String.ofList segment)
  | _ => pascalCase (String.ofList segment)

def methodName (m : Method) (path : String) : String :=
  let segments := (path.toList.splitOn '/').filter fun s => !s.isEmpty
  let name := String.join (segments.map segmentName)
  m.lowerName ++ if name = "" then "Root" else name

end CurlScribe.Java
