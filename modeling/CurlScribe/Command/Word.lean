import CurlScribe.Text.Blank

/-! Cutting a command line into words. Quotes group blanks and stay in the words. -/
namespace CurlScribe.Word

structure Quoting where
  /-- Single quotes group as well. -/
  single : Bool := false
  /-- A quote that is never closed is refused; otherwise it takes the rest of the line. -/
  strict : Bool := false
deriving DecidableEq

/-- A quote that has been opened, and the byte at which it stands. -/
structure OpenQuote where
  mark : Char
  position : Nat
deriving DecidableEq

inductive Piece where
  | gap
  | letter (c : Char)
deriving DecidableEq

/-- One character outside and inside quotes: the piece it is, and the quote it leaves open. A
backslash at the end of a line reaches here as a blank. -/
def advance (single : Bool) (openQuote : Option OpenQuote) (position : Nat) (c : Char) :
    Piece × Option OpenQuote :=
  match openQuote with
  | some q => (.letter c, if c = q.mark then none else some q)
  | none =>
    if Text.isBlank c then (.gap, none)
    else if c = '"' || (c = '\'' && single) then (.letter c, some ⟨c, position⟩)
    else (.letter c, none)

/-- The pieces of a line from a byte position on, and the quote that is open at its end. A line
continuation counts as one blank. Between double quotes a backslash shields the next character. -/
def scan (single : Bool) (openQuote : Option OpenQuote) (position : Nat) :
    List Char → List Piece × Option OpenQuote
  | [] => ([], openQuote)
  | '\\' :: '\n' :: rest =>
    let (piece, next) := advance single openQuote position ' '
    let (pieces, final) := scan single next (position + 2) rest
    (piece :: pieces, final)
  | '\\' :: '\x0d' :: '\n' :: rest =>
    let (piece, next) := advance single openQuote position ' '
    let (pieces, final) := scan single next (position + 3) rest
    (piece :: pieces, final)
  | '\\' :: c :: rest =>
    if (openQuote.map OpenQuote.mark) = some '"' then
      let (pieces, final) := scan single openQuote (position + 1 + c.utf8Size) rest
      (.letter '\\' :: .letter c :: pieces, final)
    else
      let (pieces, final) := scan single openQuote (position + 1) (c :: rest)
      (.letter '\\' :: pieces, final)
  | c :: rest =>
    let (piece, next) := advance single openQuote position c
    let (pieces, final) := scan single next (position + c.utf8Size) rest
    (piece :: pieces, final)

def words : List Piece → List (List Char)
  | [] => []
  | .gap :: rest => words rest
  | .letter c :: .letter d :: rest =>
    match words (.letter d :: rest) with
    | w :: ws => (c :: w) :: ws
    | [] => [[c]]
  | .letter c :: rest => [c] :: words rest

def split (single : Bool) (line : List Char) : List (List Char) × Option OpenQuote :=
  let (pieces, final) := scan single none 0 line
  (words pieces, final)

def ofLine (quoting : Quoting) (line : String) : Except OpenQuote (List String) :=
  let (ws, final) := split quoting.single line.toList
  match final with
  | some q => if quoting.strict then .error q else .ok (ws.map String.ofList)
  | none => .ok (ws.map String.ofList)

/-- The characters that a backslash shields between double quotes. -/
def isShielded (c : Char) : Bool := c == '"' || c == '\\' || c == '$' || c == '\x60'

def unshield : List Char → List Char
  | [] => []
  | '\\' :: c :: rest =>
    if isShielded c then c :: unshield rest else '\\' :: unshield (c :: rest)
  | c :: rest => c :: unshield rest

def dropFinal (q : Char) (cs : List Char) : List Char :=
  if cs.getLast? = some q then cs.dropLast else cs

/-- The text that a word stands for: one pair of quotes around it is taken off, even when the
second is missing, and with double quotes the shielding as well. -/
def unquote : List Char → List Char
  | '"' :: rest => unshield (dropFinal '"' rest)
  | '\'' :: rest => dropFinal '\'' rest
  | cs => cs

def unquoted (word : String) : String := String.ofList (unquote word.toList)

def needsQuotes (c : Char) : Bool :=
  [' ', '\t', '\n', '\x0d', '|', '&', ';', '<', '>', '(', ')', '$', '\x60', '\\', '"', '\'', '*',
    '?', '[', ']', '#', '~', '=', '%', '\x7b', '\x7d'].contains c

def shield (cs : List Char) : List Char :=
  cs.flatMap fun c => if isShielded c then ['\\', c] else [c]

/-- A word that stands for this text, in double quotes where it needs them. -/
def quote (cs : List Char) : List Char :=
  if cs.isEmpty || cs.any needsQuotes then '"' :: shield cs ++ ['"'] else cs

def quoted (text : String) : String := String.ofList (quote text.toList)

end CurlScribe.Word
