import CurlScribe.Number.Decimal

/-! Numbers as they are given on a command line. -/
namespace CurlScribe.Argument

/-- A sign, where there is one: whether it is a minus, and what follows it. -/
def cutSign : List Char → Bool × List Char
  | '+' :: rest => (false, rest)
  | '-' :: rest => (true, rest)
  | cs => (false, cs)

def power? : List Char → Option Int
  | [] => some 0
  | e :: rest =>
    let (minus, digits) := cutSign rest
    if (e == 'e' || e == 'E') && !digits.isEmpty && digits.all Char.isDigit then
      let n : Int := digitsValue 0 digits
      some (if minus then -n else n)
    else none

/-- A numeral without its sign: digits with a point anywhere among them, and perhaps a power. -/
def decimal? (cs : List Char) : Option Decimal :=
  let whole := cs.takeWhile Char.isDigit
  let (fraction, tail) :=
    match cs.dropWhile Char.isDigit with
    | '.' :: rest => (rest.takeWhile Char.isDigit, rest.dropWhile Char.isDigit)
    | rest => ([], rest)
  if whole.isEmpty && fraction.isEmpty then none
  else
    (power? tail).map fun p => ⟨digitsValue 0 (whole ++ fraction), p - fraction.length⟩

/-- The nearest binary64 of a numeral, or a name of infinity or of no number in any case. -/
def real? (cs : List Char) : Option Binary64 :=
  let (negative, body) := cutSign cs
  let word := String.ofList (body.map Char.toLower)
  if word == "inf" || word == "infinity" then some (.infinity negative)
  else if word == "nan" then some .notANumber
  else (decimal? body).map fun d => ⟨negative, d.rank⟩

def natural? (cs : List Char) : Option Nat :=
  if !cs.isEmpty && cs.all Char.isDigit then some (digitsValue 0 cs) else none

/-- A whole number below 2^32; a plus sign is allowed. -/
def count32? (cs : List Char) : Option UInt32 :=
  let digits :=
    match cs with
    | '+' :: rest => rest
    | _ => cs
  (natural? digits).bind fun n => if n < 0x100000000 then some (UInt32.ofNat n) else none

def integer32? (cs : List Char) : Option Int32 :=
  let (negative, digits) := cutSign cs
  (natural? digits).bind fun n =>
    let v : Int := if negative then -n else n
    if -0x80000000 ≤ v ∧ v < 0x80000000 then some (Int32.ofInt v) else none

end CurlScribe.Argument
