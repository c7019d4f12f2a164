/-! Tables of numbers written out as text. -/
namespace CurlScribe.Domain

/-- The value of a capital hexadecimal digit. -/
def tableDigit (c : Char) : Nat := if c.isDigit then c.toNat - 0x30 else c.toNat - 0x37

/-- The hexadecimal numbers between blanks; `current` is the one that is being read. -/
def numbersFrom (current : Option Nat) : List Char → List Nat
  | [] => current.toList
  | c :: rest =>
    if c == ' ' || c == '\n' then current.toList ++ numbersFrom none rest
    else numbersFrom (some (16 * current.getD 0 + tableDigit c)) rest

def numbers (s : String) : List Nat := numbersFrom none s.toList

def pairs : List Nat → List (Nat × Nat)
  | a :: b :: rest => (a, b) :: pairs rest
  | _ => []

def triples : List Nat → List (Nat × Nat × Nat)
  | a :: b :: c :: rest => (a, b, c) :: triples rest
  | _ => []

def quadruples : List Nat → List (Nat × Nat × Nat × Nat)
  | a :: b :: c :: d :: rest => (a, b, c, d) :: quadruples rest
  | _ => []

/-- A row says first how many numbers follow its key. -/
def rows (fuel : Nat) : List Nat → List (Nat × List Nat)
  | n :: key :: rest =>
    match fuel with
    | 0 => []
    | fuel + 1 => (key, rest.take n) :: rows fuel (rest.drop n)
  | _ => []

def inRanges (ranges : List (Nat × Nat)) (n : Nat) : Bool :=
  ranges.any fun (first, last) => first ≤ n && n ≤ last

/-- The class of the range that holds a number. -/
def classIn? (ranges : List (Nat × Nat × Nat)) (n : Nat) : Option Nat :=
  (ranges.find? fun (first, last, _) => first ≤ n && n ≤ last).map fun (_, _, k) => k

end CurlScribe.Domain
