import CurlScribe.Web.Domain.ClassTable
import CurlScribe.Web.Domain.Composition
import CurlScribe.Web.Domain.Mapping

/-! Which labels a domain name may have. -/
namespace CurlScribe.Domain

def nonspacing : List (Nat × Nat) := pairs (numbers nonspacingText)

def spacing : List (Nat × Nat) := pairs (numbers spacingText)

def isMark (n : Nat) : Bool := 0x80 ≤ n && (inRanges nonspacing n || inRanges spacing n)

/-! Joiners. -/

def joining : List (Nat × Nat × Nat) := triples (numbers joiningText)

def joinsBefore (n : Nat) : Bool :=
  match classIn? joining n with
  | some 0 => true
  | some 2 => true
  | _ => false

def joinsAfter (n : Nat) : Bool :=
  match classIn? joining n with
  | some 0 => true
  | some 1 => true
  | _ => false

def nonJoiner : Nat := 0x200C
def joiner : Nat := 0x200D

/-- The combining class of signs that strip a consonant of its vowel. -/
def viramaClass : Nat := 9

def afterVirama (before : List Nat) : Bool :=
  match before with
  | n :: _ => combiningClass n == viramaClass
  | [] => false

/-- The nearest character that is no mark satisfies a condition. -/
def nearest (p : Nat → Bool) (ns : List Nat) : Bool :=
  match ns.dropWhile (inRanges nonspacing) with
  | n :: _ => p n
  | [] => false

/-- A joiner stands after a virama; a non-joiner there or between letters that join. What comes
before is given backwards. -/
def joinersFit (before : List Nat) : List Nat → Bool
  | [] => true
  | n :: rest =>
    (if n = joiner then afterVirama before
      else if n = nonJoiner then
        afterVirama before || (nearest joinsBefore before && nearest joinsAfter rest)
      else true) && joinersFit (n :: before) rest

/-! Directions. -/

inductive Direction where
  | leftToRight
  | rightToLeft
  | arabicLetter
  | arabicNumber
  | number
  | separator
  | commonSeparator
  | terminator
  | neutral
  | boundary
  | mark
deriving DecidableEq

/-- The directions in the order of the table. -/
def Direction.all : List Direction :=
  [rightToLeft, arabicLetter, arabicNumber, number, separator, commonSeparator, terminator, neutral,
    boundary, mark]

def directions : List (Nat × Nat × Nat) := triples (numbers directionText)

def direction (n : Nat) : Direction :=
  ((classIn? directions n).bind fun k => Direction.all[k]?).getD .leftToRight

/-- Characters that make a whole name follow the rules of direction; none of them is ASCII. -/
def runsRightToLeft (n : Nat) : Bool :=
  0x80 ≤ n && [Direction.rightToLeft, .arabicLetter, .arabicNumber].contains (direction n)

/-- The last direction, marks aside. -/
def lastDirection? (ds : List Direction) : Option Direction :=
  (ds.reverse.dropWhile (· == .mark)).head?

/-- A label keeps to one direction throughout. -/
def directionsFit (ns : List Nat) : Bool :=
  let ds := ns.map direction
  let last := lastDirection? ds
  match ds with
  | [] => true
  | first :: _ =>
    if first == .rightToLeft || first == .arabicLetter then
      (ds.all fun d => d != .leftToRight) &&
        (last == some .rightToLeft || last == some .arabicLetter || last == some .number ||
          last == some .arabicNumber) &&
        !(ds.contains .number && ds.contains .arabicNumber)
    else if first == .leftToRight then
      (ds.all fun d => d != .rightToLeft && d != .arabicLetter && d != .arabicNumber) &&
        (last == some .leftToRight || last == some .number)
    else false

/-! Labels. -/

/-- The mark of labels that are written in ASCII for another text. -/
def codedPrefix : List Nat := "xn--".toList.map Char.toNat

/-- A label that stands as it is: composed, of kept characters, starting with no mark, its joiners
in place. -/
def isSound (label : List Nat) : Bool :=
  normalForm label == label && label.all isKept && !(label.head?.map isMark).getD false &&
    joinersFit [] label && !codedPrefix.isPrefixOf label

end CurlScribe.Domain
