import CurlScribe.Web.Domain.CompositionTable
import CurlScribe.Web.Domain.Table

/-! The composed normal form of texts whose characters a domain name keeps. -/
namespace CurlScribe.Domain

def composed : List (Nat × Nat × Nat) := triples (numbers composedText)

def combiningClasses : List (Nat × Nat × Nat) := triples (numbers combiningText)

def combiningClass (n : Nat) : Nat := if n < 0x80 then 0 else (classIn? combiningClasses n).getD 0

/-! Syllables of Hangul are composed by arithmetic. -/

def firstSyllable : Nat := 0xAC00
def lastSyllable : Nat := 0xD7A3
def firstLead : Nat := 0x1100
def firstVowel : Nat := 0x1161
def beforeTail : Nat := 0x11A7
def leads : Nat := 19
def vowels : Nat := 21
def tails : Nat := 28

def syllableParts (n : Nat) : List Nat :=
  let i := n - firstSyllable
  let letters := [firstLead + i / (vowels * tails), firstVowel + i % (vowels * tails) / tails]
  if i % tails = 0 then letters else letters ++ [beforeTail + i % tails]

def syllable? (a b : Nat) : Option Nat :=
  if firstLead ≤ a && a < firstLead + leads && firstVowel ≤ b && b < firstVowel + vowels then
    some (firstSyllable + ((a - firstLead) * vowels + (b - firstVowel)) * tails)
  else if firstSyllable ≤ a && a ≤ lastSyllable && (a - firstSyllable) % tails == 0 &&
      beforeTail < b && b < beforeTail + tails then
    some (a + (b - beforeTail))
  else none

/-! Taking apart, ordering and composing. -/

/-- No character is composed more deeply than this. -/
def compositionDepth : Nat := 4

/-- The parts of a character that cannot be taken apart any further, given what two parts
compose. -/
def parts (table : List (Nat × Nat × Nat)) (depth n : Nat) : List Nat :=
  match depth with
  | 0 => [n]
  | depth + 1 =>
    if n < 0x80 then [n]
    else if firstSyllable ≤ n && n ≤ lastSyllable then syllableParts n
    else
      match table.lookup n with
      | some (a, b) => parts table depth a ++ parts table depth b
      | none => [n]

/-- Puts a character before others; a mark goes behind marks of lower classes. -/
def place (n : Nat) : List Nat → List Nat
  | [] => [n]
  | m :: rest =>
    if 0 < combiningClass m && combiningClass m < combiningClass n then m :: place n rest
    else n :: m :: rest

/-- Marks in the order of their classes. -/
def orderMarks (ns : List Nat) : List Nat := ns.foldr place []

/-- The character that two others compose. No ASCII character is composed with one before it. -/
def compose? (a b : Nat) : Option Nat :=
  if b < 0x80 then none
  else
    match syllable? a b with
    | some n => some n
    | none => (composed.find? fun (_, x, y) => x == a && y == b).map Prod.fst

/-- Composes what follows a starter. The marks that stay behind it are kept backwards; one of the
same class or a higher one shuts off what follows it. -/
def composeFrom (starter : Nat) (behind : List Nat) : List Nat → List Nat
  | [] => starter :: behind.reverse
  | n :: rest =>
    let reaches :=
      match behind with
      | [] => true
      | m :: _ => combiningClass m < combiningClass n
    match if reaches then compose? starter n else none with
    | some c => composeFrom c behind rest
    | none =>
      if combiningClass n = 0 then starter :: behind.reverse ++ composeFrom n [] rest
      else composeFrom starter (n :: behind) rest

/-- Marks at the start have nothing to be composed with. -/
def composeAll : List Nat → List Nat
  | [] => []
  | n :: rest => if combiningClass n = 0 then composeFrom n [] rest else n :: composeAll rest

/-- The composed normal form. -/
def normalForm (ns : List Nat) : List Nat :=
  composeAll (orderMarks (ns.flatMap (parts composed compositionDepth)))

end CurlScribe.Domain
