import CurlScribe.Web.Domain.MappingTable
import CurlScribe.Web.Domain.Table

/-! What becomes of each character of a domain name: it is kept, dropped, replaced or refused. -/
namespace CurlScribe.Domain

def refused : List (Nat × Nat) := pairs (numbers refusedText)

def dropped : List (Nat × Nat) := pairs (numbers droppedText)

def shifted : List (Nat × Nat × Nat × Nat) := quadruples (numbers shiftedText)

def single : List (Nat × Nat) := pairs (numbers singleText)

def several : List (Nat × List Nat) :=
  let ns := numbers severalText
  rows ns.length ns

/-- The replacement in a run of characters. -/
def shift? (n : Nat) : Option Nat :=
  (shifted.find? fun (first, last, step, _) =>
    first ≤ n && n ≤ last && (n - first) % step == 0).map fun (first, _, _, target) =>
      target + (n - first)

/-- What stands for a character, unless it is refused. Letters are folded to small ones. -/
def mapped? (n : Nat) : Option (List Nat) :=
  if n < 0x80 then some [if 0x41 ≤ n && n ≤ 0x5A then n + 0x20 else n]
  else if inRanges refused n then none
  else if inRanges dropped n then some []
  else
    match single.lookup n, shift? n, several.lookup n with
    | some m, _, _ => some [m]
    | _, some m, _ => some [m]
    | _, _, some ms => some ms
    | _, _, _ => some [n]

/-- A character that stands for itself. -/
def isKept (n : Nat) : Bool := n.isValidChar && mapped? n == some [n]

def mapAll? : List Nat → Option (List Nat)
  | [] => some []
  | n :: rest =>
    match mapped? n, mapAll? rest with
    | some ms, some tail => some (ms ++ tail)
    | _, _ => none

end CurlScribe.Domain
