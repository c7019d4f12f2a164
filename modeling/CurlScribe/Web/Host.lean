import CurlScribe.Web.Domain
import CurlScribe.Web.Percent

/-! Hosts of addresses: names, IPv4 and IPv6 addresses, and their normal written form. -/
namespace CurlScribe

inductive Host where
  | name (text : List Char)
  | v4 (address : Nat)
  | v6 (pieces : List Nat)
deriving DecidableEq

namespace Host

/-! IPv4. -/

def digitsInBase (base : Nat) (cs : List Char) : Option Nat :=
  cs.foldlM (fun n c =>
    (Percent.hexByte? c.toNat).bind fun d => if d < base then some (base * n + d) else none) 0

/-- A part of an IPv4 address: decimal, octal after `0`, hexadecimal after `0x`, where no digits
at all are zero. -/
def v4Part? : List Char → Option Nat
  | [] => none
  | '0' :: 'x' :: ds => digitsInBase 16 ds
  | '0' :: 'X' :: ds => digitsInBase 16 ds
  | '0' :: d :: ds => digitsInBase 8 (d :: ds)
  | ds => digitsInBase 10 ds

/-- The dot-separated parts, without an empty last one. -/
def dotParts (cs : List Char) : List (List Char) :=
  let parts := cs.splitOn '.'
  if 1 < parts.length && parts.getLast? == some [] then parts.dropLast else parts

/-- A name whose last part is a number must be an IPv4 address. -/
def endsInNumber (cs : List Char) : Bool :=
  match (dotParts cs).getLast? with
  | none => false
  | some last => (!last.isEmpty && last.all Char.isDigit) || (v4Part? last).isSome

/-- The last part fills all the bytes that the parts before it leave over. -/
def v4? (cs : List Char) : Option Nat :=
  match ((dotParts cs).mapM v4Part?).map List.reverse with
  | some (last :: before) =>
    if 3 < before.length || before.any (255 < ·) || Nat.pow 256 (4 - before.length) ≤ last then none
    else
      let high := before.reverse.zipIdx.map fun (n, i) => n * Nat.pow 256 (3 - i)
      some (high.foldl (· + ·) last)
  | _ => none

def v4Text (n : Nat) : List Char :=
  ['.'].intercalate
    [Nat.toDigits 10 (n / 0x1000000 % 256), Nat.toDigits 10 (n / 0x10000 % 256),
      Nat.toDigits 10 (n / 256 % 256), Nat.toDigits 10 (n % 256)]

/-! IPv6. -/

def group? (cs : List Char) : Option Nat :=
  if cs.isEmpty || 4 < cs.length then none else digitsInBase 16 cs

/-- A decimal byte without leading zeros. -/
def byte? (cs : List Char) : Option Nat :=
  if cs.isEmpty || 3 < cs.length || (cs.head? == some '0' && 1 < cs.length) then none
  else (digitsInBase 10 cs).bind fun n => if n < 256 then some n else none

/-- Four decimal bytes, as two groups. -/
def dottedGroups? (cs : List Char) : Option (List Nat) :=
  match (cs.splitOn '.').mapM byte? with
  | some [a, b, c, d] => some [256 * a + b, 256 * c + d]
  | _ => none

/-- Groups between colons; the last may be a dotted address where `tail` says so. -/
def groups? (tail : Bool) : List (List Char) → Option (List Nat)
  | [] => some []
  | [last] =>
    match group? last with
    | some n => some [n]
    | none => if tail then dottedGroups? last else none
  | g :: rest =>
    match group? g, groups? tail rest with
    | some n, some ns => some (n :: ns)
    | _, _ => none

def colonGroups? (tail : Bool) (cs : List Char) : Option (List Nat) :=
  if cs.isEmpty then some [] else groups? tail (cs.splitOn ':')

/-- The parts before and after the first double colon. -/
def cutDoubleColon : List Char → Option (List Char × List Char)
  | [] => none
  | ':' :: ':' :: rest => some ([], rest)
  | c :: rest => (cutDoubleColon rest).map fun (before, after) => (c :: before, after)

/-- Eight groups; a double colon stands for one zero group or more. -/
def v6? (cs : List Char) : Option (List Nat) :=
  match cutDoubleColon cs with
  | none =>
    (colonGroups? true cs).bind fun ns => if ns.length = 8 then some ns else none
  | some (before, after) =>
    match colonGroups? false before, colonGroups? true after with
    | some ms, some ns =>
      if ms.length + ns.length < 8 then
        some (ms ++ List.replicate (8 - ms.length - ns.length) 0 ++ ns)
      else none
    | _, _ => none

/-- The length of the run of zeros at the start. -/
def zeroRun (ns : List Nat) : Nat := (ns.takeWhile (· == 0)).length

/-- The first longest run of at least two zero groups: where it starts and how long it is. -/
def longestZeros (ns : List Nat) : Option (Nat × Nat) :=
  let runs := (List.range ns.length).map fun i => (i, zeroRun (ns.drop i))
  runs.foldl (fun best (i, n) =>
    if 1 < n && (match best with | some (_, m) => m < n | none => true) then some (i, n)
    else best) none

def groupsText (ns : List Nat) : List Char := [':'].intercalate (ns.map (Nat.toDigits 16))

def v6Text (ns : List Nat) : List Char :=
  let inner :=
    match longestZeros ns with
    | some (i, n) => groupsText (ns.take i) ++ [':', ':'] ++ groupsText (ns.drop (i + n))
    | none => groupsText ns
  '[' :: inner ++ [']']

/-! Reading a host. -/

/-- The inside of a pair of square brackets. -/
def bracketed? : List Char → Option (Option (List Nat))
  | '[' :: rest =>
    if rest.getLast? = some ']' then some (v6? rest.dropLast) else some none
  | _ => none

/-- Never part of a host that is kept as it is written. -/
def isForbidden (c : Char) : Bool :=
  ['\x00', '\t', '\n', '\x0d', ' ', '#', '/', ':', '<', '>', '?', '@', '[', '\\', ']', '^',
    '|'].contains c

/-- A host under a scheme that gives it no meaning. -/
def ofOpaque? (cs : List Char) : Option Host :=
  match bracketed? cs with
  | some pieces => pieces.map v6
  | none =>
    if cs.isEmpty || cs.any isForbidden then none
    else some (name (Percent.encode Percent.isControl cs))

/-- A host under a special scheme: a name in its ASCII form, or an address. -/
def ofSpecial? (cs : List Char) : Option Host :=
  match bracketed? cs with
  | some pieces => pieces.map v6
  | none => do
    let decoded ← Text.decodeStrict (Percent.decode (Text.bytes cs))
    let domain ← Domain.toAscii? decoded
    if domain.isEmpty then none
    else if endsInNumber domain then (v4? domain).map v4
    else some (name domain)

def text : Host → List Char
  | name cs => cs
  | v4 n => v4Text n
  | v6 ns => v6Text ns

end Host

end CurlScribe
