import CurlScribe.Request.ParamList
import CurlScribe.Text.Blank
import CurlScribe.Web.Form
import CurlScribe.Web.Host

/-! Web addresses that have a host: scheme, host, port, path and query. -/
namespace CurlScribe

structure Address where
  scheme : List Char
  host : Host
  /-- Left out where it is the usual one of the scheme. -/
  port : Option Nat
  /-- Escaped, with its leading slash, or empty. -/
  path : List Char
  /-- Escaped, without the question mark. -/
  query : List Char

namespace Address

/-- Special schemes give their hosts a meaning, take backslashes for slashes and have a usual
port. -/
inductive Kind where
  | special (port : Nat)
  | file
  | other
deriving DecidableEq

def Kind.ofScheme (scheme : String) : Kind :=
  match scheme with
  | "http" => .special 80
  | "ws" => .special 80
  | "https" => .special 443
  | "wss" => .special 443
  | "ftp" => .special 21
  | "file" => .file
  | _ => .other

def Kind.isSpecial (k : Kind) : Bool := k != .other

def Kind.usualPort : Kind → Option Nat
  | .special port => some port
  | _ => none

def isSchemeChar (c : Char) : Bool :=
  c.isAlpha || c.isDigit || c == '+' || c == '-' || c == '.'

/-- The scheme in lower case, and what follows its colon. -/
def cutScheme? (cs : List Char) : Option (List Char × List Char) :=
  let scheme := cs.takeWhile isSchemeChar
  match scheme, cs.dropWhile isSchemeChar with
  | c :: _, ':' :: rest => if c.isAlpha then some (scheme.map Char.toLower, rest) else none
  | _, _ => none

/-- Controls and spaces around an address do not belong to it, nor do tabs and line ends anywhere
in it. -/
def tidy (cs : List Char) : List Char :=
  let margin (c : Char) : Bool := c.toNat ≤ 0x20
  let inner := ((cs.dropWhile margin).reverse.dropWhile margin).reverse
  inner.filter fun c => c != '\t' && c != '\n' && c != '\x0d'

def isSlash (k : Kind) (c : Char) : Bool := c == '/' || (c == '\\' && k.isSpecial)

/-- Ends the part of an address that names the host. -/
def endsAuthority (k : Kind) (c : Char) : Bool := isSlash k c || c == '?' || c == '#'

/-- What follows the last `@`. -/
def afterCredentials (cs : List Char) : List Char :=
  (cs.reverse.takeWhile (· != '@')).reverse

/-- Cuts at the first colon outside square brackets. -/
def cutPort (bracketed : Bool) : List Char → List Char × Option (List Char)
  | [] => ([], none)
  | c :: rest =>
    if c == ':' && !bracketed then ([], some rest)
    else
      let inside := if c == '[' then true else if c == ']' then false else bracketed
      let (host, port) := cutPort inside rest
      (c :: host, port)

/-- The digits of a port, and what follows them; a backslash ends them under any scheme. -/
def readPort? (cs : List Char) : Option (Option Nat × List Char) :=
  let digits := cs.takeWhile Char.isDigit
  let rest := cs.dropWhile Char.isDigit
  let n := digitsValue 0 digits
  if 65535 < n || !(rest.isEmpty || rest.head? == some '\\') then none
  else some (if digits.isEmpty then none else some n, rest)

/-! Paths. -/

/-- A segment that stands for the folder itself. -/
def isSingleDot (segment : List Char) : Bool :=
  let s := String.ofList (segment.map Char.toLower)
  s == "." || s == "%2e"

/-- A segment that stands for the folder above. -/
def isDoubleDot (segment : List Char) : Bool :=
  let s := String.ofList (segment.map Char.toLower)
  s == ".." || s == ".%2e" || s == "%2e." || s == "%2e%2e"

/-- A letter and a colon or bar, which no step upwards leaves. -/
def isDriveLetter (segment : List Char) : Bool :=
  match segment with
  | [a, b] => a.isAlpha && (b == ':' || b == '|')
  | _ => false

def stepUp (folders : List (List Char)) : List (List Char) :=
  match folders.getLast? with
  | some last => if isDriveLetter last then folders else folders.dropLast
  | none => []

/-- Follows segments from a folder; the last segment is not a folder. -/
def walk (folders : List (List Char)) : List (List Char) → List (List Char)
  | [] => folders ++ [[]]
  | [last] =>
    if isDoubleDot last then stepUp folders ++ [[]]
    else if isSingleDot last then folders ++ [[]]
    else folders ++ [last]
  | segment :: rest =>
    if isDoubleDot segment then walk (stepUp folders) rest
    else if isSingleDot segment then walk folders rest
    else walk (folders ++ [segment]) rest

/-- Splits a path at its slashes. -/
def segments (k : Kind) (cs : List Char) : List (List Char) :=
  (cs.map fun c => if isSlash k c then '/' else c).splitOn '/'

def pathText (segments : List (List Char)) : List Char := segments.flatMap ('/' :: ·)

/-- The segments of the path that follows a host, escaped, with dot segments resolved. -/
def pathSegments (k : Kind) (cs : List Char) : List (List Char) :=
  let inner :=
    match cs with
    | c :: rest => if isSlash k c then rest else cs
    | [] => []
  walk [] ((segments k inner).map (Percent.encode Percent.inPath))

/-- A path of files starts with one slash. -/
def tidySegments (k : Kind) (segments : List (List Char)) : List (List Char) :=
  if k = .file then
    match segments.dropWhile List.isEmpty with
    | [] => [[]]
    | kept => kept
  else segments

/-- Under other schemes an address may have no path at all. -/
def readPath (k : Kind) (cs : List Char) : List Char :=
  if cs.isEmpty && !k.isSpecial then [] else pathText (tidySegments k (pathSegments k cs))

/-- A file on a drive has no host. -/
def startsWithDrive (k : Kind) (cs : List Char) : Bool :=
  k == .file && ((pathSegments k cs).head?.map isDriveLetter).getD false

/-! Reading an address. -/

/-- The host part: host and port, and what of it belongs to the path. -/
def readAuthority? (k : Kind) (authority : List Char) :
    Option (Host × Option Nat × List Char) :=
  match k with
  | .file => do
    if isDriveLetter authority then none
    else
      let host ← Host.ofSpecial? authority
      if host = .name "localhost".toList then none else some (host, none, [])
  | _ => do
    let (hostText, portText) := cutPort false (afterCredentials authority)
    if hostText.isEmpty then none
    else
      let host ← if k.isSpecial then Host.ofSpecial? hostText else Host.ofOpaque? hostText
      match portText with
      | none => some (host, none, [])
      | some digits =>
        let (port, rest) ← readPort? digits
        if k.isSpecial && !rest.isEmpty then none
        else some (host, if port = k.usualPort then none else port, rest)

/-- What follows the slashes before the host, if there are slashes enough. -/
def afterSlashes? (k : Kind) (cs : List Char) : Option (List Char) :=
  match k with
  | .special _ => some (cs.dropWhile (isSlash k))
  | _ =>
    match cs with
    | a :: b :: rest => if isSlash k a && isSlash k b then some rest else none
    | _ => none

/-- Reads an address; none without a host counts as one. -/
def ofChars? (cs : List Char) : Option Address := do
  let (scheme, afterColon) ← cutScheme? (tidy cs)
  let kind := Kind.ofScheme (String.ofList scheme)
  let rest ← afterSlashes? kind afterColon
  let authority := rest.takeWhile fun c => !endsAuthority kind c
  let (host, port, early) ← readAuthority? kind authority
  let tail := early ++ rest.dropWhile fun c => !endsAuthority kind c
  let pathPart := tail.takeWhile fun c => c != '?' && c != '#'
  if startsWithDrive kind pathPart then none
  else
    let query :=
      match tail.dropWhile fun c => c != '?' && c != '#' with
      | '?' :: q => q.takeWhile (· != '#')
      | _ => []
    return {
      scheme, host, port
      path := readPath kind pathPart
      query := Percent.encode (Percent.inQuery kind.isSpecial) query }

def ofText? (s : String) : Option Address := ofChars? s.toList

/-- Scheme, host and port. -/
def base (a : Address) : List Char :=
  a.scheme ++ [':', '/', '/'] ++ a.host.text ++
    match a.port with
    | some n => ':' :: decimalDigits n
    | none => []

/-- The path with plain characters unescaped, and a slash where it is empty. -/
def endpoint (a : Address) : List Char :=
  let p := Percent.relax a.path
  if p.isEmpty then ['/'] else p

def queryParams (a : Address) : ParamList := ParamList.ofPairs (Form.decode a.query)

end Address

/-- An address taken apart, or a text that is no address kept whole as the base. -/
structure Location where
  baseUrl : String
  endpoint : String
  queryParams : ParamList
  isAddress : Bool

namespace Location

def ofText (s : String) : Location :=
  let s := Text.trimmed s
  match Address.ofText? s with
  | some a => ⟨String.ofList a.base, String.ofList a.endpoint, a.queryParams, true⟩
  | none => ⟨s, "/", .empty, false⟩

/-- Base and endpoint with exactly one slash between them, unless the endpoint is empty. -/
def join (base endpoint : String) : String :=
  let b := base.toList
  let e := endpoint.toList
  let joined :=
    match b.getLast? == some '/', e with
    | true, '/' :: rest => b ++ rest
    | true, _ => b ++ e
    | false, [] => b
    | false, '/' :: _ => b ++ e
    | false, _ => b ++ '/' :: e
  String.ofList joined

end Location

end CurlScribe
