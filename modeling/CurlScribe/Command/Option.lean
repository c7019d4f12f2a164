/-! The options of a command line: switches, versions of TLS, and options that take a value. -/
namespace CurlScribe

structure Switch where
  short : Option Char
  long : String
  /-- The name of the flag it sets. -/
  flag : String

namespace Switch

/-- Every switch, in the order in which they are written. -/
def all : List Switch := [
  ⟨none, "--compressed", "compressed"⟩,
  ⟨some 'k', "--insecure", "insecure"⟩,
  ⟨some 'L', "--location", "location"⟩,
  ⟨none, "--http1.0", "http10"⟩,
  ⟨none, "--http1.1", "http11"⟩,
  ⟨none, "--http2", "http2"⟩,
  ⟨none, "--http3", "http3"⟩,
  ⟨some 's', "--silent", "silent"⟩,
  ⟨some 'S', "--show-error", "showError"⟩,
  ⟨some 'v', "--verbose", "verbose"⟩,
  ⟨some 'i', "--include", "include"⟩,
  ⟨some 'I', "--head", "head"⟩,
  ⟨some 'G', "--get", "get"⟩,
  ⟨some 'f', "--fail", "fail"⟩,
  ⟨some 'N', "--no-buffer", "noBuffer"⟩]

def ofLetter? (c : Char) : Option Switch := all.find? fun s => s.short == some c

/-- The switch that a word spells, by its letter or in full. -/
def ofWord? (word : String) : Option Switch :=
  all.find? fun s =>
    (match s.short with
      | some c => word.toList == ['-', c]
      | none => false) || word == s.long

/-- Two letters or more behind one dash, each of them a switch. -/
def cluster? : List Char → Option (List Switch)
  | '-' :: c :: d :: rest => if c = '-' then none else (c :: d :: rest).mapM ofLetter?
  | _ => none

end Switch

namespace TlsVersion

/-- Options that choose a version of TLS, with its name. -/
def all : List (String × String) := [
  ("--tlsv1", "tlsv1"),
  ("--tlsv1.0", "tlsv1.0"),
  ("--tlsv1.1", "tlsv1.1"),
  ("--tlsv1.2", "tlsv1.2"),
  ("--tlsv1.3", "tlsv1.3"),
  ("--sslv2", "sslv2"),
  ("--sslv3", "sslv3")]

def ofWord? (word : String) : Option String := all.lookup word

def option? (version : String) : Option String :=
  (all.find? fun (_, name) => name == version).map Prod.fst

end TlsVersion

/-- An option that takes a value. -/
inductive ValueOption where
  | request
  | header
  | data
  | user
  | bearer
  | form
  | cookie
  | userAgent
  | referer
  | proxy
  | url
  | maxTime
  | connectTimeout
  | retry
  | retryDelay
  | retryMaxTime
  | maxRedirects
  | cert
  | key
  | caCert
  | caPath
  /-- Says nothing about the request. -/
  | inert
deriving DecidableEq

namespace ValueOption

def spellings : List (String × ValueOption) := [
  ("-X", request), ("--request", request),
  ("-H", header), ("--header", header),
  ("-d", data), ("--data", data), ("--data-raw", data), ("--data-binary", data),
  ("--data-ascii", data), ("--data-urlencode", data),
  ("-u", user), ("--user", user),
  ("--oauth2-bearer", bearer),
  ("-F", form), ("--form", form), ("--form-string", form),
  ("-b", cookie), ("--cookie", cookie),
  ("-A", userAgent), ("--user-agent", userAgent),
  ("-e", referer), ("--referer", referer),
  ("-x", proxy), ("--proxy", proxy),
  ("--url", url),
  ("-m", maxTime), ("--max-time", maxTime),
  ("--connect-timeout", connectTimeout),
  ("--retry", retry),
  ("--retry-delay", retryDelay),
  ("--retry-max-time", retryMaxTime),
  ("--max-redirs", maxRedirects),
  ("-E", cert), ("--cert", cert),
  ("--key", key),
  ("--cacert", caCert),
  ("--capath", caPath),
  ("-o", inert), ("--output", inert), ("-w", inert), ("--write-out", inert),
  ("-c", inert), ("--cookie-jar", inert)]

def ofWord? (word : String) : Option ValueOption := spellings.lookup word

/-- A long option up to its `=`, or a short one with its value in the same word: the name and the
value. -/
def cutInline? : List Char → Option (List Char × List Char)
  | '-' :: '-' :: rest =>
    match rest.dropWhile (· != '=') with
    | _ :: value => some ('-' :: '-' :: rest.takeWhile (· != '='), value)
    | [] => none
  | a :: b :: c :: rest => some ([a, b], c :: rest)
  | _ => none

end ValueOption

end CurlScribe
