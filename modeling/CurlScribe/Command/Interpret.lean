import CurlScribe.Command.Option
import CurlScribe.Command.Word
import CurlScribe.Number.Argument
import CurlScribe.Request.Draft

/-! What the words of a command line say about a request. Nothing here fails: what cannot be used
is kept as it is or passed over. -/
namespace CurlScribe

structure CommandOptions where
  quoting : Word.Quoting := {}
  repeatedHeaders : Repeated := .lastWins

namespace Command

/-- The parts before and after the first occurrence of a character. -/
def cutAt? (c : Char) (cs : List Char) : Option (List Char × List Char) :=
  match cs.dropWhile (· != c) with
  | _ :: after => some (cs.takeWhile (· != c), after)
  | [] => none

inductive Reading where
  | argument
  | option (o : ValueOption)
  | switches (flags : List String)
  | tls (version : String)
  | inline (o : ValueOption) (name value : String)
  | unknown

def isOption : List Char → Bool
  | '-' :: _ :: _ => true
  | _ => false

def readInline? (word : String) : Option Reading := do
  let (name, value) ← ValueOption.cutInline? word.toList
  let o ← ValueOption.ofWord? (String.ofList name)
  return .inline o (String.ofList name) (Word.unquoted (String.ofList value))

def read (word : String) : Reading :=
  if !isOption word.toList then .argument
  else
    match ValueOption.ofWord? word with
    | some o => .option o
    | none =>
    match Switch.ofWord? word with
    | some s => .switches [s.flag]
    | none =>
    match TlsVersion.ofWord? word with
    | some version => .tls version
    | none =>
    match readInline? word with
    | some reading => reading
    | none =>
    match Switch.cluster? word.toList with
    | some switches => .switches (switches.map Switch.flag)
    | none => .unknown

/-- Options and arguments that say nothing about the request are kept in order. -/
def keep (words : List String) (d : Draft) : Draft := { d with rawOptions := d.rawOptions ++ words }

/-- A header line without a name is passed over. -/
def addHeader (policy : Repeated) (value : List Char) (d : Draft) : Draft :=
  match cutAt? ':' value with
  | some (name, rest) =>
    let name := Text.trim name
    if name.isEmpty then d
    else
      let headers := d.headers.insertWith policy (String.ofList name)
        (String.ofList (Text.trim rest))
      { d with headers }
  | none => d

/-- Name and password, the password empty where there is no colon. -/
def readUser (value : List Char) : Auth :=
  match cutAt? ':' value with
  | some (name, password) => .basic (String.ofList name) (String.ofList password)
  | none => .basic (String.ofList value) ""

def addFormField (value : List Char) (d : Draft) : Draft :=
  let (name, rest) := (cutAt? '=' value).getD (value, [])
  let formData := d.formData.insert (String.ofList (Text.trim name)) (String.ofList rest)
  { d with formData }

/-- Name and value of a cookie; there is none without an `=`. -/
def readCookie? (part : List Char) : Option (String × String) :=
  match cutAt? '=' part with
  | some (name, rest) => some (String.ofList (Text.trim name), String.ofList (Text.trim rest))
  | none => none

def readCookies (value : List Char) : List (String × String) :=
  (value.splitOn ';').filterMap readCookie?

/-- A value without any `=` names a file of cookies, which says nothing about the request. -/
def addCookies (name value : String) (d : Draft) : Draft :=
  if value.toList.contains '=' then
    let cookies := (readCookies value.toList).foldl (fun l (k, v) => l.insert k v) d.cookies
    { d with cookies }
  else keep [name, value] d

/-- What an option with a value says. An unknown method is passed over; a number that does not
read leaves its setting absent. -/
def apply (policy : Repeated) (o : ValueOption) (name value : String) (d : Draft) : Draft :=
  let cs := value.toList
  let number := Text.trim cs
  match o with
  | .request =>
    match Method.ofText? value with
    | some m => { d with method := some m }
    | none => d
  | .header => addHeader policy cs d
  | .data => { d with body := some (.ofText value) }
  | .user => { d with auth := some (readUser cs) }
  | .bearer => { d with auth := some (.bearer value) }
  | .form => addFormField cs d
  | .cookie => addCookies name value d
  | .userAgent => { d with userAgent := some value }
  | .referer => { d with referer := some value }
  | .proxy => { d with proxy := some value }
  | .url => if d.url.isNone then { d with url := some value } else keep [name, value] d
  | .maxTime => { d with network := { d.network with maxTime := Argument.real? number } }
  | .connectTimeout =>
    { d with network := { d.network with connectTimeout := Argument.real? number } }
  | .retry => { d with network := { d.network with retry := Argument.count32? number } }
  | .retryDelay => { d with network := { d.network with retryDelay := Argument.real? number } }
  | .retryMaxTime =>
    { d with network := { d.network with retryMaxTime := Argument.real? number } }
  | .maxRedirects =>
    { d with network := { d.network with maxRedirects := Argument.integer32? number } }
  | .cert => { d with tls := { d.tls with cert := some value } }
  | .key => { d with tls := { d.tls with key := some value } }
  | .caCert => { d with tls := { d.tls with caCert := some value } }
  | .caPath => { d with tls := { d.tls with caPath := some value } }
  | .inert => keep [name, value] d

/-- The first argument that looks like an address is the address; all others are kept. -/
def addArgument (word : String) (d : Draft) : Draft :=
  let value := Word.unquote word.toList
  if "http".toList.isPrefixOf value && d.url.isNone then
    { d with url := some (String.ofList value) }
  else keep [word] d

def setFlags (flags : List String) (d : Draft) : Draft :=
  { d with flags := flags.foldl (fun f name => f.set name true) d.flags }

/-- Reads options and arguments one after the other. An option that lacks its value at the end is
passed over. -/
def follow (policy : Repeated) (d : Draft) : List String → Draft
  | [] => d
  | word :: rest =>
    match read word, rest with
    | .option _, [] => d
    | .option o, value :: rest => follow policy (apply policy o word (Word.unquoted value) d) rest
    | .argument, rest => follow policy (addArgument word d) rest
    | .switches flags, rest => follow policy (setFlags flags d) rest
    | .tls version, rest =>
      follow policy { d with tls := { d.tls with version := some version } } rest
    | .inline o name value, rest => follow policy (apply policy o name value d) rest
    | .unknown, rest => follow policy (keep [word] d) rest

/-- The name of the program, in any case and perhaps in quotes. -/
def isProgramName (word : String) : Bool :=
  Text.sameIgnoringCase (Word.unquote word.toList) "curl".toList

/-- What a list of words says; the name of the program at its start says nothing. -/
def interpret (options : CommandOptions) (words : List String) : Draft :=
  match words with
  | word :: rest =>
    if isProgramName word then follow options.repeatedHeaders {} rest
    else follow options.repeatedHeaders {} words
  | [] => {}

end Command

end CurlScribe
