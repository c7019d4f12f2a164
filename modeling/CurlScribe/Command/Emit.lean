import CurlScribe.Command.Option
import CurlScribe.Command.Word
import CurlScribe.Request.Basic
import CurlScribe.Web.Address

/-! The command line of a request. -/
namespace CurlScribe

/-- How a command line is written. -/
structure EmitOptions where
  /-- All on one line, however long it is. -/
  compact : Bool := false
  verbose : Bool := false
  insecure : Bool := false

namespace Command

/-- An option as it is written: alone, or with a value that is quoted where it has to be. -/
inductive Part where
  | switch (word : String)
  | option (name value : String)

def Part.text : Part → String
  | switch word => word
  | option name value => name ++ " " ++ Word.quoted value

/-- The method is left out where reading the command implies it. -/
def methodParts (r : Request) : List Part :=
  let hasPayload := r.spokenBody.isSome || !r.formData.enabled.isEmpty
  if r.method ≠ .get ∨ (hasPayload ∧ !r.flag "get") then [.option "-X" r.method.name] else []

def headerParts (r : Request) : List Part :=
  r.headers.enabled.map fun p => .option "-H" (p.key ++ ": " ++ p.value)

/-- All cookies go into one option. -/
def cookieParts (r : Request) : List Part :=
  match r.cookies.enabled with
  | [] => []
  | cookies => [.option "-b" ("; ".intercalate (cookies.map fun p => p.key ++ "=" ++ p.value))]

def authParts (r : Request) : List Part :=
  match r.enabledScheme with
  | some (.basic username password) => [.option "-u" (username ++ ":" ++ password)]
  | some (.bearer token) => [.option "--oauth2-bearer" token]
  | some .none => []
  | none => []

def formParts (r : Request) : List Part :=
  r.formData.enabled.map fun p => .option "-F" (p.key ++ "=" ++ p.value)

/-- An option that is written when it has a value. -/
def optionalPart (name : String) (value : Option String) : List Part :=
  (value.map (Part.option name)).toList

def bodyParts (r : Request) : List Part := optionalPart "-d" (r.spokenBody.map Body.raw)

def identityParts (r : Request) : List Part :=
  optionalPart "-x" r.proxy ++ optionalPart "-A" r.userAgent ++ optionalPart "-e" r.referer

/-- Whether a switch is written. -/
def isWritten (options : EmitOptions) (r : Request) (s : Switch) : Bool :=
  r.flag s.flag || (s.flag == "verbose" && options.verbose) ||
    (s.flag == "insecure" && options.insecure)

def switchParts (options : EmitOptions) (r : Request) : List Part :=
  (Switch.all.filter (isWritten options r)).map fun s => .switch s.long

def realText (x : Binary64) : String := String.ofList x.plainText

def countText (n : UInt32) : String := String.ofList (decimalDigits n.toNat)

def integerText (n : Int32) : String :=
  String.ofList
    (if n < 0 then '-' :: decimalDigits n.toInt.natAbs else decimalDigits n.toInt.natAbs)

/-- A plain timeout is written as the time for the whole transfer, unless there is one. -/
def networkParts (n : Network) : List Part :=
  optionalPart "--connect-timeout" (n.connectTimeout.map realText) ++
    optionalPart "--max-time" ((n.maxTime.or n.timeout).map realText) ++
    optionalPart "--retry" (n.retry.map countText) ++
    optionalPart "--retry-delay" (n.retryDelay.map realText) ++
    optionalPart "--retry-max-time" (n.retryMaxTime.map realText) ++
    optionalPart "--max-redirs" (n.maxRedirects.map integerText)

def tlsParts (t : Tls) : List Part :=
  optionalPart "--cert" t.cert ++ optionalPart "--key" t.key ++ optionalPart "--cacert" t.caCert ++
    optionalPart "--capath" t.caPath ++
    ((t.version.bind TlsVersion.option?).map Part.switch).toList

/-- Everything that is written before the options kept from another command. -/
def optionParts (options : EmitOptions) (r : Request) : List Part :=
  methodParts r ++ headerParts r ++ cookieParts r ++ authParts r ++ formParts r ++ bodyParts r ++
    identityParts r ++ switchParts options r ++ (r.network.map networkParts).getD [] ++
    (r.tls.map tlsParts).getD []

/-- The address put together from its parts, so that parameters that are switched off drop out;
a base that is no address gives the address as it was given. -/
def address (r : Request) : String :=
  match Address.ofText? r.baseUrl with
  | none => r.url
  | some _ =>
    let query := Form.encode (r.queryParams.enabled.map fun p => (p.key, p.value))
    let joined := Location.join r.baseUrl r.endpoint
    if query.isEmpty then joined else joined ++ "?" ++ String.ofList query

/-- The texts that make a command. What is kept from another command is written as it was. -/
def texts (options : EmitOptions) (r : Request) : List String :=
  "curl" :: (optionParts options r).map Part.text ++ r.rawOptions ++ [Word.quoted (address r)]

/-- The longest command, in bytes, that stays on one line. -/
def lineLimit : Nat := 80

/-- What stands between the texts of a command: a blank, or the end of a line in a command that is
not short. -/
def separator (options : EmitOptions) (r : Request) : String :=
  if options.compact ∨ (" ".intercalate (texts options r)).utf8ByteSize ≤ lineLimit then " "
  else " \\\n  "

def emit (options : EmitOptions) (r : Request) : String :=
  (separator options r).intercalate (texts options r)

end Command

end CurlScribe
