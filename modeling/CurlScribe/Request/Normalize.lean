import CurlScribe.Request.Clean
import CurlScribe.Request.Draft
import CurlScribe.Web.Address
import CurlScribe.Web.Template

/-! From a draft to a request: what is given wins over what can be derived from the address. -/
namespace CurlScribe

inductive RequestError where
  | emptyInput
  | missingUrl
  /-- The quote, and the byte at which it stands. -/
  | unterminatedQuote (mark : Char) (position : Nat)
  | invalidInput (misfit : Misfit)
deriving DecidableEq

namespace RequestError

/-- The text of an error, where it has one of its own. -/
def message? : RequestError → Option String
  | emptyInput => some "Input is empty"
  | missingUrl => some "No URL found in cURL command"
  | unterminatedQuote mark position =>
    some ("Unterminated " ++ mark.toString ++ " quote starting at byte " ++ toString position)
  | invalidInput misfit => misfit.reason?.map ("Invalid request input: " ++ ·)

end RequestError

namespace Draft

def flag (d : Draft) (name : String) : Bool := d.flags.isOn name

def spokenBody (d : Draft) : Option Body := d.body.filter fun b => !b.isBlank

/-- With the flag `get` the body becomes query parameters. -/
def keptBody (d : Draft) : Option Body := if d.flag "get" then none else d.spokenBody

def bodyPairs (d : Draft) : List (String × String) :=
  if d.flag "get" then
    match d.spokenBody with
    | some b => Form.decode b.raw.toList
    | none => []
  else []

def impliedMethod (d : Draft) : Method :=
  if d.flag "head" then .head
  else if d.keptBody.isSome || !d.formData.isEmpty then .post
  else .get

/-- The request of a draft, before its empty content is dropped. -/
def assemble (d : Draft) : Except RequestError Request :=
  let givenUrl := Text.nonBlank d.url
  let location := givenUrl.map Location.ofText
  match (Text.nonBlank d.baseUrl).or (location.map Location.baseUrl) with
  | none => .error .missingUrl
  | some baseUrl =>
    let endpoint :=
      ((Text.nonBlank d.endpoint).or (location.map Location.endpoint)).getD "/"
    let (template, slots) := Template.ofEndpoint endpoint
    let query :=
      if d.queryParams.isEmpty then (location.map Location.queryParams).getD .empty
      else d.queryParams
    let network := Network.merge d.network (d.networkGroup.getD {})
    let tls := Tls.merge d.tls (d.tlsGroup.getD {})
    .ok {
      method := d.method.getD d.impliedMethod
      url := givenUrl.getD (Location.join baseUrl endpoint)
      baseUrl
      endpoint
      pathTemplate := (Text.nonBlank d.pathTemplate).getD template
      pathParameters := (d.pathParameters.filter fun ps => !ps.isEmpty).getD slots
      queryParams := d.bodyPairs.foldl (fun l (name, value) => l.insert name value) query
      headers := d.headers
      body := d.keptBody
      formData := d.formData
      cookies := d.cookies
      auth := d.auth
      proxy := Text.nonBlank d.proxy
      userAgent := Text.nonBlank d.userAgent
      referer := Text.nonBlank d.referer
      flags := d.flags
      network := if network.isEmpty then none else some network
      tls := if tls.isEmpty then none else some tls
      rawOptions := d.rawOptions }

def normalize (d : Draft) : Except RequestError Request :=
  match d.assemble with
  | .error e => .error e
  | .ok r =>
    match r.clean with
    | .ok r => .ok r
    | .error e => .error (.invalidInput e)

end Draft

namespace Request

def ofPayload (v : Json) : Except RequestError Request :=
  match Draft.codec.read v with
  | .ok d => d.normalize
  | .error e => .error (.invalidInput e)

end Request

end CurlScribe
