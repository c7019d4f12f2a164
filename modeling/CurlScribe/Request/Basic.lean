import CurlScribe.Request.Auth
import CurlScribe.Request.Body
import CurlScribe.Request.Flags
import CurlScribe.Request.Method
import CurlScribe.Request.ParamList
import CurlScribe.Request.Settings

/-! One HTTP request in its normal form, and its JSON form. -/
namespace CurlScribe

structure Request where
  method : Method := .get
  /-- The address as it was given. -/
  url : String := ""
  /-- Scheme, host and port, or the whole address where it is none. -/
  baseUrl : String := ""
  endpoint : String := ""
  /-- The endpoint with every placeholder written as a name in braces. -/
  pathTemplate : String := ""
  pathParameters : List String := []
  queryParams : ParamList := .empty
  headers : ParamList := .empty
  body : Option Body := none
  formData : ParamList := .empty
  cookies : ParamList := .empty
  auth : Option Auth := none
  proxy : Option String := none
  userAgent : Option String := none
  referer : Option String := none
  flags : Flags := .empty
  network : Option Network := none
  tls : Option Tls := none
  /-- Options and arguments that say nothing about the request, in order. -/
  rawOptions : List String := []

namespace Request

def flag (r : Request) (name : String) : Bool := r.flags.isOn name

/-- The body, unless it is blank. -/
def spokenBody (r : Request) : Option Body := r.body.filter fun b => !b.isBlank

def contentType (r : Request) : Option String := r.headers.getIgnoringCase? "content-type"

/-- The scheme of credentials that are switched on. -/
def enabledScheme (r : Request) : Option Scheme := (r.auth.filter Auth.enabled).map Auth.scheme

open Json.Field in
/-- The JSON form. A field that is absent is left out. -/
def record : Json.Record Request where
  start := {}
  fields := [
    always "method" Method.codec method fun a r => { r with method := a },
    always "url" .text url fun a r => { r with url := a },
    always "baseUrl" .text baseUrl fun a r => { r with baseUrl := a },
    always "endpoint" .text endpoint fun a r => { r with endpoint := a },
    always "pathTemplate" .text pathTemplate fun a r => { r with pathTemplate := a },
    always "pathParameters" (.list .text) pathParameters fun a r => { r with pathParameters := a },
    always "queryParams" ParamList.codec queryParams fun a r => { r with queryParams := a },
    always "headers" ParamList.codec headers fun a r => { r with headers := a },
    optional "body" Body.codec body fun a r => { r with body := a },
    always "formData" ParamList.codec formData fun a r => { r with formData := a },
    always "cookies" ParamList.codec cookies fun a r => { r with cookies := a },
    optional "auth" Auth.codec auth fun a r => { r with auth := a },
    optional "proxy" .text proxy fun a r => { r with proxy := a },
    optional "userAgent" .text userAgent fun a r => { r with userAgent := a },
    optional "referer" .text referer fun a r => { r with referer := a },
    always "flags" Flags.codec flags fun a r => { r with flags := a },
    optional "networkConfig" Network.record.codec network fun a r => { r with network := a },
    optional "sslConfig" Tls.record.codec tls fun a r => { r with tls := a },
    always "rawOptions" (.list .text) rawOptions fun a r => { r with rawOptions := a }]

def codec : Json.Codec Request := record.codec

/-- Both absent, or both there and alike. -/
def sameOption {α : Type} (same : α → α → Bool) : Option α → Option α → Bool
  | some a, some b => same a b
  | none, none => true
  | _, _ => false

/-- Alike in every field, the order of flags and of the fields of JSON objects aside. -/
def same (r s : Request) : Bool :=
  r.method == s.method && r.url == s.url && r.baseUrl == s.baseUrl &&
    r.endpoint == s.endpoint && r.pathTemplate == s.pathTemplate &&
    r.pathParameters == s.pathParameters && r.queryParams == s.queryParams &&
    r.headers == s.headers && sameOption Body.same r.body s.body && r.formData == s.formData &&
    r.cookies == s.cookies && r.auth == s.auth && r.proxy == s.proxy &&
    r.userAgent == s.userAgent && r.referer == s.referer && r.flags.same s.flags &&
    sameOption Network.same r.network s.network && r.tls == s.tls && r.rawOptions == s.rawOptions

end Request

end CurlScribe
