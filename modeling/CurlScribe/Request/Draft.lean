import CurlScribe.Request.Basic

/-! Drafts: what a command line or a payload says about a request before anything is derived. -/
namespace CurlScribe

structure Draft where
  method : Option Method := none
  url : Option String := none
  baseUrl : Option String := none
  endpoint : Option String := none
  pathTemplate : Option String := none
  pathParameters : Option (List String) := none
  queryParams : ParamList := .empty
  headers : ParamList := .empty
  body : Option Body := none
  formData : ParamList := .empty
  cookies : ParamList := .empty
  auth : Option Auth := none
  proxy : Option String := none
  userAgent : Option String := none
  referer : Option String := none
  flags : Flags := .empty
  rawOptions : List String := []
  /-- Network settings given one by one. -/
  network : Network := {}
  networkGroup : Option Network := none
  /-- TLS settings given one by one. -/
  tls : Tls := {}
  tlsGroup : Option Tls := none

namespace Draft

open Json.Field in
/-- The JSON form, in which what is absent is null. -/
def record : Json.Record Draft where
  start := {}
  fields := [
    always "method" Method.codec.nullable method fun a d => { d with method := a },
    always "url" (.nullable .text) url fun a d => { d with url := a },
    always "baseUrl" (.nullable .text) baseUrl fun a d => { d with baseUrl := a },
    always "endpoint" (.nullable .text) endpoint fun a d => { d with endpoint := a },
    always "pathTemplate" (.nullable .text) pathTemplate fun a d => { d with pathTemplate := a },
    always "pathParameters" (.nullable (.list .text)) pathParameters
      fun a d => { d with pathParameters := a },
    always "queryParams" ParamList.codec queryParams fun a d => { d with queryParams := a },
    always "headers" ParamList.codec headers fun a d => { d with headers := a },
    always "body" Body.codec.nullable body fun a d => { d with body := a },
    always "formData" ParamList.codec formData fun a d => { d with formData := a },
    always "cookies" ParamList.codec cookies fun a d => { d with cookies := a },
    always "auth" Auth.codec.nullable auth fun a d => { d with auth := a },
    always "proxy" (.nullable .text) proxy fun a d => { d with proxy := a },
    always "userAgent" (.nullable .text) userAgent fun a d => { d with userAgent := a },
    always "referer" (.nullable .text) referer fun a d => { d with referer := a },
    always "flags" Flags.codec flags fun a d => { d with flags := a },
    always "rawOptions" (.list .text) rawOptions fun a d => { d with rawOptions := a }] ++
    Network.fieldsIn (fun name c get set =>
      always name c.nullable (fun d => get d.network) fun a d =>
        { d with network := set a d.network }) ++
    [always "networkConfig" Network.record.codec.nullable networkGroup
      fun a d => { d with networkGroup := a }] ++
    Tls.fieldsIn (fun name get set =>
      always name (.nullable .text) (fun d => get d.tls) fun a d =>
        { d with tls := set a d.tls }) ++
    [always "sslConfig" Tls.record.codec.nullable tlsGroup
      fun a d => { d with tlsGroup := a }]

def codec : Json.Codec Draft := record.codec

end Draft

end CurlScribe
