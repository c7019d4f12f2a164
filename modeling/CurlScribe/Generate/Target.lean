import CurlScribe.Request.Basic
import CurlScribe.Web.Address
import CurlScribe.Web.Template

/-! Where a generated test sends its request. -/
namespace CurlScribe

structure Target where
  baseUrl : String
  /-- With its placeholders as names in braces. -/
  path : String
  pathParameters : List String
deriving DecidableEq

namespace Target

/-- Base and path in one. -/
def absolute (t : Target) : String := Location.join t.baseUrl t.path

/-- What a request leaves blank is taken from its address. There is no target only where base and
address are both blank. -/
def ofRequest? (r : Request) : Option Target :=
  let place :=
    if !Text.blank r.baseUrl then some (Text.trimmed r.baseUrl, r.endpoint)
    else if !Text.blank r.url then
      let location := Location.ofText r.url
      some (location.baseUrl, location.endpoint)
    else none
  place.map fun (baseUrl, endpoint) =>
    let (template, slots) :=
      Template.ofEndpoint (if Text.blank endpoint then "/" else endpoint)
    { baseUrl
      path := if Text.blank r.pathTemplate then template else r.pathTemplate
      pathParameters := if r.pathParameters.isEmpty then slots else r.pathParameters }

end Target

end CurlScribe
