import CurlScribe.Json.Projection
import CurlScribe.Json.Prune
import CurlScribe.Request.Basic

/-! Requests without empty content, and requests without the parts named by paths. -/
namespace CurlScribe.Request

/-- Drops empty content at every depth of the JSON form. -/
def clean (r : Request) : Except Misfit Request := codec.read (codec.write r).pruned

/-- Drops the excluded parts of the JSON form, and then its empty content. -/
def project (m : Inclusion) (r : Request) : Except Misfit Request :=
  codec.read (Json.project m (codec.write r)).pruned

end CurlScribe.Request
