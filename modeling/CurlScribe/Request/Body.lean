import CurlScribe.Json.Reader
import CurlScribe.Json.Record
import CurlScribe.Text.Blank

/-! Request bodies: a raw text and the JSON value it may hold. -/
namespace CurlScribe

structure Body where
  raw : String
  json : Option Json

namespace Body

/-- A body of raw text. Blank margins do not keep it from being read as JSON. -/
def ofText (raw : String) : Body := ⟨raw, Json.read? (Text.trimmed raw)⟩

/-- A body given as a value: text is taken as raw text, null as none, anything else is written out
and kept. -/
def ofJson : Json → Body
  | .str raw => ofText raw
  | .null => ofText ""
  | v => ⟨v.text, some v⟩

def isBlank (b : Body) : Bool := Text.blank b.raw

/-- Same raw text and same meaning of the JSON value. -/
def same (a b : Body) : Bool :=
  a.raw == b.raw &&
    match a.json, b.json with
    | some v, some w => v.same w
    | none, none => true
    | _, _ => false

/-- Written as its raw text. -/
def codec : Json.Codec Body where
  write b := .str b.raw
  read v := .ok (ofJson v)

end Body

end CurlScribe
