import CurlScribe.Json.Basic

/-! Projection: leaving out the parts of a value that are named by their paths. -/
namespace CurlScribe

/-- Which dotted paths to keep. A path that is not listed is kept. -/
structure Inclusion where
  paths : List (String × Bool)

namespace Inclusion

def all : Inclusion := ⟨[]⟩

def excludes (m : Inclusion) (path : String) : Bool := m.paths.lookup path == some false

/-- The path of a child; a child of the empty path is named by its own segment alone. -/
def childPath (path segment : String) : String :=
  if path = "" then segment else path ++ "." ++ segment

end Inclusion

namespace Json

mutual

/-- A copy of the value at `path` without the parts that are excluded. -/
def projectAt (m : Inclusion) (path : String) : Json → Json
  | arr items => arr (projectItems m path 0 items)
  | obj fields => obj (projectFields m path fields)
  | v => v

/-- Items are named by their places in the whole array. -/
def projectItems (m : Inclusion) (path : String) (index : Nat) : List Json → List Json
  | [] => []
  | v :: rest =>
    let child := Inclusion.childPath path (toString index)
    if m.excludes child then projectItems m path (index + 1) rest
    else projectAt m child v :: projectItems m path (index + 1) rest

def projectFields (m : Inclusion) (path : String) :
    List (String × Json) → List (String × Json)
  | [] => []
  | (key, v) :: rest =>
    let child := Inclusion.childPath path key
    if m.excludes child then projectFields m path rest
    else (key, projectAt m child v) :: projectFields m path rest

end

def project (m : Inclusion) (v : Json) : Json := projectAt m "" v

end Json

end CurlScribe
