import CurlScribe.Json.Basic

/-! Pruning: what says nothing is removed from a value at every depth. -/
namespace CurlScribe.Json

mutual

/-- A value without null, false, empty text and empty brackets; nothing if all of it goes.
Children go first, so brackets that only held such content go as well. -/
def prune? : Json → Option Json
  | null => none
  | bool b => if b then some (bool b) else none
  | num n => some (num n)
  | str s => if s = "" then none else some (str s)
  | arr items =>
    match pruneItems items with
    | [] => none
    | kept => some (arr kept)
  | obj fields =>
    match pruneFields fields with
    | [] => none
    | kept => some (obj kept)

def pruneItems : List Json → List Json
  | [] => []
  | v :: rest =>
    match prune? v with
    | some kept => kept :: pruneItems rest
    | none => pruneItems rest

def pruneFields : List (String × Json) → List (String × Json)
  | [] => []
  | (key, v) :: rest =>
    match prune? v with
    | some kept => (key, kept) :: pruneFields rest
    | none => pruneFields rest

end

/-- A value that is pruned away as a whole becomes the empty object. -/
def pruned (v : Json) : Json := (prune? v).getD (obj [])

end CurlScribe.Json
