import CurlScribe.Json.Record
import CurlScribe.Text.Ascii

/-! Ordered lists of named values that can be switched off one by one. -/
namespace CurlScribe

structure Param where
  key : String
  value : String
  enabled : Bool
deriving DecidableEq

/-- Headers, query parameters, form fields and cookies, in the order in which they are sent. -/
structure ParamList where
  entries : List Param
deriving DecidableEq

/-- What becomes of a key that is already there. -/
inductive Repeated where
  | lastWins
  | firstWins
  | keepAll
deriving DecidableEq

namespace ParamList

def empty : ParamList := ⟨[]⟩

def isEmpty (l : ParamList) : Bool := l.entries.isEmpty

def size (l : ParamList) : Nat := l.entries.length

/-- The entries that are switched on. -/
def enabled (l : ParamList) : List Param := l.entries.filter Param.enabled

def push (l : ParamList) (p : Param) : ParamList := ⟨l.entries ++ [p]⟩

def contains (l : ParamList) (key : String) : Bool := l.entries.any fun p => p.key == key

/-- Gives the first entry of this key the value and switches it on. -/
def overwrite (key value : String) : List Param → List Param
  | [] => []
  | p :: rest =>
    if p.key = key then ⟨p.key, value, true⟩ :: rest else p :: overwrite key value rest

/-- Adds an entry that is switched on; a key that is there already is treated as `policy` says. -/
def insertWith (policy : Repeated) (l : ParamList) (key value : String) : ParamList :=
  match policy with
  | .keepAll => l.push ⟨key, value, true⟩
  | .firstWins => if l.contains key then l else l.push ⟨key, value, true⟩
  | .lastWins =>
    if l.contains key then ⟨overwrite key value l.entries⟩ else l.push ⟨key, value, true⟩

/-- The last value written to a key wins and keeps the place of the first. -/
def insert (l : ParamList) (key value : String) : ParamList := l.insertWith .lastWins key value

def ofPairs (pairs : List (String × String)) : ParamList :=
  pairs.foldl (fun l (key, value) => l.insert key value) empty

/-- The value of the last entry of this key. -/
def get? (l : ParamList) (key : String) : Option String :=
  (l.entries.reverse.find? fun p => p.key == key).map Param.value

/-- The value of the last enabled entry of this key, up to the case of ASCII letters. -/
def getIgnoringCase? (l : ParamList) (key : String) : Option String :=
  (l.enabled.reverse.find? fun p => Text.sameIgnoringCase p.key.toList key.toList).map Param.value

def remove (l : ParamList) (key : String) : ParamList :=
  ⟨l.entries.filter fun p => p.key != key⟩

/-- How many entries `remove` takes away. -/
def countOf (l : ParamList) (key : String) : Nat := l.entries.countP fun p => p.key == key

def setEnabled (l : ParamList) (key : String) (on : Bool) : ParamList :=
  ⟨l.entries.map fun p => if p.key = key then ⟨p.key, p.value, on⟩ else p⟩

end ParamList

namespace Param

open Json in
/-- An entry that does not say that it is enabled is switched off. -/
def record : Record Param where
  start := ⟨"", "", false⟩
  fields := [
    .always "key" .text Param.key fun a p => ⟨a, p.value, p.enabled⟩,
    .always "value" .text Param.value fun a p => ⟨p.key, a, p.enabled⟩,
    .always "enabled" .switch Param.enabled fun a p => ⟨p.key, p.value, a⟩]

end Param

namespace ParamList

/-- The value of a plain field: its text, nothing for null, JSON text for anything else. -/
def fieldText : Json → String
  | .str s => s
  | .null => ""
  | v => v.text

/-- Written as an array of entries; also read from a plain object, all of whose fields are
enabled. Whatever is wrong inside an entry makes the whole list the wrong shape. -/
def codec : Json.Codec ParamList where
  write l := (Json.Codec.list Param.record.codec).write l.entries
  read
    | .obj fields => .ok (ofPairs (fields.map fun (key, v) => (key, fieldText v)))
    | v =>
      match (Json.Codec.list Param.record.codec).read v with
      | .ok entries => .ok ⟨entries⟩
      | .error _ => .error .shape

end ParamList

end CurlScribe
