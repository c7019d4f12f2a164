import CurlScribe.Json.Record
import CurlScribe.Named

/-! The switches of a request by name; one that is not listed is off. -/
namespace CurlScribe

structure Flags where
  entries : List (String × Bool)
  distinct : (Named.names entries).Nodup

namespace Flags

def empty : Flags := ⟨[], by simp [Named.names]⟩

def set (f : Flags) (name : String) (on : Bool) : Flags :=
  ⟨Named.put f.entries name on, Named.nodup_names_put f.distinct name on⟩

def isOn (f : Flags) (name : String) : Bool := (f.entries.lookup name).getD false

/-- The same switches in the same positions, in any order. -/
def same (f g : Flags) : Bool :=
  f.entries.length == g.entries.length &&
    f.entries.all fun (name, on) => g.entries.lookup name == some on

def readFields (f : Flags) : List (String × Json) → Except Misfit Flags
  | [] => .ok f
  | (name, v) :: rest =>
    match Json.Codec.switch.read v with
    | .error e => .error e
    | .ok on => readFields (f.set name on) rest

def codec : Json.Codec Flags where
  write f := .obj (f.entries.map fun (name, on) => (name, .bool on))
  read
    | .obj fields => readFields empty fields
    | _ => .error .shape

end Flags

end CurlScribe
