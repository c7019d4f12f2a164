import CurlScribe.Json.Misfit
import CurlScribe.Json.Token

/-! Records as JSON: a record is described once by its fields, and written and read by them. -/
namespace CurlScribe

namespace Json

/-- How one kind of value is written as JSON and read back. -/
structure Codec (α : Type) where
  write : α → Json
  read : Json → Except Misfit α

namespace Codec

def text : Codec String where
  write := str
  read
    | str s => .ok s
    | _ => .error .shape

def switch : Codec Bool where
  write := bool
  read
    | bool b => .ok b
    | _ => .error .shape

def real : Codec Binary64 where
  write := ofBinary64
  read
    | num n => .ok n.toBinary64
    | _ => .error .shape

/-- A whole number without a sign, below 2^32. -/
def count32 : Codec UInt32 where
  write n := num (.whole n.toNat (by omega) (by have := n.toNat_lt; omega))
  read
    | num (.whole n _ _) =>
      if 0 ≤ n ∧ n < 0x100000000 then .ok (UInt32.ofNat n.toNat) else .error .shape
    | _ => .error .shape

/-- A whole number without a sign, below 2^64. -/
def count64 : Codec UInt64 where
  write n := num (.ofUInt64 n)
  read
    | num (.whole n _ _) => if 0 ≤ n then .ok (UInt64.ofNat n.toNat) else .error .shape
    | _ => .error .shape

/-- A whole number with a sign, of 32 bits. -/
def integer32 : Codec Int32 where
  write n :=
    num (.whole n.toInt (by have := n.le_toInt; omega) (by have := n.toInt_lt; omega))
  read
    | num (.whole n _ _) =>
      if -0x80000000 ≤ n ∧ n < 0x80000000 then .ok (Int32.ofInt n) else .error .shape
    | _ => .error .shape

def readList {α : Type} (read : Json → Except Misfit α) : List Json → Except Misfit (List α)
  | [] => .ok []
  | v :: rest =>
    match read v with
    | .error e => .error e
    | .ok a =>
      match readList read rest with
      | .error e => .error e
      | .ok as => .ok (a :: as)

def list {α : Type} (c : Codec α) : Codec (List α) where
  write as := arr (as.map c.write)
  read
    | arr items => readList c.read items
    | _ => .error .shape

/-- Null stands for absence. -/
def nullable {α : Type} (c : Codec α) : Codec (Option α) where
  write
    | some a => c.write a
    | none => null
  read
    | null => .ok none
    | v => (c.read v).map some

/-- A value out of a few named ones: its name, or an object that holds null under its name. -/
def named {α : Type} (name : α → String) (choices : List α) : Codec α where
  write a := str (name a)
  read v :=
    let pick (s : String) :=
      match choices.find? fun a => name a == s with
      | some a => Except.ok a
      | none => .error .shape
    match v with
    | str s => pick s
    | obj [(s, null)] => pick s
    | _ => .error .shape

end Codec

/-- A field of a record: its name, its value in JSON unless it is left out, and how a value is put
into a record. -/
structure Field (σ : Type) where
  name : String
  write : σ → Option Json
  read : Json → σ → Except Misfit σ

namespace Field

variable {σ α : Type}

def always (name : String) (c : Codec α) (get : σ → α) (set : α → σ → σ) : Field σ where
  name := name
  write r := some (c.write (get r))
  read v r := (c.read v).map fun a => set a r

/-- An absent value is left out when it is written, and may be read from null. -/
def optional (name : String) (c : Codec α) (get : σ → Option α) (set : Option α → σ → σ) :
    Field σ where
  name := name
  write r := (get r).map c.write
  read v r := (c.nullable.read v).map fun a => set a r

end Field

/-- A record: its value where nothing is said, and its fields in order. -/
structure Record (σ : Type) where
  start : σ
  fields : List (Field σ)

namespace Record

variable {σ : Type}

def write (d : Record σ) (r : σ) : List (String × Json) :=
  d.fields.filterMap fun f => (f.write r).map fun v => (f.name, v)

/-- Reads named fields in their order; unknown names are passed over. -/
def readFields (d : Record σ) (r : σ) : List (String × Json) → Except Misfit σ
  | [] => .ok r
  | (key, v) :: rest =>
    match d.fields.find? fun f => f.name == key with
    | none => readFields d r rest
    | some f =>
      match f.read v r with
      | .error e => .error e
      | .ok r => readFields d r rest

/-- Reads fields by their places; more values than fields are too many. -/
def readItems (r : σ) : List (Field σ) → List Json → Except Misfit σ
  | _, [] => .ok r
  | [], _ :: _ => .error .shape
  | f :: fs, v :: rest =>
    match f.read v r with
    | .error e => .error e
    | .ok r => readItems r fs rest

/-- A record is read from an object, or from an array of its first fields in order. -/
def codec (d : Record σ) : Codec σ where
  write r := obj (d.write r)
  read
    | obj fields => d.readFields d.start fields
    | arr items => readItems d.start d.fields items
    | _ => .error .shape

end Record

end Json

end CurlScribe
