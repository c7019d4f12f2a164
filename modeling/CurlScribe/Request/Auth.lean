import CurlScribe.Json.Record

/-! Credentials that go with a request. -/
namespace CurlScribe

inductive Scheme where
  | none
  | basic (username password : String)
  | bearer (token : String)
deriving DecidableEq

/-- A scheme with its switch. -/
structure Auth where
  scheme : Scheme
  enabled : Bool
deriving DecidableEq

namespace Scheme

/-- The fields of a scheme, its kind first. -/
def fields : Scheme → List (String × Json)
  | none => [("type", .str "none")]
  | basic username password =>
    [("type", .str "basic"), ("username", .str username), ("password", .str password)]
  | bearer token => [("type", .str "bearer"), ("token", .str token)]

/-- A text field that is empty where it is missing. -/
def textField (fields : List (String × Json)) (name : String) : Except Misfit String :=
  match fields.lookup name with
  | .none => .ok ""
  | .some v => Json.Codec.text.read v

/-- The kind of a scheme is given by its name or by its place among the three. -/
inductive Kind where
  | none
  | basic
  | bearer

def Kind.ofJson : Json → Except Misfit Kind
  | .str "none" => .ok .none
  | .str "basic" => .ok .basic
  | .str "bearer" => .ok .bearer
  | .num (.whole n _ _) =>
    if n = 0 then .ok .none
    else if n = 1 then .ok .basic
    else if n = 2 then .ok .bearer
    else .error .shape
  | _ => .error .shape

def ofFields (fields : List (String × Json)) : Except Misfit Scheme :=
  match fields.lookup "type" with
  | .none => .error .shape
  | .some kind => do
    match ← Kind.ofJson kind with
    | .none => return .none
    | .basic => return .basic (← textField fields "username") (← textField fields "password")
    | .bearer => return .bearer (← textField fields "token")

end Scheme

namespace Auth

def basic (username password : String) : Auth := ⟨.basic username password, true⟩

def bearer (token : String) : Auth := ⟨.bearer token, true⟩

/-- One flat object; a switch that is missing is off. -/
def codec : Json.Codec Auth where
  write a := .obj (a.scheme.fields ++ [("enabled", .bool a.enabled)])
  read
    | .obj fields => do
      let scheme ← Scheme.ofFields fields
      match fields.lookup "enabled" with
      | .none => return ⟨scheme, false⟩
      | .some v => return ⟨scheme, ← Json.Codec.switch.read v⟩
    | _ => .error .shape

end Auth

end CurlScribe
