import CurlScribe.Json.Record
import CurlScribe.Text.Ascii
import CurlScribe.Text.Upper

/-! The methods of HTTP requests. -/
namespace CurlScribe

inductive Method where
  | get
  | post
  | put
  | delete
  | patch
  | options
  | head
  | trace
  | connect
deriving DecidableEq

namespace Method

def all : List Method := [get, post, put, delete, patch, options, head, trace, connect]

def name : Method → String
  | get => "GET"
  | post => "POST"
  | put => "PUT"
  | delete => "DELETE"
  | patch => "PATCH"
  | options => "OPTIONS"
  | head => "HEAD"
  | trace => "TRACE"
  | connect => "CONNECT"

def lowerName (m : Method) : String := Text.lowerAscii m.name

/-- The method that a text names in any case, blank margins aside. -/
def ofText? (s : String) : Option Method :=
  all.find? fun m => m.name.toList == Text.capitals s

def codec : Json.Codec Method where
  write m := .str m.name
  read
    | .str s =>
      match ofText? s with
      | some m => .ok m
      | none => .error (.unknownMethod s)
    | _ => .error .shape

end Method

end CurlScribe
