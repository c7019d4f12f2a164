import CurlScribe.Json.Basic

/-! The tokens of JSON text: their written form, the tokens of a value, and compact text. -/
namespace CurlScribe.Json

inductive Token where
  | openArr
  | closeArr
  | openObj
  | closeObj
  | comma
  | colon
  | null
  | bool (b : Bool)
  | num (n : Number)
  | str (s : String)
deriving DecidableEq

/-- A lower-case hexadecimal digit. -/
def hexDigit (n : Nat) : Char := Nat.digitChar (n % 16)

/-- The written form of one character inside quotes. -/
def escapeChar (c : Char) : List Char :=
  match c with
  | '"' => ['\\', '"']
  | '\\' => ['\\', '\\']
  | '\x08' => ['\\', 'b']
  | '\t' => ['\\', 't']
  | '\n' => ['\\', 'n']
  | '\x0c' => ['\\', 'f']
  | '\r' => ['\\', 'r']
  | _ =>
    if c.toNat < 0x20 then ['\\', 'u', '0', '0', hexDigit (c.toNat / 16), hexDigit c.toNat]
    else [c]

def Number.text : Number → List Char
  | .whole (.ofNat n) _ _ => decimalDigits n
  | .whole (.negSucc n) _ _ => '-' :: decimalDigits (n + 1)
  | .real x _ => x.jsonText

def Token.text : Token → List Char
  | openArr => ['[']
  | closeArr => [']']
  | openObj => ['\x7b']
  | closeObj => ['\x7d']
  | comma => [',']
  | colon => [':']
  | null => ['n', 'u', 'l', 'l']
  | bool true => ['t', 'r', 'u', 'e']
  | bool false => ['f', 'a', 'l', 's', 'e']
  | num n => n.text
  | str s => '"' :: s.toList.flatMap escapeChar ++ ['"']

mutual

/-- The tokens of a value, in the order in which they are written. -/
def tokens : Json → List Token
  | null => [.null]
  | bool b => [.bool b]
  | num n => [.num n]
  | str s => [.str s]
  | arr items => .openArr :: itemTokens items ++ [.closeArr]
  | obj fields => .openObj :: fieldTokens fields ++ [.closeObj]

def itemTokens : List Json → List Token
  | [] => []
  | [v] => tokens v
  | v :: rest => tokens v ++ .comma :: itemTokens rest

def fieldTokens : List (String × Json) → List Token
  | [] => []
  | [(k, v)] => .str k :: .colon :: tokens v
  | (k, v) :: rest => .str k :: .colon :: tokens v ++ .comma :: fieldTokens rest

end

/-- Compact text: no blanks between tokens. -/
def chars (v : Json) : List Char := (tokens v).flatMap Token.text

def text (v : Json) : String := String.ofList v.chars

end CurlScribe.Json
