import CurlScribe.Json.Token
import CurlScribe.Named

/-! Reading JSON text: first into tokens, then by a machine that keeps the open brackets. -/
namespace CurlScribe.Json

/-! Numbers. -/

/-- The part of a numeral that has been read: a significand below 2^64, and a power of ten. -/
structure Numeral where
  significand : Nat
  power : Int

/-- Reads whole digits. Once the significand would outgrow 64 bits the digits that are left only
move the point. -/
def wholeDigits (n : Nat) : List Char → Numeral
  | [] => ⟨n, 0⟩
  | c :: rest =>
    let next := 10 * n + digitValue c
    if next < 0x10000000000000000 then wholeDigits next rest else ⟨n, rest.length + 1⟩

/-- Reads the digits of a fraction. Once the significand would outgrow 64 bits the digits that are
left are dropped. -/
def fractionDigits (n : Numeral) : List Char → Numeral
  | [] => n
  | c :: rest =>
    let next := 10 * n.significand + digitValue c
    if next < 0x10000000000000000 then fractionDigits ⟨next, n.power - 1⟩ rest else n

/-- Powers of ten up to this one are binary64 numbers. -/
def greatestPower : Nat := 308

/-- A magnitude times a power of ten, each step rounded; nothing when it overflows. -/
def scale (rank : Nat) (power : Int) : Option Nat :=
  if power < -greatestPower then
    if rank = 0 then some 0
    else scale (Binary64.divRank rank (Decimal.rank ⟨1, greatestPower⟩)) (power + greatestPower)
  else if power < 0 then some (Binary64.divRank rank (Decimal.rank ⟨1, -power⟩))
  else if power ≤ greatestPower then
    let product := Binary64.mulRank rank (Decimal.rank ⟨1, power⟩)
    if product < Binary64.infinityRank then some product else none
  else if rank = 0 then some 0
  else none
termination_by (-power).toNat
decreasing_by
  simp only [greatestPower] at *
  omega

def Numeral.toReal? (negative : Bool) (n : Numeral) : Option Number :=
  (scale (Binary64.ofNat n.significand).rank n.power).bind fun rank =>
    Number.ofReal? ⟨negative, rank⟩

/-- Cuts off an exponent. -/
def exponentOf : List Char → Option Int
  | [] => some 0
  | e :: rest =>
    if e == 'e' || e == 'E' then
      let (minus, digits) :=
        match rest with
        | '+' :: ds => (false, ds)
        | '-' :: ds => (true, ds)
        | ds => (false, ds)
      if digits.isEmpty || !digits.all Char.isDigit then none
      else
        let n : Int := digitsValue 0 digits
        some (if minus then -n else n)
    else none

/-- A numeral without its sign. -/
def unsignedNumber (negative : Bool) (cs : List Char) : Option Number :=
  let whole := cs.takeWhile Char.isDigit
  let rest := cs.dropWhile Char.isDigit
  if whole.isEmpty || (whole.head? == some '0' && 1 < whole.length) then none
  else
    let n := wholeDigits 0 whole
    match rest with
    | [] =>
      if n.power == 0 then
        if negative && (n.significand == 0 || 0x8000000000000000 < n.significand) then
          n.toReal? negative
        else Number.ofInt? (if negative then -n.significand else n.significand)
      else n.toReal? negative
    | '.' :: tail =>
      let fraction := tail.takeWhile Char.isDigit
      if fraction.isEmpty then none
      else
        let m := fractionDigits n fraction
        (exponentOf (tail.dropWhile Char.isDigit)).bind fun e =>
          Numeral.toReal? negative ⟨m.significand, m.power + e⟩
    | tail =>
      (exponentOf tail).bind fun e => Numeral.toReal? negative ⟨n.significand, n.power + e⟩

/-- The number that a whole numeral stands for. -/
def Number.ofChars? : List Char → Option Number
  | '-' :: rest => unsignedNumber true rest
  | cs => unsignedNumber false cs

/-! Strings. -/

def hexValue? (c : Char) : Option Nat :=
  if c.isDigit then some (c.toNat - '0'.toNat)
  else if 'a' ≤ c && c ≤ 'f' then some (c.toNat - 'a'.toNat + 10)
  else if 'A' ≤ c && c ≤ 'F' then some (c.toNat - 'A'.toNat + 10)
  else none

/-- The unit that four hexadecimal digits spell. -/
def unitValue? (a b c d : Char) : Option Nat :=
  match hexValue? a, hexValue? b, hexValue? c, hexValue? d with
  | some a, some b, some c, some d => some (((a * 16 + b) * 16 + c) * 16 + d)
  | _, _, _, _ => none

/-- The character that a letter after a backslash stands for. -/
def shortEscape? : Char → Option Char
  | '"' => some '"'
  | '\\' => some '\\'
  | '/' => some '/'
  | 'b' => some '\x08'
  | 'f' => some '\x0c'
  | 'n' => some '\n'
  | 'r' => some '\r'
  | 't' => some '\t'
  | _ => none

/-- Reads the inside of a string up to its closing quote: the characters and what follows. -/
def quoted : List Char → Option (List Char × List Char)
  | [] => none
  | '"' :: rest => some ([], rest)
  | '\\' :: 'u' :: a :: b :: c :: d :: rest =>
    match unitValue? a b c d with
    | none => none
    | some unit =>
      if 0xD800 ≤ unit && unit ≤ 0xDFFF then
        match rest with
        | '\\' :: 'u' :: e :: f :: g :: h :: rest =>
          match unitValue? e f g h with
          | none => none
          | some low =>
            if unit ≤ 0xDBFF && 0xDC00 ≤ low && low ≤ 0xDFFF then
              let c := Char.ofNat (0x10000 + (unit - 0xD800) * 0x400 + (low - 0xDC00))
              (quoted rest).map fun (cs, tail) => (c :: cs, tail)
            else none
        | _ => none
      else (quoted rest).map fun (cs, tail) => (Char.ofNat unit :: cs, tail)
  | '\\' :: e :: rest =>
    match shortEscape? e with
    | none => none
    | some c => (quoted rest).map fun (cs, tail) => (c :: cs, tail)
  | c :: rest =>
    if c.toNat < 0x20 || c == '\\' then none
    else (quoted rest).map fun (cs, tail) => (c :: cs, tail)

theorem length_quoted {cs body tail : List Char} (h : quoted cs = some (body, tail)) :
    tail.length < cs.length := by
  fun_induction quoted cs generalizing body tail <;> simp_all <;> grind

/-! Tokens. -/

def isNumberChar (c : Char) : Bool :=
  c.isDigit || c == '+' || c == '-' || c == '.' || c == 'e' || c == 'E'

def isSpace (c : Char) : Bool := c == ' ' || c == '\t' || c == '\n' || c == '\r'

theorem length_dropNumber (cs : List Char) :
    (cs.dropWhile isNumberChar).length ≤ cs.length :=
  (List.dropWhile_suffix isNumberChar).length_le

/-- Cuts a text into tokens, or fails where none can start. -/
def lex : List Char → Option (List Token)
  | [] => some []
  | '[' :: rest => (lex rest).map (.openArr :: ·)
  | ']' :: rest => (lex rest).map (.closeArr :: ·)
  | '\x7b' :: rest => (lex rest).map (.openObj :: ·)
  | '\x7d' :: rest => (lex rest).map (.closeObj :: ·)
  | ',' :: rest => (lex rest).map (.comma :: ·)
  | ':' :: rest => (lex rest).map (.colon :: ·)
  | 'n' :: 'u' :: 'l' :: 'l' :: rest => (lex rest).map (.null :: ·)
  | 't' :: 'r' :: 'u' :: 'e' :: rest => (lex rest).map (.bool true :: ·)
  | 'f' :: 'a' :: 'l' :: 's' :: 'e' :: rest => (lex rest).map (.bool false :: ·)
  | '"' :: rest =>
    match h : quoted rest with
    | none => none
    | some (body, tail) =>
      have := length_quoted h
      (lex tail).map (.str (String.ofList body) :: ·)
  | c :: rest =>
    if isSpace c then lex rest
    else if isNumberChar c then
      match Number.ofChars? (c :: rest.takeWhile isNumberChar) with
      | none => none
      | some n =>
        have := length_dropNumber rest
        (lex (rest.dropWhile isNumberChar)).map (.num n :: ·)
    else none
termination_by cs => cs.length

/-! Values. -/

/-- An open bracket with what it holds so far: items backwards, or fields and the name whose value
is being read. -/
inductive Frame where
  | items (done : List Json)
  | fields (done : List (String × Json)) (key : String)

/-- What may come next. -/
inductive Expect where
  | value
  | valueOrClose
  | key (done : List (String × Json))
  | keyOrClose
  | colon (done : List (String × Json)) (key : String)
  | afterValue (v : Json)

structure Machine where
  frames : List Frame
  expect : Expect

/-- A bracket opens unless `limit` of them are open already. -/
def Machine.enter (limit : Option Nat) (frames : List Frame) (m : Machine) : Option Machine :=
  match limit with
  | some n => if frames.length < n then some m else none
  | none => some m

/-- The start of a value. -/
def Machine.begin (limit : Option Nat) (frames : List Frame) : Token → Option Machine
  | .openArr => Machine.enter limit frames ⟨.items [] :: frames, .valueOrClose⟩
  | .openObj => Machine.enter limit frames ⟨frames, .keyOrClose⟩
  | .null => some ⟨frames, .afterValue .null⟩
  | .bool b => some ⟨frames, .afterValue (.bool b)⟩
  | .num n => some ⟨frames, .afterValue (.num n)⟩
  | .str s => some ⟨frames, .afterValue (.str s)⟩
  | _ => none

/-- Takes one token. A field whose name came before replaces the value and keeps the place. -/
def Machine.step (limit : Option Nat) (m : Machine) (t : Token) : Option Machine :=
  match m.expect, t, m.frames with
  | .value, t, frames => Machine.begin limit frames t
  | .valueOrClose, .closeArr, .items _ :: frames => some ⟨frames, .afterValue (.arr [])⟩
  | .valueOrClose, t, frames => Machine.begin limit frames t
  | .keyOrClose, .closeObj, frames => some ⟨frames, .afterValue (.obj [])⟩
  | .keyOrClose, .str key, frames => some ⟨frames, .colon [] key⟩
  | .key done, .str key, frames => some ⟨frames, .colon done key⟩
  | .colon done key, .colon, frames => some ⟨.fields done key :: frames, .value⟩
  | .afterValue v, .comma, .items done :: frames => some ⟨.items (v :: done) :: frames, .value⟩
  | .afterValue v, .closeArr, .items done :: frames =>
    some ⟨frames, .afterValue (.arr (v :: done).reverse)⟩
  | .afterValue v, .comma, .fields done key :: frames =>
    some ⟨frames, .key (Named.put done key v)⟩
  | .afterValue v, .closeObj, .fields done key :: frames =>
    some ⟨frames, .afterValue (.obj (Named.put done key v))⟩
  | _, _, _ => none

def Machine.result? (m : Machine) : Option Json :=
  match m.frames, m.expect with
  | [], .afterValue v => some v
  | _, _ => none

/-- The value of a list of tokens, with at most `limit` brackets open at a time. -/
def ofTokens? (limit : Option Nat) (ts : List Token) : Option Json :=
  (ts.foldlM (Machine.step limit) ⟨[], .value⟩).bind Machine.result?

/-- Texts may nest this deep. -/
def depthLimit : Nat := 127

def ofChars? (limit : Option Nat) (cs : List Char) : Option Json :=
  (lex cs).bind (ofTokens? limit)

/-- Reads a text of bounded depth. -/
def read? (s : String) : Option Json := ofChars? (some depthLimit) s.toList

end CurlScribe.Json
