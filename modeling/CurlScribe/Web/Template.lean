import CurlScribe.Text.Blank
import CurlScribe.Text.Word

/-! Placeholders in paths, and the template that writes each of them as a name in braces. -/
namespace CurlScribe.Template

/-- A path is made of plain characters and of slots for values. -/
inductive Piece where
  | plain (c : Char)
  | slot (name : List Char)
deriving DecidableEq

def startsName (c : Char) : Bool := c.isAlpha || c == '_'

def continuesName (c : Char) : Bool := Text.isWordChar c || c == '-'

/-- The name at the start of a text, and what follows it. -/
def cutName? : List Char → Option (List Char × List Char)
  | [] => none
  | c :: rest =>
    if startsName c then some (c :: rest.takeWhile continuesName, rest.dropWhile continuesName)
    else none

/-- A name in double braces, perhaps with blanks around it. -/
def cutDouble? : List Char → Option (List Char × List Char)
  | '\x7b' :: '\x7b' :: rest =>
    match cutName? (Text.trimStart rest) with
    | none => none
    | some (name, rest) =>
      match Text.trimStart rest with
      | '\x7d' :: '\x7d' :: rest => some (name, rest)
      | _ => none
  | _ => none

/-- A name in single braces. -/
def cutSingle? : List Char → Option (List Char × List Char)
  | '\x7b' :: rest =>
    match cutName? rest with
    | some (name, '\x7d' :: rest) => some (name, rest)
    | _ => none
  | _ => none

/-- A name after a colon. -/
def cutColon? : List Char → Option (List Char × List Char)
  | ':' :: rest => cutName? rest
  | _ => none

/-- The placeholder at the start of a text: its pieces, and what follows. A colon makes one only at
the start of the path or after a slash. -/
def cutSlot? (atStart : Bool) (cs : List Char) : Option (List Piece × List Char) :=
  match cutDouble? cs with
  | some (name, rest) => some ([.slot name], rest)
  | none =>
    match cutSingle? cs with
    | some (name, rest) => some ([.slot name], rest)
    | none =>
      match if atStart then cutColon? cs else none with
      | some (name, rest) => some ([.slot name], rest)
      | none =>
        match cs with
        | '/' :: rest =>
          match cutColon? rest with
          | some (name, rest) => some ([.plain '/', .slot name], rest)
          | none => none
        | _ => none

theorem length_cutName {cs name rest : List Char} (h : cutName? cs = some (name, rest)) :
    rest.length < cs.length := by
  cases cs with
  | nil => simp [cutName?] at h
  | cons c tail =>
    simp only [cutName?] at h
    split at h
    · have := (List.dropWhile_suffix (l := tail) continuesName).length_le
      simp only [Option.some.injEq, Prod.mk.injEq] at h
      obtain ⟨-, rfl⟩ := h
      simp only [List.length_cons]
      omega
    · simp at h

theorem length_trimStart (cs : List Char) : (Text.trimStart cs).length ≤ cs.length :=
  (List.dropWhile_suffix Text.isBlank).length_le

theorem length_cutDouble {cs name rest : List Char} (h : cutDouble? cs = some (name, rest)) :
    rest.length < cs.length := by
  unfold cutDouble? at h
  split at h
  · rename_i inner
    split at h
    · simp at h
    · rename_i tail hn
      have h1 := length_cutName hn
      have h2 := length_trimStart inner
      have h3 := length_trimStart tail
      split at h
      · rename_i heq
        rw [heq] at h3
        simp_all
        omega
      · simp at h
  · simp at h

theorem length_cutSingle {cs name rest : List Char} (h : cutSingle? cs = some (name, rest)) :
    rest.length < cs.length := by
  unfold cutSingle? at h
  split at h
  · split at h
    · rename_i hn
      have h1 := length_cutName hn
      simp_all
      omega
    · simp at h
  · simp at h

theorem length_cutColon {cs name rest : List Char} (h : cutColon? cs = some (name, rest)) :
    rest.length < cs.length := by
  unfold cutColon? at h
  split at h
  · have h1 := length_cutName h
    simp only [List.length_cons]
    omega
  · simp at h

theorem length_cutSlot {atStart : Bool} {cs rest : List Char} {ps : List Piece}
    (h : cutSlot? atStart cs = some (ps, rest)) : rest.length < cs.length := by
  unfold cutSlot? at h
  split at h
  · have := length_cutDouble (by assumption)
    simp_all
  · split at h
    · have := length_cutSingle (by assumption)
      simp_all
    · split at h
      · rename_i heq
        split at heq
        · have := length_cutColon heq
          simp_all
        · simp at heq
      · split at h
        · split at h
          · have := length_cutColon (by assumption)
            simp_all
            omega
          · simp at h
        · simp at h

/-- The pieces of a path. -/
def pieces (atStart : Bool) (cs : List Char) : List Piece :=
  match h : cutSlot? atStart cs with
  | some (ps, rest) =>
    have := length_cutSlot h
    ps ++ pieces false rest
  | none =>
    match cs with
    | [] => []
    | c :: rest => .plain c :: pieces false rest
termination_by cs.length

def Piece.text : Piece → List Char
  | plain c => [c]
  | slot name => '\x7b' :: name ++ ['\x7d']

/-- The names of the slots, each once, in order of first appearance. -/
def slotNames : List Piece → List (List Char)
  | [] => []
  | .plain _ :: rest => slotNames rest
  | .slot name :: rest => name :: (slotNames rest).filter (· != name)

/-- The template of an endpoint and the names in it. -/
def ofEndpoint (endpoint : String) : String × List String :=
  let ps := pieces true endpoint.toList
  (String.ofList (ps.flatMap Piece.text), (slotNames ps).map String.ofList)

end CurlScribe.Template
