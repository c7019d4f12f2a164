import CurlScribe.Json.Reader
import CurlScribe.Proofs.Java.Balance
import Mathlib.Data.List.DropRight

/-! How Java reads the inside of a literal: Unicode escapes are translated first, and what comes of
that is resolved. An escaped text is read as the text itself. -/
namespace CurlScribe.Java

variable {c d e : Char} {cs ds front back tail : List Char}

/-- How many backslashes there are at the end of a text. -/
def finalSlashes (cs : List Char) : Nat := (cs.rtakeWhile (· == '\\')).length

/-! Reading. -/

/-- The character of a Unicode escape, behind its backslash, and what follows. There may be several
`u` in a row. One half of a surrogate pair is no character here, so less is read than Java reads. -/
def unicode? : List Char → Option (Char × List Char)
  | 'u' :: rest =>
    match rest.dropWhile (· == 'u') with
    | a :: b :: c :: d :: tail =>
      match Json.unitValue? a b c d with
      | some unit =>
        if 0xD800 ≤ unit && unit ≤ 0xDFFF then none else some (Char.ofNat unit, tail)
      | none => none
    | _ => none
  | _ => none

theorem length_unicode (h : unicode? cs = some (c, tail)) : tail.length < cs.length := by
  unfold unicode? at h
  split at h
  · rename_i rest
    split at h
    · rename_i a b c d rest' hdrop
      have hle := (List.dropWhile_suffix (l := rest) (· == 'u')).length_le
      rw [hdrop] at hle
      split at h
      · split at h
        · simp at h
        · obtain ⟨-, rfl⟩ := Prod.mk.inj (Option.some.inj h)
          simp only [List.length_cons] at hle ⊢
          omega
      · simp at h
    · simp at h
  · simp at h

/-- Translates the Unicode escapes of a text. A backslash starts one if the number of backslashes in
front of it is even; `odd` says whether it is odd in front of the text. -/
def translate? (odd : Bool) : List Char → Option (List Char)
  | [] => some []
  | c :: rest =>
    if c = '\\' ∧ odd = false ∧ rest.head? = some 'u' then
      match h : unicode? rest with
      | some (d, tail) =>
        have := length_unicode h
        (translate? false tail).map (d :: ·)
      | none => none
    else (translate? (c == '\\' && !odd) rest).map (c :: ·)
termination_by cs => cs.length

/-- Resolves the other escapes. The text has no quote and no backslash of its own, and no line ends
in it. -/
def resolve? : List Char → Option (List Char)
  | [] => some []
  | '\\' :: e :: rest => (resolved? e).bind fun c => (resolve? rest).map (c :: ·)
  | c :: rest => if isInner c then (resolve? rest).map (c :: ·) else none

/-- The text that the inside of a literal stands for. -/
def read? (cs : List Char) : Option (List Char) := (translate? false cs).bind resolve?

/-! One character. -/

theorem translate_shielded (c : Char) (tail : List Char) :
    translate? true (c :: tail) = (translate? false tail).map (c :: ·) := by
  rw [translate?, if_neg (by simp)]
  simp

theorem translate_plain (h : c ≠ '\\') (tail : List Char) :
    translate? false (c :: tail) = (translate? false tail).map (c :: ·) := by
  have hc : (c == '\\') = false := beq_eq_false_iff_ne.mpr h
  rw [translate?, if_neg fun hslash => h hslash.1, hc]
  rfl

theorem translate_slash (h : e ≠ 'u') (tail : List Char) :
    translate? false ('\\' :: e :: tail) =
      (translate? false tail).map fun ds => '\\' :: e :: ds := by
  rw [translate?, if_neg (by simp [h])]
  have hodd : ('\\' == '\\' && !false) = true := rfl
  rw [hodd, translate_shielded, Option.map_map]
  rfl

theorem unicode_latinDigits (h : c.toNat < 0x100) (tail : List Char) :
    unicode? ('u' :: (latinDigits c.toNat ++ tail)) = some (c, tail) := by
  have hdigit : ∀ n < 16, Json.hexValue? (Nat.digitChar n) = some n := by decide
  have hunit : Json.unitValue? '0' '0' (Nat.digitChar (c.toNat / 16))
      (Nat.digitChar (c.toNat % 16)) = some c.toNat := by
    have hzero : Json.hexValue? '0' = some 0 := rfl
    simp only [Json.unitValue?, hzero, hdigit (c.toNat / 16) (by omega),
      hdigit (c.toNat % 16) (by omega), Option.some.injEq]
    omega
  have hlow : (decide (0xD800 ≤ c.toNat) && decide (c.toNat ≤ 0xDFFF)) = false := by
    simp
    omega
  simp [unicode?, latinDigits, hunit, hlow, Char.ofNat_toNat]

theorem translate_latinDigits (h : c.toNat < 0x100) (tail : List Char) :
    translate? false ('\\' :: 'u' :: (latinDigits c.toNat ++ tail)) =
      (translate? false tail).map (c :: ·) := by
  rw [translate?, if_pos (by simp)]
  split
  · rename_i d rest heq
    rw [unicode_latinDigits h] at heq
    obtain ⟨rfl, rfl⟩ := Prod.mk.inj (Option.some.inj heq)
    rfl
  · rename_i heq
    simp [unicode_latinDigits h] at heq

theorem resolve_inner (h : isInner c = true) (tail : List Char) :
    resolve? (c :: tail) = (resolve? tail).map (c :: ·) := by
  obtain ⟨⟨-, hne⟩, -⟩ := isInner_iff.mp h
  rw [resolve?, if_pos h]
  intro e rest hc
  exact (hne hc).elim

theorem resolve_slash (h : resolved? e = some c) (tail : List Char) :
    resolve? ('\\' :: e :: tail) = (resolve? tail).map (c :: ·) := by
  rw [resolve?, h]
  rfl

/-- What is written for a character is translated by itself, and then resolved to that character. -/
theorem exists_translated (c : Char) : ∃ ds : List Char,
    (∀ tail, translate? false (escapeChar c ++ tail) = (translate? false tail).map (ds ++ ·)) ∧
      ∀ tail, resolve? (ds ++ tail) = (resolve? tail).map (c :: ·) := by
  rcases exists_escapeChar c with ⟨hc, hinner⟩ | ⟨e, hc, he⟩ | ⟨hc, hlt, hinner⟩
  · obtain ⟨⟨-, hne⟩, -⟩ := isInner_iff.mp hinner
    rw [hc]
    exact ⟨[c], translate_plain hne, resolve_inner hinner⟩
  · have hu : e ≠ 'u' := by
      rintro rfl
      simp [resolved?] at he
    rw [hc]
    exact ⟨['\\', e], translate_slash hu, resolve_slash he⟩
  · rw [hc]
    exact ⟨[c], translate_latinDigits hlt, resolve_inner hinner⟩

/-! Texts. -/

theorem exists_translated_text (cs : List Char) :
    ∃ ds, translate? false (cs.flatMap escapeChar) = some ds ∧ resolve? ds = some cs := by
  induction cs with
  | nil => exact ⟨[], by rw [List.flatMap_nil, translate?], rfl⟩
  | cons c cs ih =>
    obtain ⟨ds, htranslate, hresolve⟩ := ih
    obtain ⟨first, hfirst, hc⟩ := exists_translated c
    refine ⟨first ++ ds, ?_, ?_⟩
    · rw [List.flatMap_cons, hfirst, htranslate, Option.map_some]
    · rw [hc, hresolve, Option.map_some]

theorem finalSlashes_concat (cs : List Char) (c : Char) :
    finalSlashes (cs ++ [c]) = if c = '\\' then finalSlashes cs + 1 else 0 := by
  simp only [finalSlashes, List.rtakeWhile_concat, beq_iff_eq]
  split <;> simp

/-- A written character leaves the number of backslashes even. -/
theorem even_append_escapeChar (h : finalSlashes cs % 2 = 0) (c : Char) :
    finalSlashes (cs ++ escapeChar c) % 2 = 0 := by
  have hother {ds : List Char} {d : Char} (hd : d ≠ '\\') : finalSlashes (ds ++ [d]) = 0 := by
    rw [finalSlashes_concat, if_neg hd]
  rcases exists_escapeChar c with ⟨hc, hinner⟩ | ⟨e, hc, -⟩ | ⟨hc, hlt, -⟩
  · obtain ⟨⟨-, hne⟩, -⟩ := isInner_iff.mp hinner
    rw [hc, hother hne]
  · rw [hc, List.append_cons, finalSlashes_concat, finalSlashes_concat, if_pos rfl]
    split
    · omega
    · rfl
  · have hdigit : isInner (Nat.digitChar (c.toNat % 16)) = true := isInner_digitChar (by omega)
    obtain ⟨⟨-, hne⟩, -⟩ := isInner_iff.mp hdigit
    have hlast : cs ++ escapeChar c =
        (cs ++ ['\\', 'u', '0', '0', Nat.digitChar (c.toNat / 16)]) ++
          [Nat.digitChar (c.toNat % 16)] := by
      simp [hc, latinDigits]
    rw [hlast, hother hne]

/-- A quote is written behind a backslash. -/
theorem quote_in_escapeChar (h : escapeChar c = front ++ '"' :: back) : front = ['\\'] := by
  rcases exists_escapeChar c with ⟨hc, hinner⟩ | ⟨e, hc, -⟩ | ⟨hc, hlt, -⟩
  · rw [hc] at h
    cases front with
    | nil =>
      obtain ⟨rfl, -⟩ := List.cons_eq_cons.mp h
      exact ((isInner_iff.mp hinner).1.1 rfl).elim
    | cons d front => simp at h
  · rw [hc] at h
    cases front with
    | nil => simp at h
    | cons d front =>
      obtain ⟨rfl, h⟩ := List.cons_eq_cons.mp h
      cases front with
      | nil => rfl
      | cons d front => simp at h
  · have hmem : '"' ∈ '\\' :: 'u' :: latinDigits c.toNat := by
      rw [← hc, h]
      simp
    have hdigit : '"' ∈ latinDigits c.toNat := by simpa using hmem
    have hinner := isInner_of_mem_latinDigits hlt hdigit
    exact ((isInner_iff.mp hinner).1.1 rfl).elim

theorem quote_in_escaped {start : List Char} (hs : finalSlashes start % 2 = 0)
    (h : cs.flatMap escapeChar = front ++ '"' :: back) :
    finalSlashes (start ++ front) % 2 = 1 := by
  induction cs generalizing start front with
  | nil => simp at h
  | cons c cs ih =>
    have heven := even_append_escapeChar hs c
    rw [List.flatMap_cons, List.append_eq_append_iff] at h
    rcases h with ⟨more, rfl, hrest⟩ | ⟨part, hc, hrest⟩
    · rw [← List.append_assoc]
      exact ih heven hrest
    · cases part with
      | nil =>
        -- The quote is the first character of the rest.
        have hodd : finalSlashes (start ++ escapeChar c ++ []) % 2 = 1 := ih heven hrest.symm
        rw [List.append_nil] at hc hodd
        rwa [hc] at hodd
      | cons d part =>
        obtain ⟨rfl, -⟩ := List.cons_eq_cons.mp hrest
        rw [quote_in_escapeChar hc, finalSlashes_concat, if_pos rfl]
        omega

theorem even_escaped {start : List Char} (hs : finalSlashes start % 2 = 0) (cs : List Char) :
    finalSlashes (start ++ cs.flatMap escapeChar) % 2 = 0 := by
  induction cs generalizing start with
  | nil => rwa [List.flatMap_nil, List.append_nil]
  | cons c cs ih =>
    rw [List.flatMap_cons, ← List.append_assoc]
    exact ih (even_append_escapeChar hs c)

/-- The inside of a literal is read as the text that it is made from. No line ends in it, each
quote in it stands behind an odd number of backslashes, and the one that closes it behind an even
number. -/
theorem escaped_text_is_exact (s : String) :
    read? (escape s).toList = some s.toList ∧
      (∀ c ∈ (escape s).toList, isLineEnd c = false) ∧
        (∀ front back, (escape s).toList = front ++ '"' :: back → finalSlashes front % 2 = 1) ∧
          finalSlashes (escape s).toList % 2 = 0 := by
  have hstart : finalSlashes [] % 2 = 0 := rfl
  rw [escape, String.toList_ofList]
  refine ⟨?_, ?_, ?_, ?_⟩
  · obtain ⟨ds, htranslate, hresolve⟩ := exists_translated_text s.toList
    rw [read?, htranslate]
    exact hresolve
  · intro c hc
    obtain ⟨d, -, hd⟩ := List.mem_flatMap.mp hc
    exact not_isLineEnd_of_mem_escapeChar hd
  · intro front back h
    exact quote_in_escaped hstart h
  · exact even_escaped hstart s.toList

/-- Backslashes in front of a `u`, of a quote and of a character that is written by its number. -/
example : escape "\\u0041\\\"\\\x01" = "\\\\u0041\\\\\\\"\\\\\\u0001" := by decide

end CurlScribe.Java
