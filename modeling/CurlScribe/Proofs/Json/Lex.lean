import CurlScribe.Proofs.Json.Numeral
import CurlScribe.Proofs.Text.Cut

/-! Tokens are cut off the text as they were written: strings by their quotes, numerals where
something else follows. -/
namespace CurlScribe.Json

variable {c e : Char} {cs rest tail : List Char}

/-- A character in front of what is read of a string. -/
def before (c : Char) (read : List Char × List Char) : List Char × List Char :=
  (c :: read.1, read.2)

theorem quoted_short (he : shortEscape? e = some c) (tail : List Char) :
    quoted ('\\' :: e :: tail) = (quoted tail).map (before c) := by
  have hu : e ≠ 'u' := by
    rintro rfl
    simp [shortEscape?] at he
  rw [quoted, he]
  · rfl
  · rintro a b c d rest rfl
    exact (hu rfl).elim

theorem quoted_control (hc : c.toNat < 0x20) (tail : List Char) :
    quoted ('\\' :: 'u' :: '0' :: '0' :: hexDigit (c.toNat / 16) :: hexDigit c.toNat :: tail) =
      (quoted tail).map (before c) := by
  have hall : ∀ n < 0x20, unitValue? '0' '0' (hexDigit (n / 16)) (hexDigit n) = some n := by decide
  have hlow : (decide (0xD800 ≤ c.toNat) && decide (c.toNat ≤ 0xDFFF)) = false := by
    simp
    omega
  rw [quoted, hall c.toNat hc]
  simp only [hlow, Char.ofNat_toNat]
  rfl

theorem quoted_plain (hc : ¬ c.toNat < 0x20) (hquote : c ≠ '"') (hback : c ≠ '\\')
    (tail : List Char) : quoted (c :: tail) = (quoted tail).map (before c) := by
  rw [quoted]
  · simp only [hc, beq_false_of_ne hback]
    rfl
  · rintro rfl
    exact (hquote rfl).elim
  · rintro a b c d rest rfl
    exact (hback rfl).elim
  · rintro e rest rfl
    exact (hback rfl).elim

/-- A character that is written inside quotes is read there. -/
theorem quoted_escapeChar (c : Char) (tail : List Char) :
    quoted (escapeChar c ++ tail) = (quoted tail).map (before c) := by
  unfold escapeChar
  split
  case h_8 hquote hback hbackspace htab hline hform hreturn =>
    split
    · exact quoted_control (by assumption) tail
    · exact quoted_plain (by assumption) hquote hback tail
  all_goals exact quoted_short rfl tail

/-- Written characters are read up to the closing quote. -/
theorem quoted_written (cs rest : List Char) :
    quoted (cs.flatMap escapeChar ++ '"' :: rest) = some (cs, rest) := by
  induction cs with
  | nil => rw [List.flatMap_nil, List.nil_append, quoted]
  | cons c cs ih =>
    rw [List.flatMap_cons, List.append_assoc, quoted_escapeChar, ih]
    rfl

/-- What the text goes on with is no part of a numeral. -/
def Breaks (rest : List Char) : Prop := ∀ c ∈ rest.head?, isNumberChar c = false

theorem lex_numberChar (hc : isNumberChar c = true) (cs : List Char) : lex (c :: cs) =
    (Number.ofChars? (c :: cs.takeWhile isNumberChar)).bind fun n =>
      (lex (cs.dropWhile isNumberChar)).map (.num n :: ·) := by
  have hspace : isSpace c = false := by
    cases hs : isSpace c with
    | false => rfl
    | true =>
      simp only [isSpace, Bool.or_eq_true, beq_iff_eq] at hs
      rcases hs with ((rfl | rfl) | rfl) | rfl <;> simp [isNumberChar] at hc
  have hne (d : Char) (hd : isNumberChar d = false) : c ≠ d := by
    rintro rfl
    simp [hd] at hc
  rw [lex, if_neg (by simp [hspace]), if_pos hc]
  · cases Number.ofChars? (c :: cs.takeWhile isNumberChar) <;> rfl
  -- No other token starts with a character of a numeral.
  all_goals first
    | exact hne _ (by decide)
    | exact fun _ h _ => hne _ (by decide) h

/-- A numeral is one token. -/
theorem lex_numeral (hne : cs ≠ []) (hall : cs.all isNumberChar = true) (hrest : Breaks rest) :
    lex (cs ++ rest) = (Number.ofChars? cs).bind fun n => (lex rest).map (.num n :: ·) := by
  obtain ⟨c, ds, rfl⟩ := List.exists_cons_of_ne_nil hne
  have hmem := List.all_eq_true.mp hall
  have hds : ∀ d ∈ ds, isNumberChar d = true := fun d hd => hmem d (by simp [hd])
  rw [List.cons_append, lex_numberChar (hmem c (by simp)), Text.takeWhile_append_stop hds hrest,
    Text.dropWhile_append_stop hds hrest]

def Token.isNumeral : Token → Bool
  | num _ => true
  | _ => false

/-- Every other token is cut off as it was written. -/
theorem lex_token {t : Token} (ht : t.isNumeral = false) (rest : List Char) :
    lex (t.text ++ rest) = (lex rest).map (t :: ·) := by
  cases t with
  | num n => simp [Token.isNumeral] at ht
  | str s =>
    have hq := quoted_written s.toList rest
    rw [Token.text, List.append_assoc, List.cons_append, List.singleton_append, lex]
    split
    · rename_i h
      simp [hq] at h
    · rename_i body tail h
      obtain ⟨rfl, rfl⟩ : s.toList = body ∧ rest = tail := by simpa [hq] using h
      rw [String.ofList_toList]
  | bool b => cases b <;> exact lex.eq_def _
  | _ => exact lex.eq_def _

end CurlScribe.Json
