import CurlScribe.Json.Reader
import CurlScribe.Proofs.Number.PlainText

/-! The numerals that numbers are written as: what they consist of, and that whole numbers are read
back from theirs. -/
namespace CurlScribe

variable {n : Nat} {c : Char} {cs : List Char}

theorem digitsValue_cons (start : Nat) (c : Char) (cs : List Char) :
    digitsValue start (c :: cs) = digitsValue (10 * start + digitValue c) cs := by
  rw [digitsValue, List.foldl_cons, digitsValue]

theorem le_digitsValue (start : Nat) (cs : List Char) : start ≤ digitsValue start cs := by
  induction cs generalizing start with
  | nil => exact Nat.le_refl start
  | cons c cs ih =>
    rw [digitsValue_cons]
    exact Nat.le_trans (by omega) (ih _)

theorem head_decimalDigits (hn : n ≠ 0) : (decimalDigits n).head? ≠ some '0' := by
  induction n using Nat.strongRecOn with
  | ind n ih =>
    rw [decimalDigits]
    by_cases hlt : n < 10
    · simp [Nat.toDigits_of_lt_base hlt, hn]
    · have hhead := ih (n / 10) (by omega) (by omega)
      obtain ⟨d, ds, hds⟩ := List.exists_cons_of_ne_nil (decimalDigits_ne_nil (n / 10))
      rw [hds] at hhead
      rw [decimalDigits] at hds
      rw [Nat.toDigits_of_base_le (by decide) (by omega), hds]
      exact hhead

namespace Json

theorem wholeDigits_eq (start : Nat) (cs : List Char)
    (h : digitsValue start cs < 0x10000000000000000) :
    wholeDigits start cs = ⟨digitsValue start cs, 0⟩ := by
  induction cs generalizing start with
  | nil => rfl
  | cons c cs ih =>
    rw [digitsValue_cons] at h ⊢
    have hnext := le_digitsValue (10 * start + digitValue c) cs
    rw [wholeDigits, if_pos (by omega)]
    exact ih _ h

/-! Numerals are made of digits, signs, points and exponent marks. -/

theorem isNumberChar_of_isDigit (h : c.isDigit = true) : isNumberChar c = true := by
  simp [isNumberChar, h]

theorem all_of_digits (h : ∀ c ∈ cs, c.isDigit = true) : cs.all isNumberChar = true :=
  List.all_eq_true.mpr fun c hc => isNumberChar_of_isDigit (h c hc)

theorem all_decimalDigits (n : Nat) : (decimalDigits n).all isNumberChar = true :=
  all_of_digits fun _ => isDigit_of_mem_decimalDigits

theorem all_jsonText (x : Binary64) : x.jsonText.all isNumberChar = true := by
  have hsign : (if x.negative then ['-'] else []).all isNumberChar = true := by
    cases x.negative <;> rfl
  rw [Binary64.jsonText]
  simp only
  split
  · obtain ⟨-, hdigit⟩ := Decimal.isDigit_positional (Decimal.shortest .even x.rank)
    generalize (Decimal.shortest .even x.rank).positional = parts at hdigit ⊢
    have hwhole : parts.1.all isNumberChar = true :=
      all_of_digits fun c hc => hdigit c (List.mem_append_left _ hc)
    have hfraction : (if parts.2.isEmpty then ['0'] else parts.2).all isNumberChar = true := by
      split
      · rfl
      · exact all_of_digits fun c hc => hdigit c (List.mem_append_right _ hc)
    rw [List.all_append, List.all_append, List.all_cons, hsign, hwhole, hfraction]
    rfl
  · have hdigits := all_decimalDigits (Decimal.shortest .even x.rank).digits
    rw [← List.take_append_drop 1 (decimalDigits _), List.all_append, Bool.and_eq_true] at hdigits
    rw [List.splitAt_eq]
    obtain ⟨hlead, hrest⟩ := hdigits
    have hmantissa : (if ((decimalDigits (Decimal.shortest .even x.rank).digits).drop 1).isEmpty
        then [] else '.' :: (decimalDigits (Decimal.shortest .even x.rank).digits).drop 1).all
          isNumberChar = true := by
      split
      · rfl
      · exact hrest
    have hmark : isNumberChar
        (if (Decimal.shortest .even x.rank).exponent < 0 then '-' else '+') = true := by
      split <;> rfl
    simp only [List.all_append, List.all_cons, hsign, hlead, hmantissa, hmark, all_decimalDigits]
    rfl

namespace Number

theorem all_text (n : Number) : n.text.all isNumberChar = true := by
  cases n with
  | whole m low high =>
    cases m with
    | ofNat m => exact all_decimalDigits m
    | negSucc m => exact all_decimalDigits (m + 1)
  | real x finite => exact all_jsonText x

theorem text_ne_nil (n : Number) : n.text ≠ [] := by
  cases n with
  | whole m low high =>
    cases m with
    | ofNat m => exact decimalDigits_ne_nil m
    | negSucc m => exact List.cons_ne_nil _ _
  | real x finite =>
    rw [text, Binary64.jsonText]
    simp only
    split <;> simp

theorem unsignedNumber_decimalDigits (negative : Bool) (h : n < 0x10000000000000000) :
    unsignedNumber negative (decimalDigits n) =
      if negative && (n == 0 || 0x8000000000000000 < n) then Numeral.toReal? negative ⟨n, 0⟩
      else Number.ofInt? (if negative then -n else n) := by
  have hdigit : ∀ c ∈ decimalDigits n, c.isDigit = true := fun c => isDigit_of_mem_decimalDigits
  obtain ⟨ht, hd⟩ := Argument.takeWhile_digits hdigit [] (by simp)
  rw [List.append_nil] at ht hd
  have hlead : ((decimalDigits n).head? == some '0' && decide (1 < (decimalDigits n).length)) =
      false := by
    by_cases hn : n = 0
    · subst hn
      rfl
    · simp [head_decimalDigits hn]
  have hvalue := wholeDigits_eq 0 (decimalDigits n) (by rwa [digitsValue_decimalDigits])
  rw [digitsValue_decimalDigits] at hvalue
  simp [unsignedNumber, ht, hd, hlead, decimalDigits_ne_nil, hvalue]

/-- A minus sign is cut off, and a digit is none. -/
theorem ofChars_of_digit (hc : c.isDigit = true) (negative : Bool) (cs : List Char) :
    ofChars? ((if negative then ['-'] else []) ++ c :: cs) = unsignedNumber negative (c :: cs) := by
  cases negative with
  | true => rfl
  | false =>
    simp only [Bool.false_eq_true, if_false, List.nil_append]
    unfold ofChars?
    split
    · rename_i heq
      obtain ⟨rfl, -⟩ := List.cons.inj heq
      exact absurd hc (by decide)
    · rfl

theorem ofChars_decimalDigits (h : n < 0x10000000000000000) :
    ofChars? (decimalDigits n) = some (.whole n (by omega) (by omega)) := by
  obtain ⟨c, cs, hc, hd⟩ := Argument.exists_cons_decimalDigits n
  have hsign := ofChars_of_digit hd false cs
  have hu := unsignedNumber_decimalDigits false h
  rw [← hc] at hsign
  refine hsign.trans (hu.trans ?_)
  simp [ofInt?]
  omega

/-- A whole number is read back from its text. -/
theorem ofChars_whole (m : Int) (low : -0x8000000000000000 ≤ m) (high : m < 0x10000000000000000) :
    ofChars? (text (.whole m low high)) = some (.whole m low high) := by
  cases m with
  | ofNat n =>
    have hn : (n : Int) < 0x10000000000000000 := high
    exact ofChars_decimalDigits (by omega)
  | negSucc n =>
    have hn : n + 1 ≤ 0x8000000000000000 := by omega
    have hreal : (true && (n + 1 == 0 || decide (0x8000000000000000 < n + 1))) = false := by
      simpa using hn
    have hneg : -((n + 1 : Nat) : Int) = Int.negSucc n := rfl
    rw [text, ofChars?, unsignedNumber_decimalDigits true (by omega), hreal, if_neg (by decide),
      if_pos rfl, hneg, ofInt?, dif_pos ⟨low, high⟩]

end Number

end Json

end CurlScribe
