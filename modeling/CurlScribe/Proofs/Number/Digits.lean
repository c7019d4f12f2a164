import CurlScribe.Number.Decimal
import Mathlib.Algebra.Group.Nat.Defs

/-! Decimal digits: they read back, and a factor of ten adds one. -/
namespace CurlScribe

variable {n k : Nat} {c : Char} {cs ds : List Char}

theorem digitsValue_decimalDigits (n : Nat) : digitsValue 0 (decimalDigits n) = n :=
  Nat.ofDigitChars_ten_toDigits

theorem isDigit_of_mem_decimalDigits (h : c ∈ decimalDigits n) : c.isDigit = true :=
  Nat.isDigit_of_mem_toDigits (by decide) (by decide) h

theorem decimalDigits_ne_nil (n : Nat) : decimalDigits n ≠ [] := Nat.toDigits_ne_nil

theorem digitsValue_append_zeros (start k : Nat) (cs : List Char) :
    digitsValue start (cs ++ List.replicate k '0') = 10 ^ k * digitsValue start cs := by
  have h := Nat.ofDigitChars_append (b := 10) (l := cs) (m := List.replicate k '0') start
  rw [Nat.ofDigitChars_replicate_zero] at h
  exact h

theorem digitsValue_zeros_append (k : Nat) (cs : List Char) :
    digitsValue 0 (List.replicate k '0' ++ cs) = digitsValue 0 cs := by
  have h := Nat.ofDigitChars_append (b := 10) (l := List.replicate k '0') (m := cs) 0
  rw [Nat.ofDigitChars_replicate_zero, Nat.mul_zero] at h
  exact h

theorem length_decimalDigits_le_iff (hk : 0 < k) :
    (decimalDigits n).length ≤ k ↔ n < 10 ^ k :=
  Nat.length_toDigits_le_iff (by decide) hk

theorem length_decimalDigits_pos (n : Nat) : 0 < (decimalDigits n).length :=
  Nat.length_toDigits_pos

theorem length_decimalDigits_mul_pow (hn : n ≠ 0) (k : Nat) :
    (decimalDigits (n * 10 ^ k)).length = (decimalDigits n).length + k := by
  have hp : 0 < 10 ^ k := Nat.pow_pos (by decide)
  have hl := length_decimalDigits_pos n
  apply Nat.le_antisymm
  · rw [length_decimalDigits_le_iff (by omega), Nat.pow_add]
    exact (Nat.mul_lt_mul_right hp).mpr ((length_decimalDigits_le_iff hl).mp (Nat.le_refl _))
  · apply Nat.le_of_not_lt
    intro hlt
    have hm := length_decimalDigits_pos (n * 10 ^ k)
    have hle : (decimalDigits (n * 10 ^ k)).length ≤ (decimalDigits n).length - 1 + k := by omega
    by_cases h1 : (decimalDigits n).length = 1
    · rw [h1, length_decimalDigits_le_iff (by omega), Nat.sub_self, Nat.zero_add] at hle
      have := Nat.le_mul_of_pos_left (10 ^ k) (Nat.pos_of_ne_zero hn)
      omega
    · rw [length_decimalDigits_le_iff (by omega), Nat.pow_add] at hle
      have hn' := (Nat.mul_lt_mul_right hp).mp hle
      rw [← length_decimalDigits_le_iff (by omega)] at hn'
      omega

end CurlScribe
