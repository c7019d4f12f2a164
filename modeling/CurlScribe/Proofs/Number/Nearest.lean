import CurlScribe.Proofs.Number.Digits

/-! Rounding: it depends on the value alone, and keeps what needs no rounding. -/
namespace CurlScribe

namespace Binary64

variable {num den c k : Nat}

theorem nearestUnits_mul (hc : 0 < c) (num den : Nat) :
    nearestUnits (num * c) (den * c) = nearestUnits num den := by
  have hd : num * c / (den * c) = num / den := Nat.mul_div_mul_right num den hc
  have hg (m : Nat) : m * (den * c) = m * den * c := (Nat.mul_assoc m den c).symm
  have hs (m : Nat) : 2 * (num * c - m * c) = 2 * (num - m) * c := by
    rw [← Nat.sub_mul, Nat.mul_assoc]
  simp only [nearestUnits, hd, hg, hs, Nat.mul_lt_mul_right hc]

theorem nearestRatio_mul (hc : 0 < c) (num den : Nat) :
    nearestRatio (num * c) (den * c) = nearestRatio num den := by
  rw [nearestRatio, nearestRatio, Nat.mul_right_comm, nearestUnits_mul hc]

/-! The definitions with powers as they are usually written. -/

theorem binade_eq : binade = 2 ^ 52 := by decide

theorem pow_eq (b n : Nat) : Nat.pow b n = b ^ n := rfl

theorem magnitude_eq (k : Nat) : magnitude k =
    if k < 2 ^ 52 then k else (2 ^ 52 + k % 2 ^ 52) * 2 ^ (k / 2 ^ 52 - 1) := by
  rw [magnitude, binade_eq, pow_eq]

theorem floorRank_eq (q : Nat) : floorRank q =
    if q < 2 ^ 53 then q else (q.log2 - 52) * 2 ^ 52 + q / 2 ^ (q.log2 - 52) := by
  have h53 : 2 * binade = 2 ^ 53 := by decide
  rw [floorRank, h53, binade_eq]
  rfl

theorem nearestRatio_eq (num den : Nat) :
    nearestRatio num den = nearestUnits (num * 2 ^ 1074) den := by
  rw [nearestRatio, pow_eq]

theorem infinityRank_eq : infinityRank = 2047 * 2 ^ 52 := by decide

theorem magnitude_of_lt (h : k < 2 ^ 52) : magnitude k = k := by rw [magnitude_eq, if_pos h]

theorem floorRank_magnitude (k : Nat) : floorRank (magnitude k) = k := by
  by_cases h : k < 2 ^ 52
  · rw [magnitude_of_lt h, floorRank_eq, if_pos (by omega)]
  · obtain ⟨e, he⟩ : ∃ e, k / 2 ^ 52 = e + 1 := ⟨k / 2 ^ 52 - 1, by omega⟩
    have hk : k = (e + 1) * 2 ^ 52 + k % 2 ^ 52 := by
      rw [← he, Nat.mul_comm]
      exact (Nat.div_add_mod k (2 ^ 52)).symm
    have hf : k % 2 ^ 52 < 2 ^ 52 := Nat.mod_lt _ (by decide)
    have hm : magnitude k = (2 ^ 52 + k % 2 ^ 52) * 2 ^ e := by
      rw [magnitude_eq, if_neg h, he, Nat.add_sub_cancel]
    rw [hm, floorRank_eq]
    generalize k % 2 ^ 52 = f at hk hf
    cases e with
    | zero => rw [if_pos (by omega)]; omega
    | succ e =>
      have hp : 0 < 2 ^ (e + 1) := Nat.pow_pos (by decide)
      have hlarge : ¬ (2 ^ 52 + f) * 2 ^ (e + 1) < 2 ^ 53 := by
        have : 2 ^ 52 * 2 ^ 1 ≤ (2 ^ 52 + f) * 2 ^ (e + 1) :=
          Nat.mul_le_mul (by omega) (Nat.pow_le_pow_right (by decide) (by omega))
        omega
      have hlog : ((2 ^ 52 + f) * 2 ^ (e + 1)).log2 = 52 + (e + 1) := by
        rw [Nat.log2_eq_iff (by omega), Nat.pow_add, Nat.pow_add, Nat.pow_add, Nat.pow_add]
        constructor
        · exact Nat.mul_le_mul_right _ (by omega)
        · rw [Nat.mul_right_comm]
          exact (Nat.mul_lt_mul_right hp).mpr (by omega)
      rw [if_neg hlarge]
      simp only [hlog, Nat.add_sub_cancel_left, Nat.mul_div_cancel _ hp]
      omega

theorem magnitude_lt_succ (k : Nat) : magnitude k < magnitude (k + 1) := by
  by_cases h : k + 1 < 2 ^ 52
  · rw [magnitude_of_lt h, magnitude_of_lt (by omega)]
    omega
  · by_cases hk : k < 2 ^ 52
    · obtain rfl : k = 2 ^ 52 - 1 := by omega
      decide
    · have hp : 0 < 2 ^ (k / 2 ^ 52 - 1) := Nat.pow_pos (by decide)
      simp only [magnitude_eq, h, hk, if_false]
      by_cases hf : k % 2 ^ 52 + 1 < 2 ^ 52
      · rw [show (k + 1) / 2 ^ 52 = k / 2 ^ 52 by omega,
          show (k + 1) % 2 ^ 52 = k % 2 ^ 52 + 1 by omega]
        exact (Nat.mul_lt_mul_right hp).mpr (by omega)
      · rw [show (k + 1) / 2 ^ 52 - 1 = k / 2 ^ 52 - 1 + 1 by omega,
          show (k + 1) % 2 ^ 52 = 0 by omega]
        generalize k / 2 ^ 52 - 1 = e at hp ⊢
        rw [Nat.pow_succ 2 e, Nat.mul_comm (2 ^ e) 2, ← Nat.mul_assoc]
        exact (Nat.mul_lt_mul_right hp).mpr (by omega)

/-- A magnitude rounds to itself. -/
theorem nearestUnits_magnitude (h : k < infinityRank) : nearestUnits (magnitude k) 1 = k := by
  have hlt := magnitude_lt_succ k
  have hgap : 0 < magnitude (k + 1) - magnitude k := by omega
  simp [nearestUnits, floorRank_magnitude, hgap]
  omega

theorem magnitude_pos (h : k ≠ 0) : 0 < magnitude k := by
  rw [magnitude_eq]
  split
  · omega
  · exact Nat.mul_pos (by omega) (Nat.pow_pos (by decide))

/-- Stated for any exponents, so that large ones are not computed. -/
theorem pow_mul_pow (b m n : Nat) : b ^ m * b ^ n = b ^ (m + n) := (Nat.pow_add b m n).symm

theorem magnitude_lt (h : k < infinityRank) : magnitude k < 2 ^ (1024 + 1074) := by
  have hlt (m : Nat) (hm : 52 < m) : 2 ^ 52 < 2 ^ m := Nat.pow_lt_pow_right (by decide) hm
  have hpos (m : Nat) : 0 < 2 ^ m := Nat.pow_pos (by decide)
  have hle (e m : Nat) (he : e ≤ m) : 2 ^ e ≤ 2 ^ m := Nat.pow_le_pow_right (by decide) he
  rw [magnitude_eq]
  split
  · exact Nat.lt_trans (by assumption) (hlt _ (by decide))
  · have he : k / 2 ^ 52 - 1 ≤ 2045 := by
      rw [infinityRank_eq] at h
      omega
    have hp : 2 ^ (k / 2 ^ 52 - 1) ≤ 2 ^ 2045 := hle _ 2045 he
    calc (2 ^ 52 + k % 2 ^ 52) * 2 ^ (k / 2 ^ 52 - 1)
      _ ≤ (2 ^ 52 + k % 2 ^ 52) * 2 ^ 2045 := Nat.mul_le_mul_left _ hp
      _ < 2 ^ 53 * 2 ^ 2045 := (Nat.mul_lt_mul_right (hpos 2045)).mpr (by omega)
      _ = 2 ^ (53 + 2045) := pow_mul_pow 2 53 2045
      _ = 2 ^ (1024 + 1074) := by rw [show 53 + 2045 = 1024 + 1074 from rfl]

theorem floorRank_lt {q e : Nat} (h : q < 2 ^ (e + 53)) : floorRank q < (e + 2) * 2 ^ 52 := by
  rw [floorRank_eq]
  split
  · omega
  · rename_i hq
    have hq0 : q ≠ 0 := by omega
    have hlow : 53 ≤ q.log2 := (Nat.le_log2 hq0).mpr (by omega)
    have hhigh : q.log2 < e + 53 := (Nat.log2_lt hq0).mpr h
    have hquot : q / 2 ^ (q.log2 - 52) < 2 ^ 53 := by
      rw [Nat.div_lt_iff_lt_mul (Nat.pow_pos (by decide)), pow_mul_pow,
        show 53 + (q.log2 - 52) = q.log2 + 1 by omega]
      exact (Nat.log2_lt hq0).mp (Nat.lt_succ_self _)
    omega

theorem nearestUnits_lt (h : floorRank (num / den) + 1 < infinityRank) :
    nearestUnits num den < infinityRank := by
  rw [nearestUnits]
  split
  · omega
  · split
    · omega
    · split <;> omega

theorem mul_pow_lt {n e : Nat} (h : n < 2 ^ e) (m : Nat) : n * 2 ^ m / 1 < 2 ^ (e + m) := by
  rw [Nat.div_one, Nat.pow_add]
  exact (Nat.mul_lt_mul_right (Nat.pow_pos (by decide))).mpr h

/-- A whole number of 64 bits is far below infinity. -/
theorem isFinite_ofNat {n : Nat} (h : n < 2 ^ 65) : (ofNat n).isFinite = true := by
  have hlt := mul_pow_lt h 1074
  rw [show 65 + 1074 = 1086 + 53 from rfl] at hlt
  have hrank := floorRank_lt hlt
  rw [isFinite, ofNat, nearestRatio_eq]
  refine decide_eq_true (nearestUnits_lt ?_)
  rw [infinityRank_eq]
  omega

theorem isFinite_ofInt {n : Int} (h : n.natAbs < 2 ^ 65) : (ofInt n).isFinite = true := by
  cases n with
  | ofNat n => exact isFinite_ofNat h
  | negSucc n => exact isFinite_ofNat h

end Binary64

namespace Decimal

open Binary64

variable {n k : Nat} {p : Int}

theorem rank_eq (d : Decimal) : d.rank =
    if d.digits = 0 then 0
    else if farPlace < d.power + (decimalDigits d.digits).length then infinityRank
    else if d.power + (decimalDigits d.digits).length < -farPlace then 0
    else if d.power < 0 then nearestRatio d.digits (10 ^ d.power.natAbs)
    else nearestRatio (d.digits * 10 ^ d.power.natAbs) 1 := by
  simp only [rank, pow_eq]

/-- Zeros behind the digits and the power of ten make up for each other. -/
theorem rank_mul_pow (n k : Nat) (p : Int) : rank ⟨n * 10 ^ k, p⟩ = rank ⟨n, p + k⟩ := by
  by_cases hn : n = 0
  · simp [rank_eq, hn]
  · have hp : 10 ^ k ≠ 0 := Nat.ne_of_gt (Nat.pow_pos (by decide))
    have hl := length_decimalDigits_mul_pow hn k
    have hplace : p + ((decimalDigits (n * 10 ^ k)).length : Int) =
        p + k + (decimalDigits n).length := by
      rw [hl]
      omega
    have hv : (if p < 0 then nearestRatio (n * 10 ^ k) (10 ^ p.natAbs)
          else nearestRatio (n * 10 ^ k * 10 ^ p.natAbs) 1) =
        if p + k < 0 then nearestRatio n (10 ^ (p + k).natAbs)
          else nearestRatio (n * 10 ^ (p + k).natAbs) 1 := by
      have hpos (m : Nat) : 0 < 10 ^ m := Nat.pow_pos (by decide)
      by_cases h : p < 0
      · rw [if_pos h]
        split
        · have he : p.natAbs = (p + k).natAbs + k := by omega
          rw [he, Nat.pow_add, nearestRatio_mul (hpos k)]
        · have he : k = (p + k).natAbs + p.natAbs := by omega
          have hm := nearestRatio_mul (hpos p.natAbs) (n * 10 ^ (p + k).natAbs) 1
          rwa [Nat.mul_assoc, ← Nat.pow_add, ← he, Nat.one_mul] at hm
      · have he : (p + k).natAbs = k + p.natAbs := by omega
        rw [if_neg h, if_neg (by omega), he, Nat.pow_add, Nat.mul_assoc]
    simp only [rank_eq, Nat.mul_eq_zero, hn, hp, or_self, if_false, hplace, hv]

end Decimal

end CurlScribe
