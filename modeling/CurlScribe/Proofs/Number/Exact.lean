import CurlScribe.Proofs.Number.Nearest

/-! Numbers that need no rounding, and their products and quotients: each is the number nearest to
the exact result. -/
namespace CurlScribe

namespace Binary64

variable {m e : Nat}

/-- The magnitudes of 53 binary digits. -/
theorem magnitude_of_binade {f : Nat} (hlow : 2 ^ 52 ≤ f) (hhigh : f < 2 ^ 53) (g : Nat) :
    magnitude ((g + 1) * 2 ^ 52 + (f - 2 ^ 52)) = f * 2 ^ g := by
  have hbinade : ((g + 1) * 2 ^ 52 + (f - 2 ^ 52)) / 2 ^ 52 - 1 = g := by omega
  have hdigits : 2 ^ 52 + ((g + 1) * 2 ^ 52 + (f - 2 ^ 52)) % 2 ^ 52 = f := by omega
  rw [magnitude_eq, if_neg (by omega), hbinade, hdigits]

/-- Every number of at most 53 binary digits is a magnitude, wherever its digits stand. -/
theorem exists_magnitude (hm : m < 2 ^ 53) (e : Nat) : ∃ k, magnitude k = m * 2 ^ e := by
  by_cases hsmall : m * 2 ^ e < 2 ^ 52
  · exact ⟨_, magnitude_of_lt hsmall⟩
  · have h0 : m ≠ 0 := by
      rintro rfl
      simp at hsmall
    have hlog : m.log2 ≤ 52 := by
      have := (Nat.log2_lt h0).mpr hm
      omega
    have hself : 2 ^ m.log2 ≤ m := Nat.log2_self_le h0
    have hnext : m < 2 ^ (m.log2 + 1) := Nat.lt_log2_self
    have hexp : 52 - m.log2 ≤ e := by
      refine Nat.le_of_not_lt fun hlt => ?_
      have hlt : m.log2 + 1 + e ≤ 52 := by omega
      have hle : 2 ^ (m.log2 + 1 + e) ≤ 2 ^ 52 := Nat.pow_le_pow_right (by decide) hlt
      rw [Nat.pow_add] at hle
      have := (Nat.mul_lt_mul_right (Nat.pow_pos (n := e) (show 0 < 2 by decide))).mpr hnext
      omega
    obtain ⟨g, rfl⟩ : ∃ g, e = 52 - m.log2 + g := ⟨e - (52 - m.log2), by omega⟩
    have hlow : 2 ^ 52 ≤ m * 2 ^ (52 - m.log2) := by
      calc 2 ^ 52 = 2 ^ m.log2 * 2 ^ (52 - m.log2) := by
            rw [pow_mul_pow, show m.log2 + (52 - m.log2) = 52 by omega]
        _ ≤ m * 2 ^ (52 - m.log2) := Nat.mul_le_mul_right _ hself
    have hhigh : m * 2 ^ (52 - m.log2) < 2 ^ 53 := by
      calc m * 2 ^ (52 - m.log2) < 2 ^ (m.log2 + 1) * 2 ^ (52 - m.log2) :=
            (Nat.mul_lt_mul_right (Nat.pow_pos (by decide))).mpr hnext
        _ = 2 ^ 53 := by rw [pow_mul_pow, show m.log2 + 1 + (52 - m.log2) = 53 by omega]
    rw [Nat.pow_add, ← Nat.mul_assoc]
    exact ⟨_, magnitude_of_binade hlow hhigh g⟩

theorem magnitude_nearestUnits (hm : m < 2 ^ 53) (he : e ≤ 2000) :
    magnitude (nearestUnits (m * 2 ^ e) 1) = m * 2 ^ e := by
  obtain ⟨k, hk⟩ := exists_magnitude hm e
  have hlt : magnitude k < 2 ^ (e + 53) := by
    rw [hk, Nat.add_comm, Nat.pow_add]
    exact (Nat.mul_lt_mul_right (Nat.pow_pos (by decide))).mpr hm
  have hrank := floorRank_lt hlt
  rw [floorRank_magnitude] at hrank
  have hfinite : k < infinityRank := by
    rw [infinityRank_eq]
    exact Nat.lt_of_lt_of_le hrank (Nat.mul_le_mul_right _ (by omega))
  rw [← hk, nearestUnits_magnitude hfinite]

theorem nearestUnits_mul_pow (num den e : Nat) :
    nearestUnits (num * 2 ^ e) (den * 2 ^ e) = nearestUnits num den :=
  nearestUnits_mul (Nat.pow_pos (by decide)) num den

theorem mulRank_eq {a b x y : Nat} (ha : magnitude a = x * 2 ^ 1074)
    (hb : magnitude b = y * 2 ^ 1074) : mulRank a b = nearestRatio (x * y) 1 := by
  have hmul (u : Nat) : x * u * (y * u) = x * y * u * u := by
    rw [Nat.mul_mul_mul_comm, ← Nat.mul_assoc]
  have hcancel := nearestUnits_mul_pow (x * y * 2 ^ 1074) 1 1074
  rw [Nat.one_mul] at hcancel
  simp only [mulRank, pow_eq, ha, hb, hmul, hcancel, nearestRatio_eq]

theorem divRank_eq {a b x y : Nat} (ha : magnitude a = x * 2 ^ 1074)
    (hb : magnitude b = y * 2 ^ 1074) : divRank a b = nearestRatio x y := by
  simp only [divRank, pow_eq, ha, hb, nearestUnits_mul_pow, nearestRatio_eq]

theorem nearestRatio_zero (den : Nat) : nearestRatio 0 den = 0 := by
  have hfloor : floorRank 0 = 0 := rfl
  have hlow : magnitude 0 = 0 := rfl
  rw [nearestRatio_eq, Nat.zero_mul, nearestUnits, Nat.zero_div, hfloor, hlow]
  simp

theorem magnitude_ofNat (hm : m < 2 ^ 53) : magnitude (ofNat m).rank = m * 2 ^ 1074 := by
  rw [ofNat, nearestRatio_eq]
  exact magnitude_nearestUnits hm (by decide)

end Binary64

namespace Decimal

open Binary64

variable {n s : Nat} {p : Int}

/-- Powers of ten up to this one are whole numbers of 53 binary digits, but for factors of two. -/
def exactPower : Nat := 22

theorem rank_near (hs : s < 2 ^ 53) (hp : p.natAbs ≤ exactPower) : rank ⟨s, p⟩ =
    if p < 0 then nearestRatio s (10 ^ p.natAbs) else nearestRatio (s * 10 ^ p.natAbs) 1 := by
  rw [exactPower] at hp
  by_cases h0 : s = 0
  · subst h0
    simp [rank_eq, nearestRatio_zero]
  · have hlength : (decimalDigits s).length ≤ 16 :=
      (length_decimalDigits_le_iff (by decide)).mpr (by omega)
    rw [rank_eq, if_neg h0, farPlace, if_neg (by simp only; omega), if_neg (by simp only; omega)]

theorem magnitude_powerOfTen (hn : n ≤ exactPower) :
    magnitude (rank ⟨1, n⟩) = 10 ^ n * 2 ^ 1074 := by
  have hfive : 5 ^ n < 2 ^ 53 :=
    Nat.lt_of_le_of_lt (Nat.pow_le_pow_right (by decide) hn) (by decide)
  have hten (e : Nat) : 10 ^ n * 2 ^ e = 5 ^ n * 2 ^ (n + e) := by
    rw [Nat.pow_add, ← Nat.mul_assoc, ← Nat.mul_pow]
  rw [rank_near (by decide) (by simpa using hn), if_neg (by omega), Nat.one_mul, Int.natAbs_natCast,
    nearestRatio_eq, hten]
  exact magnitude_nearestUnits hfive (by rw [exactPower] at hn; omega)

end Decimal

end CurlScribe
