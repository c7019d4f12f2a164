import CurlScribe.Number.Argument
import CurlScribe.Proofs.Number.Nearest
import CurlScribe.Text.Blank

/-! The plain text of a number reads back as the number. -/
namespace CurlScribe

namespace Decimal

open Binary64

variable {n k : Nat} {tie : Tie} {d : Decimal}

theorem rank_dropZeros (fuel : Nat) (d : Decimal) : (dropZeros fuel d).rank = d.rank := by
  induction fuel generalizing d with
  | zero => rfl
  | succ fuel ih =>
    rw [dropZeros]
    split
    · rename_i h
      have hd : d = ⟨d.digits / 10 * 10 ^ 1, d.power⟩ := by
        have h10 : d.digits % 10 = 0 := by simp_all
        cases d
        simp only [Decimal.mk.injEq, and_true]
        dsimp only at h10
        omega
      rw [ih]
      conv => rhs; rw [hd]
      exact (rank_mul_pow (d.digits / 10) 1 d.power).symm
    · rfl

theorem two_pow_mul_five_pow (m : Nat) : 2 ^ m * 5 ^ m = 10 ^ m := (Nat.mul_pow 2 5 m).symm

theorem digits_exactOf (k : Nat) : (exactOf k).digits = magnitude k * 5 ^ 1074 := by
  rw [exactOf, pow_eq]

/-- An exact decimal has its leading digit within reach. -/
theorem place_exactOf (h0 : k ≠ 0) (h : k < infinityRank) :
    674 ≤ (decimalDigits (exactOf k).digits).length ∧
      (decimalDigits (exactOf k).digits).length ≤ 1474 := by
  have hten (m : Nat) : (10 ^ 2) ^ m ≤ (5 ^ 3) ^ m := Nat.pow_le_pow_left (by decide) m
  have hfive (m : Nat) : 0 < 5 ^ m := Nat.pow_pos (by decide)
  have height (m n : Nat) : 8 ^ m * n ≤ 10 ^ m * n :=
    Nat.mul_le_mul_right n (Nat.pow_le_pow_left (by decide) m)
  have hlow : 10 ^ 673 ≤ (exactOf k).digits :=
    calc 10 ^ 673
      _ ≤ 10 ^ (2 * 358) := Nat.pow_le_pow_right (by decide) (by decide)
      _ = (10 ^ 2) ^ 358 := Nat.pow_mul 10 2 358
      _ ≤ (5 ^ 3) ^ 358 := hten 358
      _ = 5 ^ (3 * 358) := (Nat.pow_mul 5 3 358).symm
      _ ≤ magnitude k * 5 ^ (3 * 358) := Nat.le_mul_of_pos_left _ (magnitude_pos h0)
      _ = (exactOf k).digits := by rw [digits_exactOf]
  have hhigh : (exactOf k).digits < 10 ^ (400 + 1074) :=
    calc (exactOf k).digits
      _ = magnitude k * 5 ^ 1074 := digits_exactOf k
      _ < 2 ^ (1024 + 1074) * 5 ^ 1074 := (Nat.mul_lt_mul_right (hfive 1074)).mpr (magnitude_lt h)
      _ = 2 ^ 1024 * (2 ^ 1074 * 5 ^ 1074) := by rw [Nat.pow_add 2 1024 1074, Nat.mul_assoc]
      _ = 2 ^ 1024 * 10 ^ 1074 := by rw [two_pow_mul_five_pow]
      _ ≤ 2 ^ (3 * 400) * 10 ^ 1074 :=
        Nat.mul_le_mul_right _ (Nat.pow_le_pow_right (by decide) (by decide))
      _ = 8 ^ 400 * 10 ^ 1074 := by rw [Nat.pow_mul 2 3 400]
      _ ≤ 10 ^ 400 * 10 ^ 1074 := height 400 (10 ^ 1074)
      _ = 10 ^ (400 + 1074) := pow_mul_pow 10 400 1074
  constructor
  · apply Nat.le_of_not_lt
    intro hl
    exact Nat.not_lt.mpr hlow ((length_decimalDigits_le_iff (by decide)).mp (Nat.le_of_lt_succ hl))
  · exact (length_decimalDigits_le_iff (by decide)).mpr hhigh

/-- Every finite magnitude is read back from its exact decimal. -/
theorem rank_exactOf (h0 : k ≠ 0) (h : k < infinityRank) : (exactOf k).rank = k := by
  obtain ⟨hlow, hhigh⟩ := place_exactOf h0 h
  have hd : (exactOf k).digits ≠ 0 := by
    intro hz
    rw [hz] at hlow
    simp [decimalDigits] at hlow
  have hp : (exactOf k).power = -1074 := rfl
  have hfar : ¬ farPlace < (exactOf k).power + (decimalDigits (exactOf k).digits).length := by
    rw [hp, farPlace]
    omega
  have hnear : ¬ (exactOf k).power + (decimalDigits (exactOf k).digits).length < -farPlace := by
    rw [hp, farPlace]
    omega
  rw [rank_eq, if_neg hd, if_neg hfar, if_neg hnear, if_pos (by rw [hp]; decide)]
  have hpos (m : Nat) : 0 < 10 ^ m := Nat.pow_pos (by decide)
  have hm : magnitude k * 5 ^ 1074 * 2 ^ 1074 = magnitude k * 10 ^ 1074 := by
    rw [Nat.mul_assoc, Nat.mul_comm (5 ^ 1074), two_pow_mul_five_pow]
  calc nearestRatio (exactOf k).digits (10 ^ (exactOf k).power.natAbs)
    _ = nearestUnits (magnitude k * 5 ^ 1074 * 2 ^ 1074) (10 ^ 1074) := by
      rw [nearestRatio_eq, digits_exactOf, hp]
      rfl
    _ = nearestUnits (magnitude k * 10 ^ 1074) (1 * 10 ^ 1074) := by rw [hm, Nat.one_mul]
    _ = nearestUnits (magnitude k) 1 := nearestUnits_mul (hpos 1074) _ _
    _ = k := nearestUnits_magnitude h

theorem rank_around {power : Int} (h : around tie k power = some d) : d.rank = k := by
  have hpick (first second : Decimal) (hf : (if first.rank = k then some first
      else if second.rank = k then some second else none) = some d) : d.rank = k := by
    split at hf
    · simp_all
    · split at hf <;> simp_all
  exact hpick _ _ h

/-- The shortest numeral of a rank reads back as the rank. -/
theorem rank_shortest (tie : Tie) (h : k < infinityRank) : (shortest tie k).rank = k := by
  by_cases h0 : k = 0
  · subst h0
    rfl
  · simp only [shortest, if_neg h0]
    split
    · rename_i d hd
      obtain ⟨n, -, hn⟩ := List.exists_of_findSome?_eq_some hd
      rw [rank_dropZeros, rank_around hn]
    · rw [rank_dropZeros, rank_exactOf h0 h]

/-- The digits of a numeral and the number of places of its fraction give it back. -/
theorem rank_positional (d : Decimal) :
    rank ⟨digitsValue 0 (d.positional.1 ++ d.positional.2), -(d.positional.2.length : Int)⟩ =
      d.rank := by
  simp only [positional]
  split
  · rename_i h
    have hp : 0 + (d.power.natAbs : Int) = d.power := by omega
    have hr := rank_mul_pow d.digits d.power.natAbs 0
    rw [hp] at hr
    simp only [List.append_nil, digitsValue_append_zeros, digitsValue_decimalDigits,
      List.length_nil, Nat.mul_comm (10 ^ d.power.natAbs)]
    exact hr
  · rename_i h
    have hp : -(d.power.natAbs : Int) = d.power := by omega
    split
    · rename_i hl
      have hlen : ((decimalDigits d.digits).drop
          ((decimalDigits d.digits).length - d.power.natAbs)).length = d.power.natAbs := by
        rw [List.length_drop]
        omega
      rw [List.take_append_drop, hlen, hp, digitsValue_decimalDigits]
    · rename_i hl
      have hz : ['0'] ++ (List.replicate (d.power.natAbs - (decimalDigits d.digits).length) '0' ++
          decimalDigits d.digits) = List.replicate
            (d.power.natAbs - (decimalDigits d.digits).length + 1) '0' ++
              decimalDigits d.digits := by
        rw [List.replicate_succ]
        rfl
      have hlen : (List.replicate (d.power.natAbs - (decimalDigits d.digits).length) '0' ++
          decimalDigits d.digits).length = d.power.natAbs := by
        rw [List.length_append, List.length_replicate]
        omega
      rw [hz, digitsValue_zeros_append, hlen, hp, digitsValue_decimalDigits]

theorem isDigit_positional (d : Decimal) :
    d.positional.1 ≠ [] ∧ ∀ c ∈ d.positional.1 ++ d.positional.2, c.isDigit = true := by
  have hd : ∀ c ∈ decimalDigits d.digits, c.isDigit = true := fun c hc =>
    isDigit_of_mem_decimalDigits hc
  have hne := decimalDigits_ne_nil d.digits
  simp only [positional]
  split
  · refine ⟨by simp [hne], ?_⟩
    simp only [List.append_nil, List.mem_append, List.mem_replicate]
    rintro c (hc | ⟨-, rfl⟩)
    · exact hd c hc
    · rfl
  · split
    · refine ⟨fun h => ?_, ?_⟩
      · have := congrArg List.length h
        simp only [List.length_take, List.length_nil] at this
        omega
      · rw [List.take_append_drop]
        exact hd
    · refine ⟨by simp, ?_⟩
      simp only [List.mem_append, List.mem_singleton, List.mem_replicate]
      rintro c (rfl | ⟨-, rfl⟩ | hc)
      · rfl
      · rfl
      · exact hd c hc

end Decimal

namespace Argument

variable {cs : List Char} {x : Binary64} {whole fraction : List Char}

theorem takeWhile_digits (h : ∀ c ∈ cs, c.isDigit = true) (rest : List Char)
    (hr : ∀ c more, rest = c :: more → c.isDigit = false) :
    (cs ++ rest).takeWhile Char.isDigit = cs ∧ (cs ++ rest).dropWhile Char.isDigit = rest := by
  rw [List.takeWhile_append_of_pos h, List.dropWhile_append_of_pos h]
  cases rest with
  | nil => simp
  | cons c more => simp [hr c more rfl]

/-- A whole part and a fraction, with a point between them where there is a fraction. -/
theorem decimal_positional (hw : whole ≠ []) (h : ∀ c ∈ whole ++ fraction, c.isDigit = true) :
    decimal? (whole ++ if fraction.isEmpty then [] else '.' :: fraction) =
      some ⟨digitsValue 0 (whole ++ fraction), -(fraction.length : Int)⟩ := by
  have hwhole : ∀ c ∈ whole, c.isDigit = true := fun c hc => h c (by simp [hc])
  have hfraction : ∀ c ∈ fraction, c.isDigit = true := fun c hc => h c (by simp [hc])
  cases hf : fraction with
  | nil =>
    obtain ⟨ht, hd⟩ := takeWhile_digits hwhole [] (by simp)
    rw [List.append_nil] at ht hd
    simp [decimal?, ht, hd, hw, power?]
  | cons f more =>
    obtain ⟨ht, hd⟩ := takeWhile_digits hwhole ('.' :: fraction)
      (by rintro c more heq; simp_all; rw [← heq.1]; decide)
    obtain ⟨hft, hfd⟩ := takeWhile_digits hfraction [] (by simp)
    rw [List.append_nil] at hft hfd
    rw [hf] at ht hd hft hfd
    simp [decimal?, ht, hd, hft, hfd, power?]

theorem cutSign_of_digit {c : Char} (h : c.isDigit = true) (cs : List Char) :
    cutSign (c :: cs) = (false, c :: cs) := by
  unfold cutSign
  split
  · rename_i heq
    obtain ⟨rfl, -⟩ := List.cons.inj heq
    exact absurd h (by decide)
  · rename_i heq
    obtain ⟨rfl, -⟩ := List.cons.inj heq
    exact absurd h (by decide)
  · rfl

theorem cutSign_append {c : Char} (h : c.isDigit = true) (negative : Bool) (cs : List Char) :
    cutSign ((if negative then ['-'] else []) ++ c :: cs) = (negative, c :: cs) := by
  cases negative with
  | false => exact cutSign_of_digit h cs
  | true => rfl

theorem toLower_of_digit {c : Char} (h : c.isDigit = true) : c.toLower = c := by
  have hall : ∀ n < 58, 48 ≤ n → (Char.ofNat n).toLower = Char.ofNat n := by decide
  have hn : 48 ≤ c.toNat ∧ c.toNat < 58 := by
    simp only [Char.isDigit, Bool.and_eq_true, decide_eq_true_eq, ge_iff_le,
      UInt32.le_iff_toNat_le] at h
    exact ⟨h.1, Nat.lt_succ_of_le h.2⟩
  have hc := hall c.toNat hn.2 hn.1
  rwa [Char.ofNat_toNat] at hc

/-- What starts with a digit is not the name of a number. -/
theorem real_of_digit {c : Char} (h : c.isDigit = true) (negative : Bool) (cs : List Char) :
    real? ((if negative then ['-'] else []) ++ c :: cs) =
      (decimal? (c :: cs)).map fun d => ⟨negative, d.rank⟩ := by
  have hne (s : String) (d : Char) (ds : List Char) (hs : s.toList = d :: ds)
      (hd : d.isDigit = false) : (String.ofList ((c :: cs).map Char.toLower) == s) = false := by
    rw [beq_eq_false_iff_ne]
    intro heq
    have hl := congrArg String.toList heq
    rw [String.toList_ofList, hs, List.map_cons, toLower_of_digit h] at hl
    rw [(List.cons.inj hl).1, hd] at h
    exact Bool.false_ne_true h
  have hinf := hne "inf" 'i' "nf".toList rfl (by decide)
  have hinfinity := hne "infinity" 'i' "nfinity".toList rfl (by decide)
  have hnan := hne "nan" 'n' "an".toList rfl (by decide)
  simp only [real?, cutSign_append h, hinf, hinfinity, hnan, Bool.or_self, Bool.false_eq_true,
    if_false]

theorem plainText_eq (h : x.isFinite = true) :
    x.plainText = (if x.negative then ['-'] else []) ++
      ((Decimal.shortest .up x.rank).positional.1 ++
        if (Decimal.shortest .up x.rank).positional.2.isEmpty then []
        else '.' :: (Decimal.shortest .up x.rank).positional.2) := by
  have hn : x.isNaN = false := by
    simp only [Binary64.isFinite, Binary64.isNaN, decide_eq_true_eq, decide_eq_false_iff_not] at h ⊢
    omega
  simp [Binary64.plainText, hn, h]

theorem real_plainText (h : x.isFinite = true) : real? x.plainText = some x := by
  have hr : x.rank < Binary64.infinityRank := by simpa [Binary64.isFinite] using h
  obtain ⟨hne, hdigit⟩ := Decimal.isDigit_positional (Decimal.shortest .up x.rank)
  have hd := decimal_positional hne hdigit
  rw [plainText_eq h]
  obtain ⟨c, more, hc⟩ := List.exists_cons_of_ne_nil hne
  rw [hc] at hd hdigit ⊢
  rw [List.cons_append] at hd ⊢
  rw [real_of_digit (hdigit c (by simp)), hd, ← hc, Option.map_some, Decimal.rank_positional,
    Decimal.rank_shortest .up hr]

theorem not_blank_of_digit {c : Char} (h : c.isDigit = true) : Text.isBlank c = false := by
  cases hb : Text.isBlank c with
  | false => rfl
  | true =>
    simp only [Char.isDigit, Bool.and_eq_true, decide_eq_true_eq, ge_iff_le,
      UInt32.le_iff_toNat_le] at h
    have hn : c.toNat = c.val.toNat := rfl
    simp only [Text.isBlank, Bool.or_eq_true, Bool.and_eq_true, decide_eq_true_eq, beq_iff_eq,
      hn] at hb
    simp at h
    omega

theorem not_blank_plainText (h : x.isFinite = true) :
    ∀ c ∈ x.plainText, Text.isBlank c = false := by
  obtain ⟨-, hdigit⟩ := Decimal.isDigit_positional (Decimal.shortest .up x.rank)
  have hsign : ∀ c ∈ (if x.negative then ['-'] else []), Text.isBlank c = false := by
    cases x.negative with
    | true => exact List.forall_mem_singleton.mpr (by decide)
    | false => exact fun c hc => (List.not_mem_nil hc).elim
  rw [plainText_eq h]
  generalize (Decimal.shortest .up x.rank).positional = parts at hdigit ⊢
  intro c hc
  rcases List.mem_append.mp hc with hc | hc
  · exact hsign c hc
  · rcases List.mem_append.mp hc with hc | hc
    · exact not_blank_of_digit (hdigit c (List.mem_append_left _ hc))
    · split at hc
      · simp at hc
      · rcases List.mem_cons.mp hc with rfl | hc
        · decide
        · exact not_blank_of_digit (hdigit c (List.mem_append_right _ hc))

theorem natural_decimalDigits (n : Nat) : natural? (decimalDigits n) = some n := by
  have hd : (decimalDigits n).all Char.isDigit = true :=
    List.all_eq_true.mpr fun c hc => isDigit_of_mem_decimalDigits hc
  simp [natural?, hd, decimalDigits_ne_nil, digitsValue_decimalDigits]

theorem exists_cons_decimalDigits (n : Nat) :
    ∃ c cs, decimalDigits n = c :: cs ∧ c.isDigit = true := by
  obtain ⟨c, cs, hc⟩ := List.exists_cons_of_ne_nil (decimalDigits_ne_nil n)
  exact ⟨c, cs, hc, isDigit_of_mem_decimalDigits (n := n) (by simp [hc])⟩

theorem count_decimalDigits (n : UInt32) : count32? (decimalDigits n.toNat) = some n := by
  obtain ⟨c, cs, hc, hd⟩ := exists_cons_decimalDigits n.toNat
  have hplus : c ≠ '+' := by
    rintro rfl
    exact absurd hd (by decide)
  have hn := natural_decimalDigits n.toNat
  have hlt : n.toNat < 0x100000000 := n.toNat_lt
  rw [hc] at hn ⊢
  simp only [count32?]
  split
  · simp_all
  · rw [hn, Option.bind_some, if_pos hlt, UInt32.ofNat_toNat]

theorem integer_decimalDigits (n : Int32) :
    integer32? ((if n < 0 then ['-'] else []) ++ decimalDigits n.toInt.natAbs) = some n := by
  obtain ⟨c, cs, hc, hd⟩ := exists_cons_decimalDigits n.toInt.natAbs
  have hn := natural_decimalDigits n.toInt.natAbs
  have hsign := cutSign_append hd (n < 0) cs
  have hrange : -0x80000000 ≤ n.toInt ∧ n.toInt < 0x80000000 := ⟨n.le_toInt, n.toInt_lt⟩
  have hneg : n < 0 ↔ n.toInt < 0 := Int32.lt_iff_toInt_lt
  have hv : (if decide (n < 0) = true then -(n.toInt.natAbs : Int) else n.toInt.natAbs) =
      n.toInt := by
    simp only [decide_eq_true_eq, hneg]
    split <;> omega
  rw [hc] at hn ⊢
  simp only [decide_eq_true_eq] at hsign
  simp only [integer32?, hsign, hn, Option.bind_some]
  rw [hv, if_pos hrange, Int32.ofInt_toInt]

end Argument

end CurlScribe
