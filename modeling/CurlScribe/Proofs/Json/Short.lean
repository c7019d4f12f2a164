import CurlScribe.Proofs.Json.Numeral
import CurlScribe.Proofs.Number.Exact

/-! Numbers of few digits: the reader finds the digits that their text spells, and no step of its
arithmetic rounds, so they are read back. -/
namespace CurlScribe

namespace Json

open Binary64

theorem scale_eq {s : Nat} {p : Int} (hs : s < 2 ^ 53) (hp : p.natAbs ≤ Decimal.exactPower)
    (hfinite : Decimal.rank ⟨s, p⟩ < infinityRank) :
    scale (ofNat s).rank p = some (Decimal.rank ⟨s, p⟩) := by
  have hrank := Decimal.rank_near hs hp
  have hdigits := magnitude_ofNat hs
  have hpower := Decimal.magnitude_powerOfTen hp
  rw [Decimal.exactPower] at hp
  rw [scale, greatestPower, if_neg (by omega)]
  by_cases hneg : p < 0
  · rw [if_pos hneg] at hrank ⊢
    rw [show ((p.natAbs : Nat) : Int) = -p by omega] at hpower
    rw [divRank_eq hdigits hpower, hrank]
  · rw [if_neg hneg] at hrank ⊢
    rw [show ((p.natAbs : Nat) : Int) = p by omega] at hpower
    rw [if_pos (by omega), mulRank_eq hdigits hpower, ← hrank]
    exact if_pos hfinite

/-! Reading the digits of a numeral. -/

theorem fractionDigits_eq (n : Numeral) (cs : List Char)
    (h : digitsValue n.significand cs < 0x10000000000000000) :
    fractionDigits n cs = ⟨digitsValue n.significand cs, n.power - cs.length⟩ := by
  induction cs generalizing n with
  | nil => simp [fractionDigits, digitsValue]
  | cons c cs ih =>
    rw [digitsValue_cons] at h ⊢
    have hnext := le_digitsValue (10 * n.significand + digitValue c) cs
    rw [fractionDigits, if_pos (by omega), ih _ h, List.length_cons]
    simp only [Numeral.mk.injEq, true_and]
    omega

variable {whole fraction tail : List Char} {e : Int}

/-- A whole part has no zero in front of other digits. -/
def IsWhole (whole : List Char) : Prop :=
  whole ≠ [] ∧ (∀ c ∈ whole, c.isDigit = true) ∧ (whole.head? = some '0' → whole.length ≤ 1)

theorem IsWhole.lead (h : IsWhole whole) :
    (whole.isEmpty || (whole.head? == some '0' && decide (1 < whole.length))) = false := by
  obtain ⟨hne, -, hzero⟩ := h
  by_cases hhead : whole.head? = some '0'
  · have := hzero hhead
    simp [hne, hhead]
    omega
  · simp [hne, hhead]

theorem unsignedNumber_exponent (negative : Bool) (hw : IsWhole whole)
    (hv : digitsValue 0 whole < 0x10000000000000000) (he : exponentOf ('e' :: tail) = some e) :
    unsignedNumber negative (whole ++ 'e' :: tail) =
      Numeral.toReal? negative ⟨digitsValue 0 whole, e⟩ := by
  obtain ⟨ht, hd⟩ := Argument.takeWhile_digits hw.2.1 ('e' :: tail)
    (by rintro c more heq; obtain ⟨rfl, -⟩ := List.cons.inj heq; decide)
  simp only [unsignedNumber, ht, hd, hw.lead, wholeDigits_eq 0 whole hv]
  simp [he]

theorem unsignedNumber_fraction (negative : Bool) (hw : IsWhole whole) (hf : fraction ≠ [])
    (hdigit : ∀ c ∈ fraction, c.isDigit = true)
    (hv : digitsValue 0 (whole ++ fraction) < 0x10000000000000000)
    (htail : ∀ c more, tail = c :: more → c.isDigit = false) (he : exponentOf tail = some e) :
    unsignedNumber negative (whole ++ '.' :: (fraction ++ tail)) =
      Numeral.toReal? negative ⟨digitsValue 0 (whole ++ fraction), -fraction.length + e⟩ := by
  obtain ⟨ht, hd⟩ := Argument.takeWhile_digits hw.2.1 ('.' :: (fraction ++ tail))
    (by rintro c more heq; obtain ⟨rfl, -⟩ := List.cons.inj heq; decide)
  obtain ⟨hft, hfd⟩ := Argument.takeWhile_digits hdigit tail htail
  have happend : digitsValue 0 (whole ++ fraction) = digitsValue (digitsValue 0 whole) fraction :=
    List.foldl_append
  rw [happend] at hv ⊢
  have hwhole := le_digitsValue (digitsValue 0 whole) fraction
  have hfraction := fractionDigits_eq ⟨digitsValue 0 whole, 0⟩ fraction hv
  simp only [unsignedNumber, ht, hd, hw.lead, wholeDigits_eq 0 whole (by omega), hft, hfd,
    hfraction, he]
  simp [hf]

theorem exponentOf_decimalDigits (n : Int) :
    exponentOf ('e' :: (if n < 0 then '-' else '+') :: decimalDigits n.natAbs) = some n := by
  obtain ⟨k, hk⟩ : ∃ k, n.natAbs = k := ⟨_, rfl⟩
  have hall : (decimalDigits k).all Char.isDigit = true :=
    List.all_eq_true.mpr fun c hc => isDigit_of_mem_decimalDigits hc
  rw [hk]
  by_cases hn : n < 0
  · simp [exponentOf, hn, hall, decimalDigits_ne_nil, digitsValue_decimalDigits]
    omega
  · simp [exponentOf, hn, hall, decimalDigits_ne_nil, digitsValue_decimalDigits]
    omega

end Json

namespace Decimal

/-- The fewest digits of a rank are all zero for zero alone, which has one digit. -/
theorem power_shortest {k : Nat} (hk : k < Binary64.infinityRank)
    (h : (shortest .even k).digits = 0) : (shortest .even k).power = 0 := by
  have hrank := rank_shortest .even hk
  rw [rank_eq, if_pos h] at hrank
  rw [← hrank]
  rfl

theorem isWhole_positional {d : Decimal} (h : d.digits = 0 → d.power = 0) :
    Json.IsWhole d.positional.1 := by
  obtain ⟨hne, hdigit⟩ := isDigit_positional d
  refine ⟨hne, fun c hc => hdigit c (List.mem_append_left _ hc), fun hzero => ?_⟩
  by_cases h0 : d.digits = 0
  · have hp : (0 : Int) ≤ d.power := Int.le_of_eq (h h0).symm
    have hzeros : d.power.natAbs = 0 := Int.natAbs_eq_zero.mpr (h h0)
    simp [positional, hp, h0, hzeros, decimalDigits]
  · have hhead := head_decimalDigits h0
    obtain ⟨c, cs, hcs⟩ := List.exists_cons_of_ne_nil (decimalDigits_ne_nil d.digits)
    rw [hcs] at hhead
    rw [positional] at hzero ⊢
    simp only [hcs] at hzero ⊢
    by_cases hp : 0 ≤ d.power
    · rw [if_pos hp] at hzero
      exact (hhead hzero).elim
    · by_cases hl : d.power.natAbs < (c :: cs).length
      · obtain ⟨k, hk⟩ : ∃ k, (c :: cs).length - d.power.natAbs = k + 1 :=
          ⟨(c :: cs).length - d.power.natAbs - 1, by omega⟩
        rw [if_neg hp, if_pos hl, hk] at hzero
        exact (hhead hzero).elim
      · rw [if_neg hp, if_neg hl]
        exact Nat.le_refl 1

end Decimal

namespace Json

variable {whole : List Char} {d : Decimal}

theorem ofChars_of_isWhole (negative : Bool) (hw : IsWhole whole) (tail : List Char) :
    Number.ofChars? ((if negative then ['-'] else []) ++ (whole ++ tail)) =
      unsignedNumber negative (whole ++ tail) := by
  obtain ⟨c, cs, rfl⟩ := List.exists_cons_of_ne_nil hw.1
  exact Number.ofChars_of_digit (hw.2.1 c List.mem_cons_self) negative (cs ++ tail)

/-- Behind the point there are digits, if only a zero. -/
theorem isDigit_places {fraction : List Char} (h : ∀ c ∈ fraction, c.isDigit = true) :
    (if fraction.isEmpty then ['0'] else fraction) ≠ [] ∧
      ∀ c ∈ (if fraction.isEmpty then ['0'] else fraction), c.isDigit = true := by
  split
  · exact ⟨by simp, List.forall_mem_singleton.mpr rfl⟩
  · rename_i hne
    exact ⟨by simpa using hne, h⟩

/-- A positional numeral is read as its digits and the number of places behind its point. -/
theorem ofChars_positional (negative : Bool) (h : d.digits = 0 → d.power = 0) :
    let places := if d.positional.2.isEmpty then ['0'] else d.positional.2
    digitsValue 0 (d.positional.1 ++ places) < 0x10000000000000000 →
      Number.ofChars? ((if negative then ['-'] else []) ++ d.positional.1 ++ '.' :: places) =
        Numeral.toReal? negative ⟨digitsValue 0 (d.positional.1 ++ places), -places.length⟩ := by
  intro places hv
  have hw := Decimal.isWhole_positional h
  obtain ⟨-, hdigit⟩ := Decimal.isDigit_positional d
  obtain ⟨hne, hplaces⟩ :=
    isDigit_places fun c hc => hdigit c (List.mem_append_right d.positional.1 hc)
  have hend : exponentOf [] = some 0 := rfl
  have hread := unsignedNumber_fraction negative hw hne hplaces hv (by simp) hend
  rw [List.append_nil, Int.add_zero] at hread
  rw [List.append_assoc, ofChars_of_isWhole negative hw]
  exact hread

/-- A numeral with an exponent is read as its digits and their power of ten. -/
theorem ofChars_scientific (negative : Bool) (d : Decimal)
    (hv : d.digits < 0x10000000000000000) :
    let (lead, rest) := (decimalDigits d.digits).splitAt 1
    let mantissa := lead ++ (if rest.isEmpty then [] else '.' :: rest)
    let power := decimalDigits d.exponent.natAbs
    Number.ofChars? ((if negative then ['-'] else []) ++ mantissa ++
        'e' :: (if d.exponent < 0 then '-' else '+') :: power) =
      Numeral.toReal? negative ⟨d.digits, d.power⟩ := by
  obtain ⟨c, cs, hc⟩ := List.exists_cons_of_ne_nil (decimalDigits_ne_nil d.digits)
  have hvalue := digitsValue_decimalDigits d.digits
  have hdigit : ∀ c ∈ decimalDigits d.digits, c.isDigit = true := fun _ =>
    isDigit_of_mem_decimalDigits
  have hexponent : d.exponent = d.power + cs.length := by
    rw [Decimal.exponent, hc, List.length_cons]
    omega
  have he := exponentOf_decimalDigits d.exponent
  rw [hc] at hvalue hdigit ⊢
  have hw : IsWhole [c] :=
    ⟨by simp, List.forall_mem_singleton.mpr (hdigit c (by simp)), fun _ => Nat.le_refl 1⟩
  have hsplit : (c :: cs).splitAt 1 = ([c], cs) := List.splitAt_eq
  simp only [hsplit]
  generalize (if d.exponent < 0 then '-' else '+') :: decimalDigits d.exponent.natAbs = tail
    at he ⊢
  rw [List.append_assoc, List.append_assoc, ofChars_of_isWhole negative hw]
  cases cs with
  | nil =>
    have hread := unsignedNumber_exponent negative hw (by rwa [hvalue]) he
    rw [hvalue, hexponent, List.length_nil, Int.natCast_zero, Int.add_zero] at hread
    exact hread
  | cons f fs =>
    have hmark : ∀ c more, 'e' :: tail = c :: more → c.isDigit = false := by
      rintro c more heq
      obtain ⟨rfl, -⟩ := List.cons.inj heq
      rfl
    have hpower : -((f :: fs).length : Int) + d.exponent = d.power := by omega
    have hread := unsignedNumber_fraction negative hw (List.cons_ne_nil f fs)
      (fun c hc => hdigit c (List.mem_cons_of_mem _ hc)) (by rwa [List.singleton_append, hvalue])
      hmark he
    have hall : digitsValue 0 ([c] ++ f :: fs) = d.digits := hvalue
    rw [hall, hpower] at hread
    exact hread

end Json

namespace Binary64

variable {x : Binary64}

/-- The digits and the power of ten that the text of a number spells. -/
def spelled (x : Binary64) : Decimal :=
  let d := Decimal.shortest .even x.rank
  if -5 ≤ d.exponent ∧ d.exponent ≤ 15 then
    let (whole, fraction) := d.positional
    let places := if fraction.isEmpty then ['0'] else fraction
    ⟨digitsValue 0 (whole ++ places), -places.length⟩
  else d

theorem rank_spelled (h : x.isFinite = true) : x.spelled.rank = x.rank := by
  have hlt : x.rank < infinityRank := of_decide_eq_true h
  have hshortest := Decimal.rank_shortest .even hlt
  have hpositional := Decimal.rank_positional (Decimal.shortest .even x.rank)
  rw [hshortest] at hpositional
  rw [spelled]
  generalize Decimal.shortest .even x.rank = d at hshortest hpositional ⊢
  dsimp only
  split
  · split
    · rename_i hempty
      rw [List.isEmpty_iff.mp hempty, List.append_nil, List.length_nil] at hpositional
      have hzero := digitsValue_append_zeros 0 1 d.positional.1
      have hmul := Decimal.rank_mul_pow (digitsValue 0 d.positional.1) 1 (-1)
      rw [List.replicate_one] at hzero
      rw [hzero, Nat.mul_comm]
      exact hmul.trans hpositional
    · exact hpositional
  · exact hshortest

/-- The reader finds the digits that the text spells. -/
theorem ofChars_jsonText (h : x.isFinite = true) (hv : x.spelled.digits < 0x10000000000000000) :
    Json.Number.ofChars? x.jsonText =
      Json.Numeral.toReal? x.negative ⟨x.spelled.digits, x.spelled.power⟩ := by
  have hlt : x.rank < infinityRank := of_decide_eq_true h
  have hzero := Decimal.power_shortest hlt
  rw [spelled] at hv ⊢
  rw [jsonText]
  generalize Decimal.shortest .even x.rank = d at hv hzero ⊢
  dsimp only at hv ⊢
  split
  · rename_i hrange
    rw [if_pos hrange] at hv
    exact Json.ofChars_positional x.negative hzero hv
  · rename_i hrange
    rw [if_neg hrange] at hv
    exact Json.ofChars_scientific x.negative d hv

/-- A number whose text has a significand of 53 binary digits and a small power of ten is read back
from it. -/
theorem ofChars_short (h : x.isFinite = true) (hs : x.spelled.digits < 2 ^ 53)
    (hp : x.spelled.power.natAbs ≤ Decimal.exactPower) :
    Json.Number.ofChars? x.jsonText = some (.real x h) := by
  have hrank := rank_spelled h
  have hlt : x.rank < infinityRank := of_decide_eq_true h
  have hscale := Json.scale_eq hs hp (by rwa [hrank])
  rw [hrank] at hscale
  rw [ofChars_jsonText h (by omega), Json.Numeral.toReal?, hscale, Option.bind_some]
  exact dif_pos h

end Binary64

end CurlScribe
