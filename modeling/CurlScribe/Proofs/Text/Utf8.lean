import CurlScribe.Text.Utf8
import Mathlib.Tactic.Linarith

/-! Texts that come back from their bytes. -/
namespace CurlScribe.Text

variable {b : Nat} {c : Char} {cs : List Char} {p : Partial}

/-- The bytes of a character, as numbers. -/
theorem charBytes_eq (c : Char) : charBytes c =
    if c.toNat ≤ 0x7F then [c.toNat]
    else if c.toNat ≤ 0x7FF then [c.toNat / 64 + 0xC0, c.toNat % 64 + 0x80]
    else if c.toNat ≤ 0xFFFF then
      [c.toNat / 4096 + 0xE0, c.toNat / 64 % 64 + 0x80, c.toNat % 64 + 0x80]
    else
      [c.toNat / 262144 + 0xF0, c.toNat / 4096 % 64 + 0x80, c.toNat / 64 % 64 + 0x80,
        c.toNat % 64 + 0x80] := by
  have hv : c.val.toNat = c.toNat := rfl
  have hlt : c.toNat < 0x110000 := by
    rcases c.valid with h | h <;> omega
  simp only [charBytes, String.utf8EncodeChar, hv]
  split
  · simp
    omega
  · split
    · simp
      omega
    · split
      · simp
        omega
      · simp
        omega

theorem bytes_cons (c : Char) (cs : List Char) : bytes (c :: cs) = charBytes c ++ bytes cs := by
  rw [bytes, List.flatMap_cons, bytes]

theorem length_charBytes (c : Char) : (charBytes c).length = c.utf8Size := by
  simp [charBytes, String.length_utf8EncodeChar]

theorem length_bytes_cons (c : Char) (cs : List Char) :
    (bytes (c :: cs)).length = c.utf8Size + (bytes cs).length := by
  rw [bytes_cons, List.length_append, length_charBytes]

theorem length_bytes_append (cs ds : List Char) :
    (bytes (cs ++ ds)).length = (bytes cs).length + (bytes ds).length := by
  rw [bytes, List.flatMap_append, List.length_append, ← bytes, ← bytes]

theorem charBytes_ne_nil (c : Char) : charBytes c ≠ [] := by
  rw [charBytes_eq]
  repeat' split
  all_goals simp

/-- No byte of a character beyond ASCII is an ASCII byte. -/
theorem high_of_mem_charBytes (hc : 0x80 ≤ c.toNat) (h : b ∈ charBytes c) : 0x80 ≤ b := by
  rw [charBytes_eq, if_neg (by omega)] at h
  split at h
  · simp only [List.mem_cons, List.not_mem_nil, or_false] at h
    omega
  · split at h
    all_goals
      simp only [List.mem_cons, List.not_mem_nil, or_false] at h
      omega

/-- A continuation byte that is not the last one. -/
theorem decodeFrom_more (hl : p.low ≤ b) (hh : b ≤ p.high) (hm : p.missing ≠ 1)
    (rest : List Nat) : decodeFrom (some p) (b :: rest) =
      decodeFrom (some ⟨p.bits * 64 + b % 64, p.missing - 1, 0x80, 0xBF⟩) rest := by
  simp [decodeFrom, hl, hh, hm]

theorem decodeFrom_last (hl : p.low ≤ b) (hh : b ≤ p.high) (hm : p.missing = 1)
    (rest : List Nat) : decodeFrom (some p) (b :: rest) =
      Char.ofNat (p.bits * 64 + b % 64) :: decodeFrom none rest := by
  simp [decodeFrom, hl, hh, hm]

theorem decodeFrom_ascii (h : b < 0x80) (rest : List Nat) :
    decodeFrom none (b :: rest) = Char.ofNat b :: decodeFrom none rest := by
  simp [decodeFrom, decodeFrom.start, h]

/-- A lead byte says how many bytes follow it and where the first of them lies. -/
theorem decodeFrom_lead {missing low high : Nat} (hb : 0x80 ≤ b)
    (h : leadShape b = some (missing, low, high)) (rest : List Nat) :
    decodeFrom none (b :: rest) = decodeFrom (some ⟨if missing = 1 then b % 32
      else if missing = 2 then b % 16 else b % 8, missing, low, high⟩) rest := by
  have hn : ¬ b < 0x80 := by omega
  simp [decodeFrom, decodeFrom.start, hn, h]

theorem leadShape_two (hl : 0xC2 ≤ b) (hh : b ≤ 0xDF) :
    leadShape b = some (1, 0x80, 0xBF) := by
  simp [leadShape, hl, hh]

/-- Of three bytes the second one avoids the codes that are too short and the surrogates. -/
theorem leadShape_three (hl : 0xE0 ≤ b) (hh : b ≤ 0xEF) :
    leadShape b = some (2, if b = 0xE0 then 0xA0 else 0x80, if b = 0xED then 0x9F else 0xBF) := by
  have h1 : ¬ b ≤ 0xDF := by omega
  by_cases h2 : b = 0xE0
  · subst h2
    rfl
  · by_cases h3 : b = 0xED
    · subst h3
      rfl
    · have h4 : 0xE1 ≤ b := by omega
      simp [leadShape, h1, h2, h3, h4, hh]

/-- Of four bytes the second one avoids the codes that are too short and those that are too
great. -/
theorem leadShape_four (hl : 0xF0 ≤ b) (hh : b ≤ 0xF4) :
    leadShape b = some (3, if b = 0xF0 then 0x90 else 0x80, if b = 0xF4 then 0x8F else 0xBF) := by
  obtain rfl | rfl | rfl | rfl | rfl : b = 0xF0 ∨ b = 0xF1 ∨ b = 0xF2 ∨ b = 0xF3 ∨ b = 0xF4 := by
    omega
  all_goals rfl

/-! Characters of two bytes and more. -/

theorem decodeFrom_two {b₁ b₂ : Nat} (hl : 0xC2 ≤ b₁) (hh : b₁ ≤ 0xDF) (h₂ : 0x80 ≤ b₂ ∧ b₂ ≤ 0xBF)
    (rest : List Nat) : decodeFrom none (b₁ :: b₂ :: rest) =
      Char.ofNat (b₁ % 32 * 64 + b₂ % 64) :: decodeFrom none rest := by
  have hlead : 0x80 ≤ b₁ := by omega
  rw [decodeFrom_lead hlead (leadShape_two hl hh), decodeFrom_last h₂.1 h₂.2 rfl]
  rfl

theorem decodeFrom_three {b₁ b₂ b₃ : Nat} (hl : 0xE0 ≤ b₁) (hh : b₁ ≤ 0xEF)
    (h₂ : (if b₁ = 0xE0 then 0xA0 else 0x80) ≤ b₂ ∧ b₂ ≤ if b₁ = 0xED then 0x9F else 0xBF)
    (h₃ : 0x80 ≤ b₃ ∧ b₃ ≤ 0xBF) (rest : List Nat) : decodeFrom none (b₁ :: b₂ :: b₃ :: rest) =
      Char.ofNat ((b₁ % 16 * 64 + b₂ % 64) * 64 + b₃ % 64) :: decodeFrom none rest := by
  have hlead : 0x80 ≤ b₁ := by omega
  rw [decodeFrom_lead hlead (leadShape_three hl hh), decodeFrom_more h₂.1 h₂.2 (by simp),
    decodeFrom_last h₃.1 h₃.2 rfl]
  rfl

theorem decodeFrom_four {b₁ b₂ b₃ b₄ : Nat} (hl : 0xF0 ≤ b₁) (hh : b₁ ≤ 0xF4)
    (h₂ : (if b₁ = 0xF0 then 0x90 else 0x80) ≤ b₂ ∧ b₂ ≤ if b₁ = 0xF4 then 0x8F else 0xBF)
    (h₃ : 0x80 ≤ b₃ ∧ b₃ ≤ 0xBF) (h₄ : 0x80 ≤ b₄ ∧ b₄ ≤ 0xBF) (rest : List Nat) :
    decodeFrom none (b₁ :: b₂ :: b₃ :: b₄ :: rest) =
      Char.ofNat (((b₁ % 8 * 64 + b₂ % 64) * 64 + b₃ % 64) * 64 + b₄ % 64) ::
        decodeFrom none rest := by
  have hlead : 0x80 ≤ b₁ := by omega
  rw [decodeFrom_lead hlead (leadShape_four hl hh), decodeFrom_more h₂.1 h₂.2 (by simp),
    decodeFrom_more h₃.1 h₃.2 (by simp), decodeFrom_last h₄.1 h₄.2 rfl]
  rfl

/-- Six bits in a continuation byte. -/
theorem continuation_range (v : Nat) : 0x80 ≤ v % 64 + 0x80 ∧ v % 64 + 0x80 ≤ 0xBF := by
  omega

/-- A character is decoded from its bytes; that no shorter form and no surrogate is met keeps the
second byte in its range. -/
theorem decodeFrom_charBytes (c : Char) (rest : List Nat) :
    decodeFrom none (charBytes c ++ rest) = c :: decodeFrom none rest := by
  have hc : Char.ofNat c.toNat = c := Char.ofNat_toNat c
  have hvalid : c.toNat < 0xD800 ∨ (0xDFFF < c.toNat ∧ c.toNat < 0x110000) := c.valid
  rw [charBytes_eq]
  generalize c.toNat = v at hc hvalid
  split
  · rw [List.singleton_append, decodeFrom_ascii (by omega), hc]
  · split
    · have hbits : (v / 64 + 0xC0) % 32 * 64 + (v % 64 + 0x80) % 64 = v := by omega
      simp only [List.cons_append, List.nil_append]
      rw [decodeFrom_two (by omega) (by omega) (continuation_range v), hbits, hc]
    · split
      · have hsecond : (if v / 4096 + 0xE0 = 0xE0 then 0xA0 else 0x80) ≤ v / 64 % 64 + 0x80 ∧
            v / 64 % 64 + 0x80 ≤ if v / 4096 + 0xE0 = 0xED then 0x9F else 0xBF := by
          constructor <;> split <;> omega
        have hbits : ((v / 4096 + 0xE0) % 16 * 64 + (v / 64 % 64 + 0x80) % 64) * 64 +
            (v % 64 + 0x80) % 64 = v := by omega
        simp only [List.cons_append, List.nil_append]
        rw [decodeFrom_three (by omega) (by omega) hsecond (continuation_range v), hbits, hc]
      · have hsecond : (if v / 262144 + 0xF0 = 0xF0 then 0x90 else 0x80) ≤ v / 4096 % 64 + 0x80 ∧
            v / 4096 % 64 + 0x80 ≤ if v / 262144 + 0xF0 = 0xF4 then 0x8F else 0xBF := by
          constructor <;> split <;> omega
        have hbits : (((v / 262144 + 0xF0) % 8 * 64 + (v / 4096 % 64 + 0x80) % 64) * 64 +
            (v / 64 % 64 + 0x80) % 64) * 64 + (v % 64 + 0x80) % 64 = v := by omega
        simp only [List.cons_append, List.nil_append]
        rw [decodeFrom_four (by omega) (by omega) hsecond (continuation_range (v / 64))
          (continuation_range v), hbits, hc]

/-- A text comes back from its bytes, even where malformed ones would be replaced. -/
theorem decodeLossy_bytes (cs : List Char) : decodeLossy (bytes cs) = cs := by
  rw [decodeLossy]
  induction cs with
  | nil => simp [bytes, decodeFrom]
  | cons c cs ih =>
    rw [bytes_cons, decodeFrom_charBytes]
    exact congrArg (c :: ·) ih

theorem decodeStrict_bytes (cs : List Char) : decodeStrict (bytes cs) = some cs := by
  simp [decodeStrict, decodeLossy_bytes]

end CurlScribe.Text
