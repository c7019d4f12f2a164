import CurlScribe.Proofs.Text.Trim
import CurlScribe.Proofs.Text.Utf8

/-! Texts of ASCII characters that can be seen. -/
namespace CurlScribe.Text

variable {c d : Char} {cs ds : List Char}

/-- What is checked of every ASCII character holds of each. -/
theorem of_ascii {P : Char → Prop} (h : ∀ n < 0x80, P (Char.ofNat n)) (hc : c.toNat < 0x80) :
    P c := by
  rw [← Char.ofNat_toNat c]
  exact h _ hc

theorem toNat_ofNat {n : Nat} (h : n < 0x80) : (Char.ofNat n).toNat = n := by
  have hv : n.isValidChar := .inl (by omega)
  have hc : Char.ofNat n = Char.ofNatAux n hv := dif_pos hv
  rw [hc]
  rfl

theorem charBytes_ascii (h : c.toNat < 0x80) : charBytes c = [c.toNat] := by
  rw [charBytes_eq, if_pos (by omega)]

theorem bytes_ascii (h : ∀ c ∈ cs, c.toNat < 0x80) : bytes cs = cs.map Char.toNat := by
  rw [bytes, List.map_eq_flatMap]
  exact List.flatMap_congr fun c hc => charBytes_ascii (h c hc)

theorem lt_of_mem_charBytes {b : Nat} (h : b ∈ charBytes c) : b < 0x100 := by
  obtain ⟨u, -, rfl⟩ := List.mem_map.mp h
  exact u.toNat_lt_size

theorem ascii_of_isUpper (h : c.isUpper = true) : c.toNat < 0x80 := by
  have hle : c.val.toNat ≤ 90 := UInt32.le_iff_toNat_le.mp (of_decide_eq_true h).2
  exact Nat.lt_of_le_of_lt hle (by decide)

theorem ascii_of_isAlpha (h : c.isAlpha = true) : c.toNat < 0x80 := by
  rcases Bool.or_eq_true_iff.mp h with h | h
  · exact ascii_of_isUpper h
  · have hle : c.val.toNat ≤ 122 :=
      UInt32.le_iff_toNat_le.mp (of_decide_eq_true (Bool.and_eq_true_iff.mp h).2)
    exact Nat.lt_of_le_of_lt hle (by decide)

theorem ascii_of_isDigit (h : c.isDigit = true) : c.toNat < 0x80 := by
  simp only [Char.isDigit, Bool.and_eq_true, decide_eq_true_eq] at h
  have hle : c.val.toNat ≤ 57 := UInt32.le_iff_toNat_le.mp h.2
  exact Nat.lt_of_le_of_lt hle (by decide)

theorem toLower_of_not_isUpper (h : c.isUpper = false) : c.toLower = c :=
  dif_neg (of_decide_eq_false h)

theorem isAlpha_toLower (h : c.isAlpha = true) : c.toLower.isAlpha = true := by
  have hall : ∀ n < 0x80, (Char.ofNat n).isAlpha = true →
      (Char.ofNat n).toLower.isAlpha = true := by
    decide
  exact of_ascii (P := fun c => c.isAlpha = true → c.toLower.isAlpha = true) hall
    (ascii_of_isAlpha h) h

/-- Nothing but a letter is the small form of another character. -/
theorem eq_of_toLower (h : c.toLower = d) (hd : d.isLower = false) : c = d := by
  cases hc : c.isUpper with
  | true =>
    have hall : ∀ n < 0x80, (Char.ofNat n).isUpper = true →
        (Char.ofNat n).toLower.isLower = true := by
      decide
    have hl := of_ascii (P := fun c => c.isUpper = true → c.toLower.isLower = true) hall
      (ascii_of_isUpper hc) hc
    simp [h, hd] at hl
  | false => rwa [toLower_of_not_isUpper hc] at h

/-- Printing ASCII, apart from the space. -/
def isVisible (c : Char) : Bool := 0x20 < c.toNat && c.toNat < 0x7F

theorem ascii_of_isVisible (h : isVisible c = true) : c.toNat < 0x80 := by
  simp only [isVisible, Bool.and_eq_true, decide_eq_true_eq] at h
  omega

theorem isBlank_of_isVisible (h : isVisible c = true) : isBlank c = false := by
  have hall : ∀ n < 0x80, isVisible (Char.ofNat n) = true → isBlank (Char.ofNat n) = false := by
    decide
  exact of_ascii (P := fun c => isVisible c = true → isBlank c = false) hall
    (ascii_of_isVisible h) h

/-- Nothing is there to be trimmed. -/
theorem trimmed_visible {s : String} (h : ∀ c ∈ s.toList, isVisible c = true) :
    trimmed s = s := by
  rw [trimmed, trim_of_not_blank fun c hc => isBlank_of_isVisible (h c hc), String.ofList_toList]

end CurlScribe.Text
