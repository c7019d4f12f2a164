import CurlScribe.Proofs.Text.Cut
import CurlScribe.Proofs.Web.Percent
import CurlScribe.Web.Form

/-! Form-encoded pairs read back. -/
namespace CurlScribe.Form

open Percent

variable {b : Nat} {c : Char} {bs : List Nat} {s : String} {pairs : List (String × String)}

/-- The characters of an encoded name or value. -/
def isFormChar (c : Char) : Bool :=
  c.isAlpha || c.isDigit || ['*', '-', '.', '_', '+', '%'].contains c

/-- How a byte is written: as itself, as a `+`, or escaped. -/
theorem encodeByte_cases (b : Nat) :
    (encodeByte b = [Char.ofNat b] ∧ b < 0x80 ∧ isFormChar (Char.ofNat b) = true ∧
      b ≠ 0x2B ∧ b ≠ mark) ∨
    (encodeByte b = ['+'] ∧ b = 0x20) ∨ encodeByte b = escape b := by
  unfold encodeByte
  dsimp only
  split
  · rename_i h
    rw [Bool.and_eq_true, decide_eq_true_eq] at h
    refine .inl ⟨rfl, h.1, ?_⟩
    have hall : ∀ n < 0x80, ((Char.ofNat n).isAlpha || (Char.ofNat n).isDigit ||
        ['*', '-', '.', '_'].contains (Char.ofNat n)) = true →
          isFormChar (Char.ofNat n) = true ∧ n ≠ 0x2B ∧ n ≠ mark := by
      decide
    exact hall b h.1 h.2
  · split
    · exact .inr (.inl ⟨rfl, by assumption⟩)
    · exact .inr (.inr rfl)

theorem isFormChar_of_mem (h : c ∈ encodePart s) : c.toNat < 0x80 ∧ isFormChar c = true := by
  obtain ⟨b, -, hc⟩ := List.mem_flatMap.mp h
  rcases encodeByte_cases b with ⟨he, hb, hf, -⟩ | ⟨he, -⟩ | he
  · obtain rfl : c = Char.ofNat b := by simpa [he] using hc
    exact ⟨(Text.toNat_ofNat hb).symm ▸ hb, hf⟩
  · obtain rfl : c = '+' := by simpa [he] using hc
    decide
  · have hx := isEscaping_of_mem_escape (he ▸ hc)
    have hall : ∀ n < 0x80, isEscaping (Char.ofNat n) = true →
        isFormChar (Char.ofNat n) = true := by
      decide
    exact ⟨ascii_of_isEscaping hx, Text.of_ascii
      (P := fun c => isEscaping c = true → isFormChar c = true) hall (ascii_of_isEscaping hx) hx⟩

/-- A `+` is read as a blank. -/
def unplus (b : Nat) : Nat := if b = 0x2B then 0x20 else b

theorem map_unplus_escape (b : Nat) :
    ((escape b).map Char.toNat).map unplus = (escape b).map Char.toNat := by
  rw [List.map_map]
  refine List.map_congr_left fun c hc => ?_
  have hx := isEscaping_of_mem_escape hc
  have hne : c.toNat ≠ 0x2B := by
    intro hp
    have hp : c = '+' := Char.toNat_inj.mp hp
    subst hp
    exact absurd hx (by decide)
  exact if_neg hne

theorem decode_encodeBytes (h : ∀ b ∈ bs, b < 0x100) :
    Percent.decode (((bs.flatMap encodeByte).map Char.toNat).map unplus) = bs := by
  induction bs with
  | nil => rfl
  | cons b bs ih =>
    have hrest := ih fun d hd => h d (List.mem_cons_of_mem b hd)
    rw [List.flatMap_cons, List.map_append, List.map_append]
    rcases encodeByte_cases b with ⟨he, hb, -, hp, hm⟩ | ⟨he, rfl⟩ | he
    · have hu : unplus b = b := if_neg hp
      simp only [he, List.map_cons, List.map_nil, Text.toNat_ofNat hb, hu, List.singleton_append]
      rw [Percent.decode_cons hm, hrest]
    · have hu : unplus '+'.toNat = 0x20 := rfl
      simp only [he, List.map_cons, List.map_nil, hu, List.singleton_append]
      rw [Percent.decode_cons (by decide), hrest]
    · rw [he, map_unplus_escape, decode_escape (h b (by simp)), hrest]

/-- A name or value reads back. -/
theorem decodePart_encodePart (s : String) :
    decodePart ((encodePart s).map Char.toNat) = s := by
  have hb : ∀ b ∈ Text.bytes s.toList, b < 0x100 := by
    intro b hb
    obtain ⟨c, -, hc⟩ := List.mem_flatMap.mp hb
    exact Text.lt_of_mem_charBytes hc
  have h := decode_encodeBytes hb
  rw [decodePart]
  unfold unplus at h
  rw [encodePart, h, Text.decodeLossy_bytes, String.ofList_toList]

def pairText (p : String × String) : List Char := encodePart p.1 ++ '=' :: encodePart p.2

theorem ne_of_isFormChar {d : Char} (h : isFormChar c = true) (hd : isFormChar d = false) :
    c.toNat ≠ d.toNat := by
  intro he
  obtain rfl := Char.toNat_inj.mp he
  simp [h] at hd

theorem decodePair_pairText (p : String × String) :
    decodePair ((pairText p).map Char.toNat) = p := by
  have hname : ∀ b ∈ (encodePart p.1).map Char.toNat, (b != 0x3D) = true := by
    intro b hb
    obtain ⟨c, hc, rfl⟩ := List.mem_map.mp hb
    simpa using ne_of_isFormChar (d := '=') (isFormChar_of_mem hc).2 rfl
  have heq : '='.toNat = 0x3D := rfl
  rw [decodePair, pairText, List.map_append, List.map_cons, heq,
    Text.takeWhile_append_stop hname (by simp), Text.dropWhile_append_stop hname (by simp),
    List.drop_one, List.tail_cons, decodePart_encodePart, decodePart_encodePart]

theorem encode_eq (pairs : List (String × String)) :
    encode pairs = ['&'].intercalate (pairs.map pairText) := rfl

theorem isFormChar_of_mem_pairText {p : String × String} (h : c ∈ pairText p) :
    c.toNat < 0x80 ∧ (isFormChar c = true ∨ c = '=') := by
  rw [pairText, List.mem_append, List.mem_cons] at h
  rcases h with h | rfl | h
  · exact (isFormChar_of_mem h).imp id .inl
  · exact ⟨by decide, .inr rfl⟩
  · exact (isFormChar_of_mem h).imp id .inl

theorem mem_encode (h : c ∈ encode pairs) :
    c.toNat < 0x80 ∧ (isFormChar c = true ∨ c = '=' ∨ c = '&') := by
  rcases Text.mem_intercalate h with rfl | ⟨part, hp, hc⟩
  · exact ⟨by decide, .inr (.inr rfl)⟩
  · obtain ⟨p, -, rfl⟩ := List.mem_map.mp hp
    exact (isFormChar_of_mem_pairText hc).imp id (Or.imp id .inl)

/-- Pairs that are written as a form are read from it. -/
theorem decode_encode (pairs : List (String × String)) : decode (encode pairs) = pairs := by
  have hamp : '&'.toNat = 0x26 := rfl
  have hpart : ∀ part ∈ (pairs.map pairText).map (List.map Char.toNat), 0x26 ∉ part := by
    intro part hp hm
    obtain ⟨_, hcs, rfl⟩ := List.mem_map.mp hp
    obtain ⟨p, -, rfl⟩ := List.mem_map.mp hcs
    obtain ⟨c, hc, hc26⟩ := List.mem_map.mp hm
    obtain rfl : c = '&' := Char.toNat_inj.mp hc26
    exact absurd (isFormChar_of_mem_pairText hc).2 (by decide)
  have hfull : ∀ p : String × String, ((pairText p).map Char.toNat).isEmpty = false := by
    simp [pairText]
  rw [decode, Text.bytes_ascii fun c hc => (mem_encode hc).1, encode_eq, Text.map_intercalate,
    hamp]
  cases pairs with
  | nil => rfl
  | cons p pairs =>
    rw [List.splitOn_intercalate _ hpart (by simp), List.filter_eq_self.mpr]
    · simp [decodePair_pairText, Function.comp_def]
    · intro part hp
      obtain ⟨_, hcs, rfl⟩ := List.mem_map.mp hp
      obtain ⟨p, -, rfl⟩ := List.mem_map.mp hcs
      simp [hfull p]

end CurlScribe.Form
