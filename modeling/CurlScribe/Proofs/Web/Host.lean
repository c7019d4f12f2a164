import CurlScribe.Proofs.Web.Domain
import CurlScribe.Proofs.Web.NumericHost
import CurlScribe.Proofs.Web.Percent
import CurlScribe.Web.Address

/-! Hosts read back from their normal written form. -/
namespace CurlScribe.Host

variable {special : Bool} {c : Char} {cs : List Char} {ns : List Nat} {host : Host}

/-- Characters that a written name is made of. -/
def isNameChar (c : Char) : Bool := Text.isVisible c && !isForbidden c

/-- A host as a normal form has it. -/
def IsNormal (special : Bool) : Host → Prop
  | name cs => cs ≠ [] ∧ (∀ c ∈ cs, isNameChar c = true) ∧ (special = true →
      '%' ∉ cs ∧ Domain.toAscii? cs = some cs ∧ endsInNumber cs = false)
  | v4 n => special = true ∧ n < 2 ^ 32
  | v6 ns => ns.length = 8 ∧ ∀ n ∈ ns, n < 0x10000

theorem bracketed_cases (cs : List Char) : bracketed? cs = none ∨ bracketed? cs = some none ∨
    ∃ ns, bracketed? cs = some (some ns) ∧ ns.length = 8 ∧ ∀ n ∈ ns, n < 0x10000 := by
  unfold bracketed?
  split
  · split
    · rename_i rest _
      cases hv : v6? rest.dropLast with
      | none => exact .inr (.inl rfl)
      | some ns => exact .inr (.inr ⟨ns, rfl, v6_bounds hv⟩)
    · exact .inr (.inl rfl)
  · exact .inl rfl

theorem bracketed_name (h : ∀ c ∈ cs, isNameChar c = true) : bracketed? cs = none := by
  unfold bracketed?
  split
  · exact absurd (h '[' (by simp)) (by decide)
  · rfl

theorem isNameChar_of_allowed (hlow : c.toNat < 0x80) (h : Domain.isForbidden c = false) :
    isNameChar c = true ∧ c ≠ '%' := by
  have hall : ∀ n < 0x80, Domain.isForbidden (Char.ofNat n) = false →
      isNameChar (Char.ofNat n) = true ∧ Char.ofNat n ≠ '%' := by
    decide
  exact Text.of_ascii (P := fun c => Domain.isForbidden c = false →
    isNameChar c = true ∧ c ≠ '%') hall hlow h

theorem isNormal_ofSpecial (h : ofSpecial? cs = some host) : IsNormal true host := by
  unfold ofSpecial? at h
  rcases bracketed_cases cs with hb | hb | ⟨ns, hb, hns⟩
  · rw [hb] at h
    simp only [Option.bind_eq_bind, Option.bind_eq_some_iff] at h
    obtain ⟨decoded, -, domain, hdomain, h⟩ := h
    obtain ⟨hne, h⟩ := Option.ite_none_left_eq_some.mp h
    split at h
    · obtain ⟨n, hn, heq⟩ := Option.map_eq_some_iff.mp h
      subst heq
      exact ⟨rfl, v4_lt hn⟩
    · rename_i hnumber
      obtain rfl := Option.some.inj h
      obtain ⟨labels, hl, hlabels, -, rfl, hforbidden⟩ := Domain.labels_of_toAscii hdomain
      have hchar (c : Char) (hc : c ∈ Domain.nameOf labels) : isNameChar c = true ∧ c ≠ '%' :=
        isNameChar_of_allowed (Domain.ascii_of_isLowAscii (Domain.mem_nameOf hlabels hc))
          (Bool.eq_false_iff.mpr (List.any_eq_false.mp hforbidden c hc))
      exact ⟨by simpa using hne, fun c hc => (hchar c hc).1, fun _ =>
        ⟨fun hm => (hchar '%' hm).2 rfl, Domain.toAscii_idem hdomain, by simpa using hnumber⟩⟩
  · simp [hb] at h
  · rw [hb] at h
    obtain rfl := Option.some.inj h
    exact hns

theorem isNormal_ofOpaque (h : ofOpaque? cs = some host) : IsNormal false host := by
  unfold ofOpaque? at h
  rcases bracketed_cases cs with hb | hb | ⟨ns, hb, hns⟩
  · rw [hb] at h
    obtain ⟨hallowed, heq⟩ := Option.ite_none_left_eq_some.mp h
    obtain rfl := Option.some.inj heq
    simp only [Bool.or_eq_true, List.isEmpty_iff, not_or, List.any_eq_true, not_exists, not_and,
      Bool.not_eq_true] at hallowed
    obtain ⟨c, rest, rfl⟩ := List.exists_cons_of_ne_nil hallowed.1
    refine ⟨Percent.encode_ne_nil c rest, fun d hd => ?_, by simp⟩
    rcases Percent.mem_encode hd with ⟨hm, hlow, hc⟩ | hx
    · have hall : ∀ n < 0x80, Percent.isControl (Char.ofNat n) = false →
          isForbidden (Char.ofNat n) = false → isNameChar (Char.ofNat n) = true := by
        decide
      exact Text.of_ascii (P := fun c => Percent.isControl c = false → isForbidden c = false →
        isNameChar c = true) hall hlow hc (hallowed.2 d hm)
    · have hall : ∀ n < 0x80, Percent.isEscaping (Char.ofNat n) = true →
          isNameChar (Char.ofNat n) = true := by
        decide
      exact Text.of_ascii (P := fun c => Percent.isEscaping c = true → isNameChar c = true) hall
        (Percent.ascii_of_isEscaping hx) hx
  · simp [hb] at h
  · rw [hb] at h
    obtain rfl := Option.some.inj h
    exact hns

theorem visible_of_isNameChar (h : isNameChar c = true) : Text.isVisible c = true :=
  (Bool.and_eq_true_iff.mp h).1

theorem ascii_of_isNameChar (h : isNameChar c = true) : c.toNat < 0x80 :=
  Text.ascii_of_isVisible (visible_of_isNameChar h)

/-- What has no escapes is itself when they are resolved. -/
theorem decodeStrict_name (h : ∀ c ∈ cs, c.toNat < 0x80) (hm : '%' ∉ cs) :
    Text.decodeStrict (Percent.decode (Text.bytes cs)) = some cs := by
  have hmark : Percent.mark ∉ Text.bytes cs := by
    rw [Text.bytes_ascii h]
    intro hb
    obtain ⟨c, hc, hp⟩ := List.mem_map.mp hb
    obtain rfl : c = '%' := Char.toNat_inj.mp hp
    exact hm hc
  rw [Percent.decode_of_no_mark hmark, Text.decodeStrict_bytes]

theorem mem_v4Text {n : Nat} (h : c ∈ v4Text n) : c.isDigit = true ∨ c = '.' := by
  rcases Text.mem_intercalate (v4Text_eq n ▸ h) with rfl | ⟨part, hp, hc⟩
  · exact .inr rfl
  · obtain ⟨m, -, rfl⟩ := List.mem_map.mp hp
    exact .inl (isDigit_of_mem_toDigits hc)

theorem isNameChar_of_mem_v4Text {n : Nat} (h : c ∈ v4Text n) :
    isNameChar c = true ∧ c ≠ '%' := by
  rcases mem_v4Text h with hd | rfl
  · obtain ⟨hlow, -, -, hf⟩ := Domain.isLowAscii_of_isDigit hd
    exact isNameChar_of_allowed (Domain.ascii_of_isLowAscii hlow) hf
  · decide

theorem v4Text_ne_nil (n : Nat) : v4Text n ≠ [] := by
  intro hnil
  have hparts := dotParts_v4Text n
  rw [hnil] at hparts
  exact absurd (congrArg List.length hparts) (by simp [dotParts, v4Bytes])

theorem toAscii_v4Text (n : Nat) : Domain.toAscii? (v4Text n) = some (v4Text n) := by
  rw [v4Text_eq]
  refine Domain.toAscii_dotted (by simp [v4Bytes]) fun part hp c hc => ?_
  obtain ⟨m, -, rfl⟩ := List.mem_map.mp hp
  exact isDigit_of_mem_toDigits hc

/-- A host under a special scheme reads back. -/
theorem ofSpecial_text (h : IsNormal true host) : ofSpecial? host.text = some host := by
  cases host with
  | name cs =>
    obtain ⟨hne, hchars, hspecial⟩ := h
    obtain ⟨hmark, hascii, hnumber⟩ := hspecial rfl
    have hdecode := decodeStrict_name (fun c hc => ascii_of_isNameChar (hchars c hc)) hmark
    simp [ofSpecial?, text, bracketed_name hchars, hdecode, hascii, hne, hnumber]
  | v4 n =>
    have hchars (c : Char) (hc : c ∈ v4Text n) := isNameChar_of_mem_v4Text hc
    have hmark : '%' ∉ v4Text n := fun hm => (hchars '%' hm).2 rfl
    have hdecode := decodeStrict_name (fun c hc => ascii_of_isNameChar (hchars c hc).1) hmark
    have hne := v4Text_ne_nil n
    simp [ofSpecial?, text, bracketed_name fun c hc => (hchars c hc).1, hdecode, toAscii_v4Text,
      hne, endsInNumber_v4Text, v4_v4Text h.2]
  | v6 ns => simp [ofSpecial?, text, bracketed_v6Text h.1 h.2]

/-- A host under any other scheme reads back. -/
theorem ofOpaque_text (h : IsNormal false host) : ofOpaque? host.text = some host := by
  cases host with
  | name cs =>
    obtain ⟨hne, hchars, -⟩ := h
    have hforbidden : cs.any isForbidden = false := by
      rw [List.any_eq_false]
      exact fun c hc => by simpa using (Bool.and_eq_true_iff.mp (hchars c hc)).2
    have hcontrol : ∀ n < 0x80, Text.isVisible (Char.ofNat n) = true →
        Percent.isControl (Char.ofNat n) = false := by
      decide
    have hself : Percent.encode Percent.isControl cs = cs := by
      refine Percent.encode_eq_self fun c hc => ?_
      have hv := visible_of_isNameChar (hchars c hc)
      have hlow := Text.ascii_of_isVisible hv
      exact ⟨hlow, Text.of_ascii (P := fun c => Text.isVisible c = true →
        Percent.isControl c = false) hcontrol hlow hv⟩
    simp [ofOpaque?, text, bracketed_name hchars, hne, hforbidden, hself]
  | v4 n => simp [IsNormal] at h
  | v6 ns => simp [ofOpaque?, text, bracketed_v6Text h.1 h.2]

theorem mem_groupsText (h : c ∈ groupsText ns) : c = ':' ∨ ∃ d < 16, c = d.digitChar := by
  rcases Text.mem_intercalate h with rfl | ⟨part, hp, hc⟩
  · exact .inl rfl
  · obtain ⟨m, -, rfl⟩ := List.mem_map.mp hp
    exact .inr (mem_toDigits (by decide) hc)

/-- The text of an IPv6 address is one pair of brackets. -/
theorem v6Text_eq (ns : List Nat) : ∃ inner, v6Text ns = '[' :: inner ++ [']'] ∧
    ∀ c ∈ inner, c = ':' ∨ ∃ d < 16, c = d.digitChar := by
  unfold v6Text
  split
  · refine ⟨_, rfl, fun c hc => ?_⟩
    simp only [List.mem_append, List.mem_cons, List.not_mem_nil, or_false] at hc
    rcases hc with (hc | rfl | rfl) | hc
    · exact mem_groupsText hc
    · exact .inl rfl
    · exact .inl rfl
    · exact mem_groupsText hc
  · exact ⟨_, rfl, fun c hc => mem_groupsText hc⟩

/-- Characters that are part of the text of a host, and end no part of an address. -/
def isHostChar (c : Char) : Bool :=
  Text.isVisible c && !(['/', '\\', '?', '#', '@'].contains c)

theorem isHostChar_of_mem_text (h : IsNormal special host) (hc : c ∈ host.text) :
    isHostChar c = true := by
  have hname : ∀ n < 0x80, isNameChar (Char.ofNat n) = true → isHostChar (Char.ofNat n) = true := by
    decide
  have hchar (c : Char) (hn : isNameChar c = true) : isHostChar c = true :=
    Text.of_ascii (P := fun c => isNameChar c = true → isHostChar c = true) hname
      (ascii_of_isNameChar hn) hn
  cases host with
  | name cs => exact hchar c (h.2.1 c hc)
  | v4 n => exact hchar c (isNameChar_of_mem_v4Text hc).1
  | v6 ns =>
    obtain ⟨inner, heq, hinner⟩ := v6Text_eq ns
    have hm : c ∈ '[' :: inner ++ [']'] := heq ▸ hc
    simp only [List.cons_append, List.mem_cons, List.mem_append, List.not_mem_nil, or_false] at hm
    rcases hm with rfl | hm | rfl
    · decide
    · rcases hinner c hm with rfl | ⟨d, hd, rfl⟩
      · decide
      · have hall : ∀ d < 16, isHostChar d.digitChar = true := by decide
        exact hall d hd
    · decide

theorem text_ne_nil (h : IsNormal special host) : host.text ≠ [] := by
  cases host with
  | name cs => exact h.1
  | v4 n => exact v4Text_ne_nil n
  | v6 ns =>
    obtain ⟨inner, heq, -⟩ := v6Text_eq ns
    rw [text, heq]
    simp

end CurlScribe.Host

namespace CurlScribe.Address

open Host

variable {special : Bool} {cs : List Char} {host : Host}

/-- No port is found in a text without colons and brackets, nor between brackets. -/
theorem cutPort_append {b : Bool}
    (h : ∀ c ∈ cs, c ≠ '[' ∧ c ≠ ']' ∧ (b = false → c ≠ ':')) (rest : List Char) :
    cutPort b (cs ++ rest) = (cs ++ (cutPort b rest).1, (cutPort b rest).2) := by
  induction cs with
  | nil => rfl
  | cons c cs ih =>
    obtain ⟨hopen, hclose, hcolon⟩ := h c (by simp)
    have hport : (c == ':' && !b) = false := by
      cases b with
      | true => simp
      | false => simpa using hcolon rfl
    rw [List.cons_append, cutPort, if_neg (by simp [hport])]
    simp [hopen, hclose, ih fun d hd => h d (List.mem_cons_of_mem c hd)]

/-- The port stands behind the text of the host. -/
theorem cutPort_text (h : IsNormal special host) (rest : List Char) :
    cutPort false (host.text ++ rest) =
      (host.text ++ (cutPort false rest).1, (cutPort false rest).2) := by
  have hname : ∀ n < 0x80, isNameChar (Char.ofNat n) = true →
      Char.ofNat n ≠ '[' ∧ Char.ofNat n ≠ ']' ∧ Char.ofNat n ≠ ':' := by
    decide
  have hchar (c : Char) (hn : isNameChar c = true) :
      c ≠ '[' ∧ c ≠ ']' ∧ (false = false → c ≠ ':') := by
    obtain ⟨h1, h2, h3⟩ := Text.of_ascii (P := fun c => isNameChar c = true →
      c ≠ '[' ∧ c ≠ ']' ∧ c ≠ ':') hname (ascii_of_isNameChar hn) hn
    exact ⟨h1, h2, fun _ => h3⟩
  cases host with
  | name cs => exact cutPort_append (fun c hc => hchar c (h.2.1 c hc)) rest
  | v4 n => exact cutPort_append (fun c hc => hchar c (isNameChar_of_mem_v4Text hc).1) rest
  | v6 ns =>
    obtain ⟨inner, heq, hinner⟩ := v6Text_eq ns
    have hinside : ∀ c ∈ inner, c ≠ '[' ∧ c ≠ ']' ∧ (true = false → c ≠ ':') := by
      intro c hc
      rcases hinner c hc with rfl | ⟨d, hd, rfl⟩
      · decide
      · have hall : ∀ d < 16, d.digitChar ≠ '[' ∧ d.digitChar ≠ ']' := by decide
        exact ⟨(hall d hd).1, (hall d hd).2, by simp⟩
    rw [text, heq, List.append_assoc, List.cons_append, cutPort, if_neg (by decide)]
    simp [cutPort_append hinside, cutPort]

end CurlScribe.Address
