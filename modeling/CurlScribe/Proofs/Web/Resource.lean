import CurlScribe.Proofs.Text.Cut
import CurlScribe.Proofs.Web.Percent
import CurlScribe.Web.Address

/-! The bytes that a path names. Resolving the escapes of plain characters keeps them, unless a mark
that starts no escape comes to stand before two digits. -/
namespace CurlScribe.Percent

variable {a b c d : Char} {cs u v rest s : List Char} {bs : List Nat} {n : Nat}
  {P : Char → Char → Prop}

/-- A path with all of its escapes resolved. -/
def resolved (cs : List Char) : List Nat := decode (Text.bytes cs)

/-- Two characters that are an escape behind a mark. -/
def IsEscape (a b : Char) : Prop := ∃ n, pairByte? a.toNat b.toNat = some n

/-- Two characters that are the escape of a plain character behind a mark. -/
def IsPlainEscape (a b : Char) : Prop := ∃ x, plainOf? a b = some x

/-- A character, or its escape where it is plain. -/
inductive Spells : List Char → Char → Prop
  | itself (c : Char) : Spells [c] c
  | escaped {a b c : Char} (h : plainOf? a b = some c) : Spells ['%', a, b] c

/-- Two characters are spelled at the start of a text, not both of them by themselves. -/
def SpellsPair (P : Char → Char → Prop) (cs : List Char) : Prop :=
  ∃ u a v b rest, cs = u ++ v ++ rest ∧ Spells u a ∧ Spells v b ∧ '%' ∈ u ++ v ∧ P a b

/-- Behind a mark, two characters are spelled that make an escape with it. -/
def MakesEscape (P : Char → Char → Prop) (cs : List Char) : Prop :=
  Text.Behind '%' (SpellsPair P) cs

/-- Two characters stand at the start of a text. -/
def StartsPair (P : Char → Char → Prop) (cs : List Char) : Prop :=
  ∃ a b rest, cs = a :: b :: rest ∧ P a b

/-! The digits of an escape. -/

theorem ne_mark_of_isEscape (h : IsEscape a b) : a ≠ '%' ∧ b ≠ '%' := by
  obtain ⟨n, hn⟩ := h
  constructor
  · rintro rfl
    simp [pairByte?, hexByte?] at hn
  · rintro rfl
    unfold pairByte? at hn
    split at hn
    · rename_i hb
      simp [hexByte?] at hb
    · simp at hn

theorem isEscape_of_plain {x : Char} (h : plainOf? a b = some x) :
    pairByte? a.toNat b.toNat = some x.toNat := by
  obtain ⟨n, hn, hx⟩ := Option.bind_eq_some_iff.mp h
  simp only [Option.ite_none_right_eq_some, Bool.and_eq_true, decide_eq_true_eq,
    Option.some.injEq] at hx
  obtain ⟨⟨hlt, -⟩, rfl⟩ := hx
  rw [hn, Text.toNat_ofNat hlt]

theorem ne_mark_of_plain {x : Char} (h : plainOf? a b = some x) : x ≠ '%' := by
  rintro rfl
  exact absurd (isPlain_of_plainOf h).2 (by decide)

/-! The bytes of a path, step by step. -/

/-- An ASCII byte is a character by itself. -/
theorem exists_of_bytes (hn : n < 0x80) (h : Text.bytes cs = n :: bs) :
    ∃ c rest, cs = c :: rest ∧ c.toNat = n ∧ Text.bytes rest = bs := by
  match cs with
  | [] => simp [Text.bytes] at h
  | c :: rest =>
    rw [Text.bytes_cons] at h
    by_cases hc : c.toNat < 0x80
    · rw [Text.charBytes_ascii hc] at h
      obtain ⟨heq, hrest⟩ := List.cons.inj h
      exact ⟨c, rest, rfl, heq, hrest⟩
    · obtain ⟨b, more, hb⟩ := List.exists_cons_of_ne_nil (Text.charBytes_ne_nil c)
      have hmem : b ∈ Text.charBytes c := by simp [hb]
      have hhigh := Text.high_of_mem_charBytes (by omega) hmem
      rw [hb] at h
      have := (List.cons.inj h).1
      omega

theorem resolved_cons (h : c ≠ '%') (cs : List Char) :
    resolved (c :: cs) = Text.charBytes c ++ resolved cs := by
  have hm : mark ∉ Text.charBytes c := by
    intro hm
    by_cases hc : c.toNat < 0x80
    · rw [Text.charBytes_ascii hc, List.mem_singleton] at hm
      exact h (Char.toNat_inj.mp hm.symm)
    · exact absurd (Text.high_of_mem_charBytes (by omega) hm) (by decide)
  rw [resolved, Text.bytes_cons, decode_append hm, resolved]

theorem resolved_ascii (h : c ≠ '%') (ha : c.toNat < 0x80) (cs : List Char) :
    resolved (c :: cs) = c.toNat :: resolved cs := by
  rw [resolved_cons h, Text.charBytes_ascii ha, List.singleton_append]

theorem ascii_of_pairByte {x y : Nat} (h : pairByte? x y = some n) : x < 0x80 ∧ y < 0x80 := by
  unfold pairByte? at h
  split at h
  · rename_i ha hb
    exact ⟨(hexByte_lt ha).1, (hexByte_lt hb).1⟩
  · simp at h

theorem bytes_mark (cs : List Char) : Text.bytes ('%' :: cs) = mark :: Text.bytes cs := by
  rw [Text.bytes_cons, Text.charBytes_ascii (by decide)]
  rfl

theorem resolved_escape (h : pairByte? a.toNat b.toNat = some n) (cs : List Char) :
    resolved ('%' :: a :: b :: cs) = n :: resolved cs := by
  obtain ⟨ha, hb⟩ := ascii_of_pairByte h
  rw [resolved, bytes_mark, Text.bytes_cons, Text.bytes_cons, Text.charBytes_ascii ha,
    Text.charBytes_ascii hb, List.singleton_append, List.singleton_append, decode, if_pos rfl, h,
    resolved]

theorem resolved_mark (h : ¬ StartsPair IsEscape cs) :
    resolved ('%' :: cs) = mark :: resolved cs := by
  rw [resolved, bytes_mark, resolved]
  match hbs : Text.bytes cs with
  | [] => rfl
  | [_] => rfl
  | x :: y :: bs =>
    rw [decode, if_pos rfl]
    cases hp : pairByte? x y with
    | none => rfl
    | some n =>
      have hx := ascii_of_pairByte hp
      obtain ⟨a, rest, rfl, rfl, hrest⟩ := exists_of_bytes hx.1 hbs
      obtain ⟨b, rest, rfl, rfl, -⟩ := exists_of_bytes hx.2 hrest
      exact (h ⟨a, b, rest, rfl, n, hp⟩).elim

theorem resolved_digits (h : IsEscape a b) (cs : List Char) :
    resolved (a :: b :: cs) = a.toNat :: b.toNat :: resolved cs := by
  obtain ⟨ha, hb⟩ := ne_mark_of_isEscape h
  obtain ⟨n, hpair⟩ := h
  obtain ⟨ha', hb'⟩ := ascii_of_pairByte hpair
  rw [resolved_ascii ha ha', resolved_ascii hb hb']

theorem relax_digits (h : IsEscape a b) (cs : List Char) :
    relax (a :: b :: cs) = a :: b :: relax cs := by
  obtain ⟨ha, hb⟩ := ne_mark_of_isEscape h
  rw [relax_cons ha, relax_cons hb]

/-! Where an escape is made. -/

theorem relax_spells (h : Spells u a) (ha : a ≠ '%') (cs : List Char) :
    relax (u ++ cs) = a :: relax cs := by
  cases h with
  | itself => exact relax_cons ha cs
  | escaped h => exact relax_escape h cs

theorem exists_spells (h : relax cs = a :: s) :
    ∃ u rest, cs = u ++ rest ∧ Spells u a ∧ relax rest = s := by
  rcases relax_cases cs with rfl | ⟨c, d, x, rest, rfl, hx, hr⟩ | ⟨c, rest, rfl, hr⟩
  · simp at h
  · obtain ⟨rfl, hs⟩ := List.cons.inj (hr.symm.trans h)
    exact ⟨_, rest, rfl, .escaped hx, hs⟩
  · obtain ⟨rfl, hs⟩ := List.cons.inj (hr.symm.trans h)
    exact ⟨[c], rest, rfl, .itself c, hs⟩

/-- A pair is spelled where it is there after the escapes of plain characters are gone, and was not
there before. -/
theorem spellsPair_iff (hP : ∀ a b, P a b → IsEscape a b) :
    SpellsPair P cs ↔ StartsPair P (relax cs) ∧ ¬ StartsPair P cs := by
  constructor
  · rintro ⟨u, a, v, b, rest, rfl, hu, hv, hm, hab⟩
    obtain ⟨ha, hb⟩ := ne_mark_of_isEscape (hP a b hab)
    refine ⟨⟨a, b, relax rest, ?_, hab⟩, ?_⟩
    · rw [List.append_assoc, relax_spells hu ha, relax_spells hv hb]
    · rintro ⟨c, d, more, heq, hcd⟩
      obtain ⟨hc, hd⟩ := ne_mark_of_isEscape (hP c d hcd)
      cases hu with
      | escaped h => exact hc (List.cons.inj heq).1.symm
      | itself =>
        cases hv with
        | escaped h => exact hd (List.cons.inj (List.cons.inj heq).2).1.symm
        | itself => simp [Ne.symm ha, Ne.symm hb] at hm
  · rintro ⟨⟨a, b, s, heq, hab⟩, hn⟩
    obtain ⟨u, rest, rfl, hu, hrest⟩ := exists_spells heq
    obtain ⟨v, rest, rfl, hv, -⟩ := exists_spells hrest
    refine ⟨u, a, v, b, rest, (List.append_assoc ..).symm, hu, hv, ?_, hab⟩
    cases hu with
    | escaped h => simp
    | itself =>
      cases hv with
      | escaped h => simp
      | itself => exact (hn ⟨a, b, rest, rfl, hab⟩).elim

theorem not_makesEscape_nil : ¬ MakesEscape P [] := Text.not_behind_nil

theorem makesEscape_cons (h : c ≠ '%') (cs : List Char) :
    MakesEscape P (c :: cs) ↔ MakesEscape P cs :=
  Text.behind_other h cs

theorem makesEscape_mark (cs : List Char) :
    MakesEscape P ('%' :: cs) ↔ SpellsPair P cs ∨ MakesEscape P cs :=
  Text.behind_mark cs

theorem not_spellsPair_of_starts (hP : ∀ a b, P a b → IsEscape a b) (h : StartsPair P cs) :
    ¬ SpellsPair P cs := fun hs => ((spellsPair_iff hP).mp hs).2 h

theorem makesEscape_digits (h : IsEscape a b) (cs : List Char) :
    MakesEscape P (a :: b :: cs) ↔ MakesEscape P cs := by
  obtain ⟨ha, hb⟩ := ne_mark_of_isEscape h
  rw [makesEscape_cons ha, makesEscape_cons hb]

/-- Resolving the escapes of plain characters keeps the bytes of a path where no escape is made, and
there are fewer of them where one is. -/
theorem resolved_relax (cs : List Char) :
    (resolved (relax cs) = resolved cs ∧ ¬ MakesEscape IsEscape cs) ∨
      ((resolved (relax cs)).length < (resolved cs).length ∧ MakesEscape IsEscape cs) := by
  induction cs using relax_induction with
  | nil => exact .inl ⟨rfl, not_makesEscape_nil⟩
  | escape c d x rest hx ih =>
    have hpair := isEscape_of_plain hx
    have hmakes : MakesEscape IsEscape ('%' :: c :: d :: rest) ↔ MakesEscape IsEscape rest := by
      rw [makesEscape_mark, or_iff_right (not_spellsPair_of_starts (fun _ _ h => h)
        ⟨c, d, rest, rfl, _, hpair⟩), makesEscape_digits ⟨_, hpair⟩]
    rw [relax_escape hx, resolved_ascii (ne_mark_of_plain hx) (isPlain_of_plainOf hx).1,
      resolved_escape hpair, hmakes]
    simpa using ih
  | mark rest hn ih =>
    rw [relax_mark hn, makesEscape_mark]
    by_cases hs : StartsPair IsEscape rest
    · have hnot := not_spellsPair_of_starts (fun _ _ h => h) hs
      obtain ⟨a, b, more, rfl, hab⟩ := hs
      rw [relax_digits hab, resolved_digits hab, resolved_digits hab] at ih
      obtain ⟨n, hpair⟩ := hab
      rw [relax_digits ⟨n, hpair⟩, resolved_escape hpair, resolved_escape hpair, or_iff_right hnot]
      simpa using ih
    · rw [resolved_mark hs]
      by_cases hs' : StartsPair IsEscape (relax rest)
      · have hmade := (spellsPair_iff (fun _ _ h => h)).mpr ⟨hs', hs⟩
        have hle := Text.length_le_of_shorter ih
        obtain ⟨a, b, more, heq, hab⟩ := hs'
        rw [heq, resolved_digits hab] at hle
        obtain ⟨n, hpair⟩ := hab
        refine .inr ⟨?_, .inl hmade⟩
        rw [heq, resolved_escape hpair]
        simp only [List.length_cons] at hle ⊢
        omega
      · have hnot : ¬ SpellsPair IsEscape rest := fun h =>
          hs' ((spellsPair_iff (fun _ _ h => h)).mp h).1
        rw [resolved_mark hs', or_iff_right hnot]
        simpa using ih
  | cons c rest hc ih =>
    rw [relax_cons hc, resolved_cons hc, resolved_cons hc, makesEscape_cons hc]
    simpa using ih

/-- A second pass finds nothing where no escape of a plain character is made, and shortens the text
where one is. -/
theorem relax_relax (cs : List Char) :
    (relax (relax cs) = relax cs ∧ ¬ MakesEscape IsPlainEscape cs) ∨
      ((relax (relax cs)).length < (relax cs).length ∧ MakesEscape IsPlainEscape cs) := by
  have hplain : ∀ a b, IsPlainEscape a b → IsEscape a b := fun a b ⟨_, hx⟩ =>
    ⟨_, isEscape_of_plain hx⟩
  induction cs using relax_induction with
  | nil => exact .inl ⟨rfl, not_makesEscape_nil⟩
  | escape c d x rest hx ih =>
    rw [relax_escape hx, relax_cons (ne_mark_of_plain hx), makesEscape_mark,
      or_iff_right (not_spellsPair_of_starts hplain ⟨c, d, rest, rfl, x, hx⟩),
      makesEscape_digits (hplain c d ⟨x, hx⟩)]
    simpa using ih
  | mark rest hn ih =>
    have hstart : ¬ StartsPair IsPlainEscape rest := fun ⟨a, b, more, heq, x, hx⟩ => by
      simp [hn a b more heq] at hx
    rw [relax_mark hn, makesEscape_mark, spellsPair_iff hplain, and_iff_left hstart]
    by_cases hs : StartsPair IsPlainEscape (relax rest)
    · refine .inr ⟨?_, .inl hs⟩
      obtain ⟨a, b, more, heq, x, hx⟩ := hs
      have hle : (relax more).length ≤ more.length := by
        rcases relax_eq_or_shorter more with h | h
        · rw [h]
        · exact Nat.le_of_lt h
      rw [heq, relax_escape hx]
      simp only [List.length_cons]
      omega
    · have hkeep : relax ('%' :: relax rest) = '%' :: relax (relax rest) :=
        relax_mark fun a b more heq => by
          cases hp : plainOf? a b with
          | none => rfl
          | some x => exact (hs ⟨a, b, more, heq, x, hp⟩).elim
      rw [hkeep, or_iff_right hs]
      simpa using ih
  | cons c rest hc ih =>
    rw [relax_cons hc, relax_cons hc, makesEscape_cons hc]
    simpa using ih

/-- A path names the same bytes after its plain characters are unescaped exactly where that makes no
escape, and nothing more is to be unescaped exactly where it makes none of a plain character. -/
theorem relax_keeps_resource_iff (cs : List Char) :
    (resolved (relax cs) = resolved cs ↔ ¬ MakesEscape IsEscape cs) ∧
      (relax (relax cs) = relax cs ↔ ¬ MakesEscape IsPlainEscape cs) :=
  ⟨Text.eq_iff_of_shorter (resolved_relax cs), Text.eq_iff_of_shorter (relax_relax cs)⟩

/-- The digit that is unescaped makes an escape of `A` with what stands around it. -/
theorem unescaped_digit_makes_escape :
    (Location.ofText "http://[::1]/%%341").endpoint = "/%41" ∧
      resolved (relax "/%%341".toList) ≠ resolved "/%%341".toList ∧
        relax (relax "/%%341".toList) ≠ relax "/%%341".toList := by
  decide +kernel

end CurlScribe.Percent
