import CurlScribe.Proofs.Text.Visible
import CurlScribe.Web.Percent

/-! Escapes: they resolve to what was escaped, and those of plain characters go for good unless
their going makes another. -/
namespace CurlScribe.Percent

variable {a b : Nat} {c d : Char} {cs rest : List Char} {bs : List Nat} {set : Char → Bool}

/-! Resolving the escapes of bytes. -/

theorem hexByte_upperHexDigit (n : Nat) : hexByte? (upperHexDigit n).toNat = some (n % 16) := by
  have hall : ∀ m < 16, hexByte? (upperHexDigit m).toNat = some m := by decide
  have hn : upperHexDigit n = upperHexDigit (n % 16) := by simp [upperHexDigit]
  rw [hn, hall _ (Nat.mod_lt _ (by decide))]

theorem pairByte_escape (h : b < 0x100) :
    pairByte? (upperHexDigit (b / 16)).toNat (upperHexDigit b).toNat = some b := by
  simp only [pairByte?, hexByte_upperHexDigit, Option.some.injEq]
  omega

theorem decode_cons (h : b ≠ mark) (bs : List Nat) : decode (b :: bs) = b :: decode bs := by
  match bs with
  | [] => rfl
  | [_] => rfl
  | _ :: _ :: _ => rw [decode, if_neg h]

theorem decode_append (h : mark ∉ bs) (more : List Nat) :
    decode (bs ++ more) = bs ++ decode more := by
  induction bs with
  | nil => rfl
  | cons b bs ih =>
    rw [List.mem_cons, not_or] at h
    rw [List.cons_append, decode_cons (Ne.symm h.1), ih h.2, List.cons_append]

theorem decode_of_no_mark (h : mark ∉ bs) : decode bs = bs := by
  simpa [decode] using decode_append h []

theorem decode_escape (h : b < 0x100) (bs : List Nat) :
    decode ((escape b).map Char.toNat ++ bs) = b :: decode bs := by
  simp only [escape, List.map_cons, List.map_nil, List.cons_append, List.nil_append]
  rw [decode, if_pos (by decide), pairByte_escape h]

/-! Escaping. -/

/-- The characters of escapes. -/
def isEscaping (c : Char) : Bool := c == '%' || (hexByte? c.toNat).isSome

theorem hexByte_lt {n v : Nat} (h : hexByte? n = some v) : n < 0x80 ∧ v < 16 := by
  unfold hexByte? at h
  grind

theorem ascii_of_isEscaping (h : isEscaping c = true) : c.toNat < 0x80 := by
  rcases Bool.or_eq_true_iff.mp h with h | h
  · obtain rfl := by simpa using h
    decide
  · obtain ⟨v, hv⟩ := Option.isSome_iff_exists.mp h
    exact (hexByte_lt hv).1

theorem isEscaping_of_mem_escape (h : c ∈ escape b) : isEscaping c = true := by
  simp only [escape, List.mem_cons, List.not_mem_nil, or_false] at h
  rcases h with rfl | rfl | rfl
  · rfl
  · simp [isEscaping, hexByte_upperHexDigit]
  · simp [isEscaping, hexByte_upperHexDigit]

theorem mem_encode (h : c ∈ encode set cs) :
    (c ∈ cs ∧ c.toNat < 0x80 ∧ set c = false) ∨ isEscaping c = true := by
  obtain ⟨d, hd, hc⟩ := List.mem_flatMap.mp h
  split at hc
  · obtain ⟨b, -, hb⟩ := List.mem_flatMap.mp hc
    exact .inr (isEscaping_of_mem_escape hb)
  · rename_i hs
    obtain rfl := List.mem_singleton.mp hc
    simp only [Bool.or_eq_true, decide_eq_true_eq, not_or, Nat.not_le, Bool.not_eq_true] at hs
    exact .inl ⟨hd, hs⟩

theorem encode_ne_nil (c : Char) (cs : List Char) : encode set (c :: cs) ≠ [] := by
  obtain ⟨b, bs, hb⟩ := List.exists_cons_of_ne_nil (Text.charBytes_ne_nil c)
  rw [encode, List.flatMap_cons, hb]
  split <;> simp [escape]

theorem encode_cons_of_not (hc : c.toNat < 0x80) (hs : set c = false) (cs : List Char) :
    encode set (c :: cs) = c :: encode set cs := by
  have hn : ¬ 0x80 ≤ c.toNat := by omega
  simp [encode, hs, hn]

/-- Nothing is escaped twice. -/
theorem encode_eq_self (h : ∀ c ∈ cs, c.toNat < 0x80 ∧ set c = false) : encode set cs = cs := by
  induction cs with
  | nil => rfl
  | cons c cs ih =>
    obtain ⟨hc, hs⟩ := h c (by simp)
    rw [encode_cons_of_not hc hs, ih fun d hd => h d (by simp [hd])]

/-! Resolving the escapes of plain characters. -/

theorem plainOf_eq_none_left (h : hexByte? c.toNat = none) (d : Char) : plainOf? c d = none := by
  simp [plainOf?, pairByte?, h]

theorem plainOf_eq_none_right (c : Char) (h : hexByte? d.toNat = none) : plainOf? c d = none := by
  simp only [plainOf?, pairByte?, h]
  split <;> simp_all

theorem isEscaping_of_plainOf {x : Char} (h : plainOf? c d = some x) :
    (hexByte? c.toNat).isSome ∧ (hexByte? d.toNat).isSome := by
  constructor
  · cases hc : hexByte? c.toNat with
    | none => simp [plainOf_eq_none_left hc] at h
    | some n => rfl
  · cases hd : hexByte? d.toNat with
    | none => simp [plainOf_eq_none_right c hd] at h
    | some n => rfl

theorem isPlain_of_plainOf {x : Char} (h : plainOf? c d = some x) :
    x.toNat < 0x80 ∧ isPlain x = true := by
  obtain ⟨n, -, hn⟩ := Option.bind_eq_some_iff.mp h
  simp only [Option.ite_none_right_eq_some, Bool.and_eq_true, decide_eq_true_eq,
    Option.some.injEq] at hn
  obtain ⟨⟨hlt, hp⟩, rfl⟩ := hn
  exact ⟨(Text.toNat_ofNat hlt).symm ▸ hlt, hp⟩

@[simp] theorem relax_nil : relax [] = [] := rfl

theorem relax_cons (h : c ≠ '%') (cs : List Char) : relax (c :: cs) = c :: relax cs := by
  rw [relax]
  simp [h]

/-- What becomes of a mark is decided by the two characters after it. -/
theorem relax_pair (c d : Char) (cs : List Char) : relax ('%' :: c :: d :: cs) =
    match plainOf? c d with
    | some x => x :: relax cs
    | none => '%' :: relax (c :: d :: cs) := rfl

theorem relax_escape {x : Char} (h : plainOf? c d = some x) (cs : List Char) :
    relax ('%' :: c :: d :: cs) = x :: relax cs := by
  rw [relax_pair, h]

/-- A mark that starts no escape of a plain character stays. -/
theorem relax_mark (h : ∀ c d rest, cs = c :: d :: rest → plainOf? c d = none) :
    relax ('%' :: cs) = '%' :: relax cs := by
  match cs with
  | [] => rfl
  | [_] => rfl
  | c :: d :: rest => rw [relax_pair, h c d rest rfl]

/-- Induction along a text: an escape of a plain character goes in one step, anything else goes
character by character. -/
theorem relax_induction {P : List Char → Prop} (nil : P [])
    (escape : ∀ c d x rest, plainOf? c d = some x → P rest → P ('%' :: c :: d :: rest))
    (mark : ∀ rest, (∀ c d more, rest = c :: d :: more → plainOf? c d = none) → P rest →
      P ('%' :: rest))
    (cons : ∀ c rest, c ≠ '%' → P rest → P (c :: rest)) (cs : List Char) : P cs := by
  fun_induction relax cs with
  | case1 => exact nil
  | case2 c d rest x h ih => exact escape c d x rest h ih
  | case3 c d rest h ih =>
    refine mark (c :: d :: rest) ?_ ih
    rintro _ _ _ ⟨rfl, rfl, rfl⟩
    exact h
  | case4 c rest h ih =>
    by_cases hc : c = '%'
    · subst hc
      exact mark rest (fun c d more hm => (h c d more rfl hm).elim) ih
    · exact cons c rest hc ih

/-- How a text with escapes starts: with an escape of a plain character, or with a character that
stays. -/
theorem relax_cases (cs : List Char) : cs = [] ∨
    (∃ c d x rest, cs = '%' :: c :: d :: rest ∧ plainOf? c d = some x ∧
      relax cs = x :: relax rest) ∨
    ∃ c rest, cs = c :: rest ∧ relax cs = c :: relax rest := by
  induction cs using relax_induction with
  | nil => exact .inl rfl
  | escape c d x rest hx => exact .inr (.inl ⟨c, d, x, rest, rfl, hx, relax_escape hx rest⟩)
  | mark rest hn => exact .inr (.inr ⟨'%', rest, rfl, relax_mark hn⟩)
  | cons c rest hc => exact .inr (.inr ⟨c, rest, rfl, relax_cons hc rest⟩)

/-- A text without escapes of plain characters is left as it is, any other becomes shorter. -/
theorem relax_eq_or_shorter (cs : List Char) : relax cs = cs ∨ (relax cs).length < cs.length := by
  induction cs using relax_induction with
  | nil => exact .inl rfl
  | escape c d x rest hx ih =>
    right
    rw [relax_escape hx]
    rcases ih with ih | ih
    · simp [ih]
    · simp only [List.length_cons]
      omega
  | mark rest hn ih => simpa [relax_mark hn] using ih
  | cons c rest hc ih => simpa [relax_cons hc] using ih

theorem mem_relax (h : c ∈ relax cs) : c ∈ cs ∨ (c.toNat < 0x80 ∧ isPlain c = true) := by
  induction cs using relax_induction with
  | nil => exact .inl h
  | escape a b x rest hx ih =>
    rw [relax_escape hx] at h
    rcases List.mem_cons.mp h with rfl | h
    · exact .inr (isPlain_of_plainOf hx)
    · exact (ih h).imp (by simp_all) id
  | mark rest hn ih =>
    rw [relax_mark hn] at h
    rcases List.mem_cons.mp h with rfl | h
    · simp
    · exact (ih h).imp (by simp_all) id
  | cons a rest ha ih =>
    rw [relax_cons ha] at h
    rcases List.mem_cons.mp h with rfl | h
    · simp
    · exact (ih h).imp (by simp_all) id

/-- No escape reaches over a character that is no part of one. -/
theorem relax_append_cons (h : isEscaping c = false) (cs rest : List Char) :
    relax (cs ++ c :: rest) = relax cs ++ c :: relax rest := by
  have hc : c ≠ '%' ∧ hexByte? c.toNat = none := by simpa [isEscaping] using h
  induction cs using relax_induction with
  | nil => exact relax_cons hc.1 rest
  | escape a b x more hx ih =>
    rw [List.cons_append, List.cons_append, List.cons_append, relax_escape hx, relax_escape hx, ih,
      List.cons_append]
  | mark more hn ih =>
    rw [relax_mark hn, List.cons_append, List.cons_append, ← ih]
    refine relax_mark fun x y tail ht => ?_
    match more, hn with
    | [], _ =>
      obtain ⟨rfl, -⟩ := List.cons.inj ht
      exact plainOf_eq_none_left hc.2 y
    | [z], _ =>
      obtain ⟨rfl, hy⟩ := List.cons.inj ht
      obtain ⟨rfl, -⟩ := List.cons.inj hy
      exact plainOf_eq_none_right _ hc.2
    | z :: w :: tail, hn =>
      obtain ⟨rfl, hy⟩ := List.cons.inj ht
      obtain ⟨rfl, -⟩ := List.cons.inj hy
      exact hn _ _ tail rfl
  | cons a more ha ih => rw [relax_cons ha, List.cons_append, List.cons_append, relax_cons ha, ih]

theorem encode_cons (hc : c.toNat < 0x80) (hs : set c = true) (cs : List Char) :
    encode set (c :: cs) = escape c.toNat ++ encode set cs := by
  simp [encode, hs, Text.charBytes_ascii hc]

/-- ASCII of which a set takes in nothing but the braces of placeholders. -/
def EscapesBraces (set : Char → Bool) (cs : List Char) : Prop :=
  ∀ c ∈ cs, c.toNat < 0x80 ∧ (set c = true → c = '\x7b' ∨ c = '\x7d')

theorem encode_head (h : EscapesBraces set (c :: cs)) :
    (∃ more, encode set (c :: cs) = '%' :: more) ∨ encode set (c :: cs) = c :: encode set cs := by
  obtain ⟨hc, -⟩ := h c (by simp)
  cases hs : set c with
  | true => exact .inl ⟨_, encode_cons hc hs cs⟩
  | false => exact .inr (encode_cons_of_not hc hs cs)

/-- No brace is a part of an escape. -/
theorem encode_escaping (h : EscapesBraces set (c :: cs)) (hx : isEscaping c = true) :
    encode set (c :: cs) = c :: encode set cs := by
  obtain ⟨hc, hs⟩ := h c (by simp)
  refine encode_cons_of_not hc (Bool.eq_false_iff.mpr fun hset => ?_) cs
  rcases hs hset with rfl | rfl <;> simp [isEscaping, hexByte?] at hx

theorem relax_mark_encode (h : EscapesBraces set cs)
    (hn : ∀ c d rest, cs = c :: d :: rest → plainOf? c d = none) :
    relax ('%' :: encode set cs) = '%' :: relax (encode set cs) := by
  refine relax_mark fun x y more he => ?_
  match cs with
  | [] => simp [encode] at he
  | c :: rest =>
    rcases encode_head h with ⟨_, hm⟩ | hm
    · obtain ⟨rfl, -⟩ := List.cons.inj (hm.symm.trans he)
      exact plainOf_eq_none_left rfl y
    · obtain ⟨rfl, hrest⟩ := List.cons.inj (hm.symm.trans he)
      match rest with
      | [] => simp [encode] at hrest
      | d :: rest =>
        rcases encode_head fun e hm => h e (List.mem_cons_of_mem c hm) with ⟨_, hm⟩ | hm
        · obtain ⟨rfl, -⟩ := List.cons.inj (hm.symm.trans hrest)
          exact plainOf_eq_none_right c rfl
        · obtain ⟨rfl, -⟩ := List.cons.inj (hm.symm.trans hrest)
          exact hn c d rest rfl

/-- Braces that are escaped come back, and nothing else changes. -/
theorem relax_encode (h : EscapesBraces set cs) : relax (encode set cs) = relax cs := by
  induction cs using relax_induction with
  | nil => rfl
  | escape a b x rest hx ih =>
    obtain ⟨ha, hb⟩ := isEscaping_of_plainOf hx
    have h1 : EscapesBraces set (a :: b :: rest) := fun c hc => h c (by simp [hc])
    have h2 : EscapesBraces set (b :: rest) := fun c hc => h1 c (by simp [hc])
    rw [encode_escaping h rfl, encode_escaping h1 (by simp [isEscaping, ha]),
      encode_escaping h2 (by simp [isEscaping, hb]), relax_escape hx, relax_escape hx,
      ih fun c hc => h2 c (by simp [hc])]
  | mark rest hn ih =>
    have h1 : EscapesBraces set rest := fun c hc => h c (by simp [hc])
    rw [encode_escaping h rfl, relax_mark_encode h1 hn, relax_mark hn, ih h1]
  | cons c rest ha ih =>
    have h1 : EscapesBraces set rest := fun c hc => h c (by simp [hc])
    obtain ⟨hc, hs⟩ := h c (by simp)
    rw [relax_cons ha, ← ih h1]
    cases hset : set c with
    | true =>
      rw [encode_cons hc hset]
      rcases hs hset with rfl | rfl <;> exact relax_escape rfl _
    | false => rw [encode_cons_of_not hc hset, relax_cons ha]

end CurlScribe.Percent
