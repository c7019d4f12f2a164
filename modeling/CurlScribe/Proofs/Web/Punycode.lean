import CurlScribe.Proofs.Text.Cut
import CurlScribe.Proofs.Text.Visible
import CurlScribe.Web.Domain.Punycode
import Mathlib.Tactic.Ring

/-! Punycode reads back what it wrote. -/
namespace CurlScribe.Punycode

variable {n m v : Nat} {c : Char} {cs : List Char} {text before after known : List Nat}
  {start d d' : Decoder} {e : Encoder}

/-! Gaps. -/

theorem digit_digitChar (h : v < 36) : digit? (digitChar v) = some v := by
  have hall : ∀ v < 36, digit? (digitChar v) = some v := by decide
  exact hall v h

/-- A digit that ends a gap. -/
theorem take_last (hv : v < 36) (h : v < threshold d.bias d.place) :
    d.take (digitChar v) = d.settle (d.gap + v * d.weight) := by
  simp [Decoder.take, digit_digitChar hv, h]

/-- A digit after which others follow. -/
theorem take_more (hv : v < 36) (h : threshold d.bias d.place ≤ v) :
    d.take (digitChar v) = some { d with
      gap := d.gap + v * d.weight
      weight := d.weight * (36 - threshold d.bias d.place)
      place := d.place + 36 } := by
  have hn : ¬ v < threshold d.bias d.place := by omega
  simp [Decoder.take, digit_digitChar hv, hn]

/-- The digits of a gap are read as the gap. -/
theorem foldlM_gapDigits (gap : Nat) (d : Decoder) :
    (gapDigits d.bias d.place gap).foldlM Decoder.take d = d.settle (d.gap + gap * d.weight) := by
  induction gap using Nat.strongRecOn generalizing d with
  | _ gap ih =>
    have hpos := threshold_pos d.bias d.place
    have hle := threshold_le d.bias d.place
    rw [gapDigits]
    generalize ht : threshold d.bias d.place = t at hpos hle ⊢
    split
    · rename_i hlt
      rw [List.foldlM_cons, take_last (by omega) (by omega)]
      simp
    · rename_i hge
      have hmod : (gap - t) % (36 - t) < 36 - t := Nat.mod_lt _ (by omega)
      have hdiv : (gap - t) / (36 - t) < gap :=
        Nat.lt_of_le_of_lt (Nat.div_le_self _ _) (by omega)
      rw [List.foldlM_cons, take_more (by omega) (by omega), ht]
      have h := ih _ hdiv { d with
        gap := d.gap + (t + (gap - t) % (36 - t)) * d.weight
        weight := d.weight * (36 - t)
        place := d.place + 36 }
      refine h.trans ?_
      have hsum : (gap - t) % (36 - t) + (36 - t) * ((gap - t) / (36 - t)) = gap - t :=
        Nat.mod_add_div _ _
      have hgap : t + (gap - t) % (36 - t) + (36 - t) * ((gap - t) / (36 - t)) = gap := by omega
      have hweight : d.gap + (t + (gap - t) % (36 - t)) * d.weight +
          (gap - t) / (36 - t) * (d.weight * (36 - t)) = d.gap + gap * d.weight := by
        calc
          _ = d.gap + (t + (gap - t) % (36 - t) + (36 - t) * ((gap - t) / (36 - t))) *
              d.weight := by ring
          _ = _ := by rw [hgap]
      exact congrArg d.settle hweight

/-! One character. -/

/-- A decoder keeps in step with an encoder: it has read what is written, and it has every
character that is known by now, where `n` is being coded and has been looked for in `before`. -/
structure InStep (start : Decoder) (n : Nat) (before after : List Nat) (e : Encoder) (d : Decoder) :
    Prop where
  read : e.digits.foldlM Decoder.take start = some d
  text : d.text = before.filter (· ≤ n) ++ after.filter (· < n)
  count : e.count = d.text.length
  bias : e.bias = d.bias
  first : e.first = d.text.all (· < firstCoded)
  fresh : d.gap = 0 ∧ d.weight = 1 ∧ d.place = 36
  /-- Codes and places are counted together, a place for each character and one more. -/
  rank : d.next * (e.count + 1) + d.position + e.gap =
    n * (e.count + 1) + (before.filter (· ≤ n)).length

theorem settle_eq {gap i : Nat} (hv : n.isValidChar) (hi : i ≤ d.text.length)
    (h : d.next * (d.text.length + 1) + d.position + gap = n * (d.text.length + 1) + i) :
    d.settle gap = some {
      text := d.text.take i ++ n :: d.text.drop i
      next := n
      position := i + 1
      bias := adapt gap (d.text.length + 1) (d.text.all fun m => m < firstCoded) } := by
  have hparts : (d.position + gap + d.next * (d.text.length + 1)) / (d.text.length + 1) = n ∧
      (d.position + gap + d.next * (d.text.length + 1)) % (d.text.length + 1) = i := by
    rw [Nat.div_mod_unique (by omega), Nat.mul_comm (d.text.length + 1)]
    omega
  rw [Nat.add_mul_div_right _ _ (by omega), Nat.add_mul_mod_self_right, Nat.add_comm _ d.next]
    at hparts
  obtain ⟨hdiv, hmod⟩ := hparts
  have hn : ¬ (0x10FFFF < n ∨ (0xD800 ≤ n ∧ n ≤ 0xDFFF)) := by
    unfold Nat.isValidChar at hv
    omega
  simp only [Decoder.settle, hdiv, hmod]
  simp [hn]

/-- A lower character has a place for the gap to reach over. -/
theorem InStep.lower (h : InStep start n before (m :: after) e d) (hlt : m < n) :
    InStep start n (before ++ [m]) after (e.pass n m) d := by
  have htext := h.text
  have hrank := h.rank
  have hle : m ≤ n := by omega
  rw [Encoder.pass, if_pos hlt]
  refine ⟨h.read, ?_, h.count, h.bias, h.first, h.fresh, ?_⟩
  · simpa [hlt, hle] using htext
  · simp only [List.filter_append, List.length_append]
    simp [hle]
    omega

/-- The character itself is written, and the decoder puts it at its place. -/
theorem InStep.coded (h : InStep start n before (n :: after) e d) (hv : n.isValidChar)
    (hn : firstCoded ≤ n) : ∃ d', InStep start n (before ++ [n]) after (e.pass n n) d' := by
  have htext := h.text
  have hrank := h.rank
  have hgap := h.fresh
  have hcount := h.count
  rw [Encoder.pass, if_neg (Nat.lt_irrefl n), if_pos rfl]
  have hlen : d.text.length = (before.filter (· ≤ n)).length + (after.filter (· < n)).length := by
    simp [htext]
  rw [hcount] at hrank
  have hs : d.settle e.gap = _ := settle_eq hv (by omega) hrank
  have htake : d.text.take (before.filter (· ≤ n)).length = before.filter (· ≤ n) := by
    simp [htext]
  have hdrop : d.text.drop (before.filter (· ≤ n)).length = after.filter (· < n) := by
    simp [htext]
  rw [htake, hdrop] at hs
  have hread := foldlM_gapDigits e.gap d
  rw [hgap.1, hgap.2.1, hgap.2.2, Nat.zero_add, Nat.mul_one, hs, ← h.bias] at hread
  refine ⟨_, (by rw [List.foldlM_append, h.read]; exact hread), ?_, ?_, ?_, ?_,
    ⟨rfl, rfl, rfl⟩, ?_⟩
  · simp
  · simp [hcount, hlen]
    omega
  · simp [hcount, h.first]
  · simp
    omega
  · simp [hcount, hlen]

/-- A higher character comes later. -/
theorem InStep.higher (h : InStep start n before (m :: after) e d) (hgt : n < m) :
    InStep start n (before ++ [m]) after (e.pass n m) d := by
  have hlt : ¬ m < n := by omega
  have hle : ¬ m ≤ n := by omega
  rw [Encoder.pass, if_neg hlt, if_neg (Nat.ne_of_gt hgt)]
  refine ⟨h.read, ?_, h.count, h.bias, h.first, h.fresh, ?_⟩
  · simpa [hlt, hle] using h.text
  · simpa [hle] using h.rank

/-- A character that is passed keeps the two in step. -/
theorem inStep_pass (hv : n.isValidChar) (hn : firstCoded ≤ n)
    (h : InStep start n before (m :: after) e d) :
    ∃ d', InStep start n (before ++ [m]) after (e.pass n m) d' := by
  rcases Nat.lt_trichotomy m n with hlt | rfl | hgt
  · exact ⟨d, h.lower hlt⟩
  · exact h.coded hv hn
  · exact ⟨d, h.higher hgt⟩

/-- A pass over all characters keeps the two in step. -/
theorem inStep_foldl (hv : n.isValidChar) (hn : firstCoded ≤ n)
    (h : InStep start n before after e d) :
    ∃ d', InStep start n (before ++ after) [] (after.foldl (Encoder.pass n) e) d' := by
  induction after generalizing before e d with
  | nil => exact ⟨d, by simpa using h⟩
  | cons m after ih =>
    obtain ⟨d', h'⟩ := inStep_pass hv hn h
    simpa using ih h'

/-! All characters. -/

/-- The next character to be coded is the least one from `next` on, so the same characters are below
both. -/
theorem filter_below_next {next : Nat} {rest : List Nat} (hleast : ∀ m ∈ rest, n < m)
    (hns : ∀ m, m ∈ n :: rest ↔ m ∈ text ∧ next ≤ m) :
    text.filter (· < n) = text.filter (· < next) := by
  have hnext := ((hns n).mp List.mem_cons_self).2
  refine List.filter_congr fun m hm => ?_
  by_cases hlt : m < next
  · have hbelow : m < n := by omega
    simp [hlt, hbelow]
  · have hm' := (hns m).mpr ⟨hm, by omega⟩
    rcases List.mem_cons.mp hm' with rfl | hm'
    · simp [hlt]
    · have habove : ¬ m < n := by
        have := hleast m hm'
        omega
      simp [hlt, habove]

/-- Going on from one character to a later one, the gap grows by all places for those between. -/
theorem InStep.skip {next : Nat} (hle : next ≤ n)
    (hsame : text.filter (· < n) = text.filter (· < next)) (h : InStep start next [] text e d) :
    InStep start n [] text { e with gap := e.gap + (n - next) * (e.count + 1) } d := by
  have hsub : n * (e.count + 1) = next * (e.count + 1) + (n - next) * (e.count + 1) := by
    rw [← Nat.add_mul]
    congr 1
    omega
  refine ⟨h.read, ?_, h.count, h.bias, h.first, h.fresh, ?_⟩
  · rw [h.text, hsame, List.filter_nil, List.filter_nil]
  · have hr := h.rank
    simp only [List.filter_nil, List.length_nil] at hr ⊢
    omega

/-- Behind a pass the next character may come, at the first place. -/
theorem InStep.turn (h : InStep start n text [] e d) :
    InStep start (n + 1) [] text { e with gap := e.gap + 1 } d := by
  have hlength : (text.filter (· ≤ n)).length = e.count := by
    rw [h.count]
    simp [h.text]
  refine ⟨h.read, ?_, h.count, h.bias, h.first, h.fresh, ?_⟩
  · simpa [Nat.lt_succ_iff] using h.text
  · have hr := h.rank
    rw [hlength] at hr
    simp only [List.filter_nil, List.length_nil]
    rw [Nat.add_mul]
    omega

/-- Between two passes everything below `next` is known. -/
theorem inStep_encodeFrom {next : Nat} {ns : List Nat} (hrising : ns.Pairwise (· < ·))
    (hns : ∀ m, m ∈ ns ↔ m ∈ text ∧ next ≤ m) (hv : ∀ m ∈ text, m.isValidChar)
    (hn : firstCoded ≤ next) (h : InStep start next [] text e d) :
    ∃ d', (encodeFrom text e next ns).digits.foldlM Decoder.take start = some d' ∧
      d'.text = text ∧ d'.place = 36 := by
  induction ns generalizing next e d with
  | nil =>
    refine ⟨d, h.read, ?_, h.fresh.2.2⟩
    rw [h.text, List.filter_nil, List.nil_append, List.filter_eq_self.mpr]
    intro m hm
    have hnot := (not_congr (hns m)).mp (by simp)
    simp only [hm, true_and, Nat.not_le] at hnot
    simpa using hnot
  | cons n rest ih =>
    obtain ⟨hleast, hrest⟩ := List.pairwise_cons.mp hrising
    obtain ⟨hmem, hnext⟩ := (hns n).mp List.mem_cons_self
    have hskip := h.skip hnext (filter_below_next hleast hns)
    obtain ⟨d', hpass⟩ := inStep_foldl (hv n hmem) (by omega) hskip
    refine ih hrest (fun m => ?_) (show firstCoded ≤ n + 1 by omega) hpass.turn
    have hm := hns m
    rw [List.mem_cons] at hm
    constructor
    · intro hmr
      have := hleast m hmr
      exact ⟨(hm.mp (.inr hmr)).1, by omega⟩
    · rintro ⟨hmt, hle⟩
      exact (hm.mpr ⟨hmt, by omega⟩).resolve_left (by omega)

theorem mem_insertRising {ns : List Nat} : m ∈ insertRising n ns ↔ m = n ∨ m ∈ ns := by
  induction ns with
  | nil => simp [insertRising]
  | cons k ns ih =>
    rw [insertRising]
    split
    · simp
    · split
      · subst n
        simp
      · simp [ih, or_left_comm]

theorem pairwise_insertRising {ns : List Nat} (h : ns.Pairwise (· < ·)) (n : Nat) :
    (insertRising n ns).Pairwise (· < ·) := by
  induction ns with
  | nil => simp [insertRising]
  | cons k ns ih =>
    obtain ⟨hk, hns⟩ := List.pairwise_cons.mp h
    rw [insertRising]
    split
    · rename_i hlt
      refine List.pairwise_cons.mpr ⟨fun m hm => ?_, h⟩
      rcases List.mem_cons.mp hm with rfl | hm
      · exact hlt
      · have := hk m hm
        omega
    · split
      · exact h
      · refine List.pairwise_cons.mpr ⟨fun m hm => ?_, ih hns⟩
        rcases mem_insertRising.mp hm with rfl | hm
        · omega
        · exact hk m hm

theorem mem_coded : m ∈ coded text ↔ m ∈ text ∧ firstCoded ≤ m := by
  have hfold : ∀ ns : List Nat, m ∈ ns.foldr insertRising [] ↔ m ∈ ns := by
    intro ns
    induction ns with
    | nil => simp
    | cons n ns ih => simp [mem_insertRising, ih]
  simp [coded, hfold]

theorem pairwise_coded (text : List Nat) : (coded text).Pairwise (· < ·) := by
  rw [coded]
  induction text.filter (firstCoded ≤ ·) with
  | nil => simp
  | cons n ns ih => exact pairwise_insertRising ih n

/-! Plain characters and digits. -/

def isDigitChar (c : Char) : Bool := (List.range 36).any fun v => c == digitChar v

theorem isDigitChar_digitChar {v : Nat} (h : v < 36) : isDigitChar (digitChar v) = true := by
  simp only [isDigitChar, List.any_eq_true, beq_iff_eq]
  exact ⟨v, List.mem_range.mpr h, rfl⟩

theorem isDigitChar_of_mem_gapDigits {bias place gap : Nat} (h : c ∈ gapDigits bias place gap) :
    isDigitChar c = true := by
  have hpos := threshold_pos bias place
  have hle := threshold_le bias place
  fun_induction gapDigits bias place gap with
  | case1 place gap t hlt =>
    obtain rfl := List.mem_singleton.mp h
    exact isDigitChar_digitChar (by omega)
  | case2 place gap t hge ih =>
    rcases List.mem_cons.mp h with rfl | h
    · have hmod : (gap - t) % (36 - t) < 36 - t := Nat.mod_lt _ (by omega)
      exact isDigitChar_digitChar (by omega)
    · exact ih h (threshold_pos _ _) (threshold_le _ _)

theorem digits_pass (h : ∀ c ∈ e.digits, isDigitChar c = true) (n m : Nat) :
    ∀ c ∈ (e.pass n m).digits, isDigitChar c = true := by
  unfold Encoder.pass
  split
  · exact h
  · split
    · intro c hc
      rcases List.mem_append.mp hc with hc | hc
      · exact h c hc
      · exact isDigitChar_of_mem_gapDigits hc
    · exact h

theorem digits_encodeFrom (h : ∀ c ∈ e.digits, isDigitChar c = true) (text : List Nat)
    (next : Nat) (ns : List Nat) :
    ∀ c ∈ (encodeFrom text e next ns).digits, isDigitChar c = true := by
  have hfold (n : Nat) (passed : List Nat) (e : Encoder)
      (h : ∀ c ∈ e.digits, isDigitChar c = true) :
      ∀ c ∈ (passed.foldl (Encoder.pass n) e).digits, isDigitChar c = true := by
    induction passed generalizing e with
    | nil => exact h
    | cons m passed ih => exact ih _ (digits_pass h n m)
  induction ns generalizing e next with
  | nil => exact h
  | cons n rest ih =>
    rw [encodeFrom]
    refine ih ?_ (n + 1)
    exact hfold n text { e with gap := e.gap + (n - next) * (e.count + 1) } h

/-- The characters that are written as they are. -/
def plainOf (text : List Nat) : List Char := (text.filter (· < firstCoded)).map Char.ofNat

/-- The encoder of a text before anything is coded. -/
def encoderOf (text : List Nat) : Encoder := ⟨[], 0, startBias, (plainOf text).length, true⟩

def codeOf (text : List Nat) : List Char :=
  (encodeFrom text (encoderOf text) firstCoded (coded text)).digits

theorem encode_eq (text : List Nat) : encode text =
    (if (plainOf text).isEmpty then [] else plainOf text ++ ['-']) ++ codeOf text := rfl

theorem isDigitChar_of_mem_codeOf (h : c ∈ codeOf text) : isDigitChar c = true :=
  digits_encodeFrom (by simp [encoderOf]) text firstCoded (coded text) c h

/-- The hyphen after the plain characters is the last one. -/
theorem cutPlain_append {plain digits : List Char} (h : ∀ c ∈ digits, c ≠ '-') :
    cutPlain ((if plain.isEmpty then [] else plain ++ ['-']) ++ digits) = (plain, digits) := by
  have hdigits : ∀ c ∈ digits.reverse, (c != '-') = true := by simpa using h
  unfold cutPlain
  cases plain with
  | nil =>
    have ht : digits.reverse.takeWhile (· != '-') = digits.reverse :=
      List.takeWhile_eq_self_iff.mpr hdigits
    simp [ht]
  | cons p plain =>
    have ht : (p :: plain ++ ['-'] ++ digits).reverse.takeWhile (· != '-') = digits.reverse := by
      rw [List.reverse_append, List.reverse_append]
      exact Text.takeWhile_append_stop hdigits (by simp)
    have hl : (p :: plain ++ ['-'] ++ digits).length = (p :: plain).length + 1 + digits.length := by
      rw [List.length_append, List.length_append]
      rfl
    have hrest : (p :: plain).length + 1 + digits.length - digits.length - 1 =
        (p :: plain).length := by omega
    have hcut : (p :: plain ++ ['-'] ++ digits).take (p :: plain).length = p :: plain := by
      rw [List.append_assoc, List.take_left']
      rfl
    have hne : (p :: plain).isEmpty = false := rfl
    simp only [hne, Bool.false_eq_true, if_false, ht, List.reverse_reverse, hl, hrest, hcut]
    rw [if_pos]
    rw [List.length_cons]
    omega

/-- A label reads back from its code. -/
theorem decode_encode (h : ∀ m ∈ text, m.isValidChar) : decode (encode text) = some text := by
  have hplain : (plainOf text).map Char.toNat = text.filter (· < firstCoded) := by
    rw [plainOf, List.map_map]
    refine (List.map_congr_left fun n hn => ?_).trans (List.map_id _)
    exact Text.toNat_ofNat (of_decide_eq_true (List.mem_filter.mp hn).2)
  have hstart : InStep ⟨text.filter (· < firstCoded), firstCoded, 0, startBias, 0, 1, 36⟩ firstCoded
      [] text (encoderOf text) ⟨text.filter (· < firstCoded), firstCoded, 0, startBias, 0, 1, 36⟩ :=
    ⟨rfl, rfl, by simp [encoderOf, plainOf], rfl, by simp [encoderOf], ⟨rfl, rfl, rfl⟩, rfl⟩
  obtain ⟨d, hd, htext, hplace⟩ := inStep_encodeFrom (pairwise_coded text) (fun m => mem_coded) h
    (Nat.le_refl _) hstart
  have hhyphen : ∀ c ∈ codeOf text, c ≠ '-' := by
    rintro c hc rfl
    exact absurd (isDigitChar_of_mem_codeOf hc) (by decide)
  rw [decode, encode_eq, cutPlain_append hhyphen]
  dsimp only
  rw [hplain]
  unfold codeOf
  rw [hd]
  simp [htext, hplace]

/-! What is decoded. -/

/-- A decoder has nothing but what it was given and characters that are coded. -/
structure Decoder.IsOf (known : List Nat) (d : Decoder) : Prop where
  next : firstCoded ≤ d.next
  text : ∀ m ∈ d.text, m ∈ known ∨ firstCoded ≤ m

theorem isOf_settle {gap : Nat} (h : d.IsOf known) (hs : d.settle gap = some d') :
    d'.IsOf known := by
  have hnext := h.next
  simp only [Decoder.settle, Option.ite_none_left_eq_some, Option.some.injEq] at hs
  obtain ⟨-, rfl⟩ := hs
  have hn := Nat.le_trans hnext (Nat.le_add_right d.next ((d.position + gap) / (d.text.length + 1)))
  refine ⟨hn, fun m hm => ?_⟩
  rcases List.mem_append.mp hm with hm | hm
  · exact h.text m (List.mem_of_mem_take hm)
  · rcases List.mem_cons.mp hm with rfl | hm
    · exact .inr hn
    · exact h.text m (List.mem_of_mem_drop hm)

theorem isOf_take (h : d.IsOf known) (ht : d.take c = some d') : d'.IsOf known := by
  obtain ⟨v, -, hv⟩ := Option.bind_eq_some_iff.mp ht
  dsimp only at hv
  split at hv
  · exact isOf_settle h hv
  · obtain rfl := Option.some.inj hv
    exact ⟨h.next, h.text⟩

theorem isOf_foldlM (h : d.IsOf known) (hd : cs.foldlM Decoder.take d = some d') :
    d'.IsOf known := by
  induction cs generalizing d with
  | nil =>
    obtain rfl := Option.some.inj hd
    exact h
  | cons c cs ih =>
    rw [List.foldlM_cons] at hd
    obtain ⟨d1, h1, hrest⟩ := Option.bind_eq_some_iff.mp hd
    exact ih (isOf_take h h1) hrest

/-- A character of a decoded text stood in the code, unless it is one that is coded. -/
theorem mem_of_decode (h : decode cs = some text) (hm : m ∈ text) :
    m ∈ cs.map Char.toNat ∨ firstCoded ≤ m := by
  unfold decode at h
  have hplain : ∀ c ∈ (cutPlain cs).1, c ∈ cs := by
    unfold cutPlain
    dsimp only
    split
    · exact fun c hc => List.mem_of_mem_take hc
    · simp
  generalize cutPlain cs = parts at h hplain
  obtain ⟨plain, digits⟩ := parts
  dsimp only at h hplain
  split at h
  · rename_i d hd
    have hof : Decoder.IsOf (plain.map Char.toNat) d :=
      isOf_foldlM ⟨Nat.le_refl _, fun m hm => .inl hm⟩ hd
    obtain ⟨-, ht⟩ := Option.ite_none_right_eq_some.mp h
    obtain rfl := Option.some.inj ht
    refine (hof.text m hm).imp (fun hk => ?_) id
    obtain ⟨c, hc, rfl⟩ := List.mem_map.mp hk
    exact List.mem_map_of_mem (hplain c hc)
  · simp at h

end CurlScribe.Punycode
