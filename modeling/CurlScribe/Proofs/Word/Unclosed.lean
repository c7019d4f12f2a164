import CurlScribe.Proofs.Text.Utf8
import CurlScribe.Proofs.Word.Margin

/-! Where the quote that is left open by a text was opened. -/
namespace CurlScribe.Word

variable {single : Bool} {q : Option OpenQuote} {r : OpenQuote} {mark c : Char} {p : Nat}
  {cs bs before after rest : List Char}

/-- Whether a quote is closed by a text that stands behind it. Between double quotes a backslash
shields the next character. -/
def closes (mark : Char) : List Char → Bool
  | [] => false
  | [c] => c == mark
  | c :: d :: rest =>
    if c = mark then true
    else if c = '\\' ∧ mark = '"' then closes mark rest
    else closes mark (d :: rest)

/-- The characters that open a quote. -/
def Opens (single : Bool) (mark : Char) : Prop := mark = '"' ∨ mark = '\'' ∧ single = true

/-- A quote that is opened at its byte of a text, outside of other quotes, and never closed. -/
def IsLeftOpen (single : Bool) (cs : List Char) (q : OpenQuote) : Prop :=
  ∃ before after, cs = before ++ q.mark :: after ∧ (Text.bytes before).length = q.position ∧
    (split single before).2 = none ∧ Opens single q.mark ∧ closes q.mark after = false

theorem Opens.ne (h : Opens single mark) (hc : c ≠ '"') (hs : c ≠ '\'') : c ≠ mark := by
  rcases h with rfl | ⟨rfl, -⟩
  · exact hc
  · exact hs

/-- What can be open: no quote, or one with a mark that opens it. -/
def Openable (single : Bool) (q : Option OpenQuote) : Prop := ∀ r, q = some r → Opens single r.mark

theorem openable_none : Openable single none := by
  intro r hr
  simp at hr

theorem openable_some (hr : Opens single r.mark) : Openable single (some r) := by
  intro r' hr'
  obtain rfl := Option.some.inj hr'
  exact hr

/-- A character that shields nothing. -/
theorem closes_cons (h : c = '\\' → mark = '"' → rest = []) :
    closes mark (c :: rest) = (c == mark || closes mark rest) := by
  cases rest with
  | nil => simp [closes]
  | cons d rest =>
    have hplain : ¬ (c = '\\' ∧ mark = '"') := by simpa using h
    rw [closes, if_neg hplain]
    split <;> simp_all

theorem closes_shielding (c : Char) (rest : List Char) :
    closes '"' ('\\' :: c :: rest) = closes '"' rest := by
  simp [closes]

theorem closes_backslash (hm : Opens single mark) (hc : c ≠ '\'') (rest : List Char) :
    closes mark ('\\' :: c :: rest) = closes mark rest := by
  rcases hm with rfl | ⟨rfl, -⟩
  · exact closes_shielding c rest
  · rw [closes_cons (by simp), closes_cons (by simp)]
    simp [hc]

/-- A text that closes a quote does so with anything behind it. -/
theorem closes_append (h : closes mark cs = true) (rest : List Char) :
    closes mark (cs ++ rest) = true := by
  fun_induction closes mark cs with
  | case1 => simp at h
  | case2 c => cases rest <;> simp_all [closes]
  | case3 d cs => simp [closes]
  | case4 c d cs hc hs ih => simpa [closes, hc, hs] using ih h
  | case5 c d cs hc hs ih => simpa [closes, hc, hs] using ih h

/-! One step of the scanner, as far as the open quote goes. -/

theorem scan_feed (q : Option OpenQuote) (p : Nat) (rest : List Char) :
    (scan single q p ('\\' :: '\n' :: rest)).2 =
      (scan single (advance single q p ' ').2 (p + 2) rest).2 := by
  simp [scan]

theorem scan_returnFeed (q : Option OpenQuote) (p : Nat) (rest : List Char) :
    (scan single q p ('\\' :: '\x0d' :: '\n' :: rest)).2 =
      (scan single (advance single q p ' ').2 (p + 3) rest).2 := by
  simp [scan]

theorem scan_shielding (hr : r.mark = '"') (h : startsWithLineEnd (c :: rest) = false) (p : Nat) :
    (scan single (some r) p ('\\' :: c :: rest)).2 =
      (scan single (some r) (p + 1 + c.utf8Size) rest).2 := by
  rw [scan.eq_4]
  · simp [hr]
  · rintro rfl
    simp [startsWithLineEnd] at h
  · rintro more rfl rfl
    simp [startsWithLineEnd] at h

theorem advance_idle (hq : Openable single q) (hd : c ≠ '"') (hs : c ≠ '\'')
    (p : Nat) : (advance single q p c).2 = q := by
  cases q with
  | none => simp only [advance]; split <;> simp [hd, hs]
  | some r => simp [advance, (hq r rfl).ne hd hs]

theorem scan_backslash (hq : Openable single q)
    (hd : q.map OpenQuote.mark ≠ some '"') (h : startsWithLineEnd rest = false) (p : Nat) :
    (scan single q p ('\\' :: rest)).2 = (scan single q (p + 1) rest).2 := by
  cases rest with
  | nil =>
    simp only [scan]
    exact advance_idle hq (by decide) (by decide) p
  | cons c rest =>
    rw [scan.eq_4]
    · simp [hd]
    · rintro rfl
      simp [startsWithLineEnd] at h
    · rintro more rfl rfl
      simp [startsWithLineEnd] at h

theorem scan_cons (h : c ≠ '\\') (q : Option OpenQuote) (p : Nat) (rest : List Char) :
    (scan single q p (c :: rest)).2 =
      (scan single (advance single q p c).2 (p + c.utf8Size) rest).2 := by
  rw [scan.eq_5] <;> simp_all

theorem startsWithLineEnd_of_isPrefix (hp : before <+: rest)
    (h : startsWithLineEnd rest = false) : startsWithLineEnd before = false := by
  obtain ⟨more, rfl⟩ := hp
  unfold startsWithLineEnd
  split
  · simp [startsWithLineEnd] at h
  · simp [startsWithLineEnd] at h
  · rfl

theorem startsWithLineEnd_append (hm : Opens single mark) (h : startsWithLineEnd cs = false)
    (more : List Char) : startsWithLineEnd (cs ++ mark :: more) = false := by
  have hfeed : '\n' ≠ mark := hm.ne (by decide) (by decide)
  have hreturn : '\x0d' ≠ mark := hm.ne (by decide) (by decide)
  exact startsWithLineEnd_append_of_ne hfeed.symm hreturn.symm h more

/-- The texts in front of which a step is taken as in front of this one: its parts, and itself with
a quote that is opened behind it. -/
inductive Behind (single : Bool) (q : Option OpenQuote) (p : Nat) (rest : List Char) :
    List Char → Prop where
  | part {ds : List Char} (h : ds <+: rest) : Behind single q p rest ds
  | quote {mark : Char} (more : List Char) (hm : Opens single mark)
      (h : (scan single q p rest).2 = none) : Behind single q p rest (rest ++ mark :: more)

theorem Behind.startsWithLineEnd {ds : List Char} (h : Behind single q p rest ds)
    (front : List Char) (hno : startsWithLineEnd (front ++ rest) = false) :
    startsWithLineEnd (front ++ ds) = false := by
  cases h with
  | part h => exact startsWithLineEnd_of_isPrefix ((List.prefix_append_right_inj front).mpr h) hno
  | quote more hm _ =>
    rw [← List.append_assoc]
    exact startsWithLineEnd_append hm hno more

/-- What a step does to the open quote: nothing, or it closes it, or it opens one. -/
inductive Effect (single : Bool) (p : Nat) (cs front rest : List Char) :
    Option OpenQuote → Option OpenQuote → Prop where
  | idle {q : Option OpenQuote} (h : ∀ r, q = some r → closes r.mark cs = closes r.mark rest) :
      Effect single p cs front rest q q
  | close {r : OpenQuote} (h : closes r.mark cs = true) :
      Effect single p cs front rest (some r) none
  | opening {mark : Char} (hm : Opens single mark) (h : front = [mark]) :
      Effect single p cs front rest none (some ⟨mark, p⟩)

theorem effect_advance (hb : c ≠ '\\') (q : Option OpenQuote) (p : Nat) (rest : List Char) :
    Effect single p (c :: rest) [c] rest q (advance single q p c).2 := by
  cases q with
  | none =>
    simp only [advance]
    split
    · exact .idle (by simp)
    · split
      · rename_i hc
        exact .opening (by simpa [Opens] using hc) rfl
      · exact .idle (by simp)
  | some r =>
    have hplain : closes r.mark (c :: rest) = (c == r.mark || closes r.mark rest) :=
      closes_cons (by simp [hb])
    simp only [advance]
    split
    · rename_i hc
      refine .close ?_
      rw [hplain, hc, beq_self_eq_true, Bool.true_or]
    · rename_i hc
      refine .idle fun r' hr => ?_
      obtain rfl := Option.some.inj hr
      simp [hplain, hc]

/-- One step of the scanner. -/
structure Step (single : Bool) (q : Option OpenQuote) (p : Nat) (cs front rest : List Char)
    (next : Option OpenQuote) : Prop where
  text : cs = front ++ rest
  moves : front ≠ []
  run : ∀ ds, Behind single next (p + (Text.bytes front).length) rest ds →
    (scan single q p (front ++ ds)).2 = (scan single next (p + (Text.bytes front).length) ds).2
  effect : Effect single p cs front rest q next

/-! The steps, one for each way in which `scan` goes on. -/

theorem step_feed (hq : Openable single q) (p : Nat) (rest : List Char) :
    Step single q p ('\\' :: '\n' :: rest) ['\\', '\n'] rest q where
  text := rfl
  moves := by simp
  run ds _ := by
    rw [List.cons_append, List.cons_append, List.nil_append, scan_feed,
      advance_idle hq (by decide) (by decide)]
    rfl
  effect := .idle fun r hr => closes_backslash (hq r hr) (by decide) rest

theorem step_returnFeed (hq : Openable single q) (p : Nat) (rest : List Char) :
    Step single q p ('\\' :: '\x0d' :: '\n' :: rest) ['\\', '\x0d', '\n'] rest q where
  text := rfl
  moves := by simp
  run ds _ := by
    rw [List.cons_append, List.cons_append, List.cons_append, List.nil_append, scan_returnFeed,
      advance_idle hq (by decide) (by decide)]
    rfl
  effect := .idle fun r hr => by
    have hfeed : '\n' ≠ r.mark := (hq r hr).ne (by decide) (by decide)
    rw [closes_backslash (hq r hr) (by decide), closes_cons (by simp)]
    simp [hfeed]

theorem step_shielding (hr : r.mark = '"') (hno : startsWithLineEnd (c :: rest) = false)
    (p : Nat) : Step single (some r) p ('\\' :: c :: rest) ['\\', c] rest (some r) where
  text := rfl
  moves := by simp
  run ds hds := by
    have hsize : p + (Text.bytes ['\\', c]).length = p + 1 + c.utf8Size := by
      rw [Text.length_bytes_cons, Text.length_bytes_cons, ← Nat.add_assoc]
      rfl
    rw [List.cons_append, List.cons_append, List.nil_append, hsize]
    exact scan_shielding hr (hds.startsWithLineEnd [c] hno) p
  effect := .idle fun r' hr' => by
    obtain rfl := Option.some.inj hr'
    rw [hr, closes_shielding]

theorem step_backslash (hq : Openable single q) (hd : q.map OpenQuote.mark ≠ some '"')
    (hno : startsWithLineEnd rest = false) (p : Nat) :
    Step single q p ('\\' :: rest) ['\\'] rest q where
  text := rfl
  moves := by simp
  run ds hds := scan_backslash hq hd (hds.startsWithLineEnd [] hno) p
  effect := .idle fun r hr => by
    have hmark : r.mark ≠ '"' := by simpa [hr] using hd
    have hne : '\\' ≠ r.mark := (hq r hr).ne (by decide) (by decide)
    rw [closes_cons (by simp [hmark])]
    simp [hne]

theorem step_final_backslash (hq : Openable single q) (p : Nat) :
    Step single q p ['\\'] ['\\'] [] q where
  text := rfl
  moves := by simp
  run ds hds := by
    cases hds with
    | part h =>
      obtain rfl := List.prefix_nil.mp h
      exact advance_idle hq (by decide) (by decide) p
    | quote more hm h =>
      obtain rfl : q = none := h
      exact scan_backslash hq (by simp) (startsWithLineEnd_append hm rfl more) p
  effect := .idle fun r hr => by
    have hne : '\\' ≠ r.mark := (hq r hr).ne (by decide) (by decide)
    simp [closes, hne]

theorem step_cons (hb : c ≠ '\\') (q : Option OpenQuote) (p : Nat) (rest : List Char) :
    Step single q p (c :: rest) [c] rest (advance single q p c).2 where
  text := rfl
  moves := by simp
  run ds _ := by
    have hsize : p + (Text.bytes [c]).length = p + c.utf8Size := by
      rw [Text.length_bytes_cons]
      rfl
    rw [hsize]
    exact scan_cons hb q p ds
  effect := effect_advance hb q p rest

theorem exists_step (hq : Openable single q) (p : Nat) (hne : cs ≠ []) :
    ∃ front rest next, Step single q p cs front rest next := by
  fun_cases scan single q p cs with
  | case1 => exact (hne rfl).elim
  | case2 rest => exact ⟨_, _, _, step_feed hq p rest⟩
  | case3 rest => exact ⟨_, _, _, step_returnFeed hq p rest⟩
  | case4 c rest hn hl hd =>
    obtain ⟨r, rfl, hmark⟩ := Option.map_eq_some_iff.mp hd
    exact ⟨_, _, _, step_shielding hmark (startsWithLineEnd_eq_false hn hl) p⟩
  | case5 c rest hn hl hd =>
    exact ⟨_, _, _, step_backslash hq hd (startsWithLineEnd_eq_false hn hl) p⟩
  | case6 c rest h1 h2 h3 =>
    by_cases hb : c = '\\'
    · have hnil := eq_nil_of_final_backslash h3 hb
      subst hb hnil
      exact ⟨_, _, _, step_final_backslash hq p⟩
    · exact ⟨_, _, _, step_cons hb q p rest⟩

theorem Step.shorter {front : List Char} {next : Option OpenQuote}
    (h : Step single q p cs front rest next) : rest.length < cs.length := by
  have hpos := List.length_pos_iff.mpr h.moves
  rw [h.text, List.length_append]
  omega

theorem Step.openable {front : List Char} {next : Option OpenQuote}
    (h : Step single q p cs front rest next) (hq : Openable single q) : Openable single next := by
  rintro r rfl
  cases h.effect with
  | idle _ => exact hq r rfl
  | opening hm _ => exact hm

/-- A text that is taken step by step. -/
inductive Run (single : Bool) : Option OpenQuote → Nat → List Char → Prop where
  | done (q : Option OpenQuote) (p : Nat) : Run single q p []
  | step {q next : Option OpenQuote} {p : Nat} {cs front rest : List Char}
      (hs : Step single q p cs front rest next)
      (hrest : Run single next (p + (Text.bytes front).length) rest) : Run single q p cs

theorem run_of_openable (hq : Openable single q) (p : Nat) (cs : List Char) :
    Run single q p cs := by
  induction hn : cs.length using Nat.strong_induction_on generalizing q p cs with
  | _ n ih =>
    by_cases hne : cs = []
    · subst hne
      exact .done q p
    · obtain ⟨front, rest, next, hs⟩ := exists_step hq p hne
      exact .step hs (ih rest.length (hn ▸ hs.shorter) (hs.openable hq) _ rest rfl)

/-- What a step makes of the open quote is what the rest of the text makes of it. -/
theorem Step.scan_eq {front : List Char} {next : Option OpenQuote}
    (h : Step single q p cs front rest next) : (scan single q p cs).2 =
      (scan single next (p + (Text.bytes front).length) rest).2 := by
  rw [h.text]
  exact h.run rest (.part (List.prefix_refl rest))

/-! Whole texts. -/

/-- What `IsLeftOpen` says, of a text that is read from a byte and a quote on. -/
def LeavesOpen (single : Bool) (q : Option OpenQuote) (p : Nat) (cs : List Char)
    (r : OpenQuote) : Prop :=
  ∃ before after, cs = before ++ r.mark :: after ∧ p + (Text.bytes before).length = r.position ∧
    (scan single q p before).2 = none ∧ Opens single r.mark ∧ closes r.mark after = false

theorem LeavesOpen.step {front : List Char} {next : Option OpenQuote}
    (hs : Step single q p cs front rest next)
    (h : LeavesOpen single next (p + (Text.bytes front).length) rest r) :
    LeavesOpen single q p cs r := by
  obtain ⟨before, after, hrest, hp, hnone, hr, ha⟩ := h
  refine ⟨front ++ before, after, ?_, ?_, ?_, hr, ha⟩
  · rw [hs.text, hrest, List.append_assoc]
  · rw [← hp, Text.length_bytes_append, Nat.add_assoc]
  · rw [hs.run before (.part ⟨_, hrest.symm⟩), hnone]

theorem scan_of_not_closes (hr : Opens single r.mark) (h : closes r.mark cs = false) (p : Nat) :
    (scan single (some r) p cs).2 = some r := by
  have hrun := run_of_openable (openable_some hr) p cs
  generalize hq : some r = q at hrun
  induction hrun with
  | done q p => rfl
  | step hs _ ih =>
    subst hq
    rw [hs.scan_eq]
    cases hs.effect with
    | idle hc => exact ih ((hc r rfl).symm.trans h) rfl
    | close hc => simp [hc] at h

/-- The quote that a text leaves open was open before it, or is opened in it. -/
theorem leavesOpen_of_run (hrun : Run single q p cs) (h : (scan single q p cs).2 = some r) :
    (q = some r ∧ closes r.mark cs = false) ∨ LeavesOpen single q p cs r := by
  induction hrun with
  | done q p => exact .inl ⟨h, rfl⟩
  | step hs _ ih =>
    rw [hs.scan_eq] at h
    rcases ih h with ⟨rfl, hc⟩ | hl
    · cases hs.effect with
      | idle heq => exact .inl ⟨rfl, (heq r rfl).trans hc⟩
      | opening hm hfront =>
        refine .inr ⟨[], _, ?_, rfl, rfl, hm, hc⟩
        rw [hs.text, hfront]
        rfl
    · exact .inr (.step hs hl)

/-- A quote that is opened can be read apart from what stands before it. -/
theorem scan_append_quote (hrun : Run single q p before) (hm : Opens single mark)
    (hnone : (scan single q p before).2 = none) (more : List Char) :
    (scan single q p (before ++ mark :: more)).2 =
      (scan single none (p + (Text.bytes before).length) (mark :: more)).2 := by
  induction hrun with
  | done q p =>
    obtain rfl : q = none := hnone
    rfl
  | step hs _ ih =>
    rw [hs.scan_eq] at hnone
    rw [hs.text, List.append_assoc, hs.run _ (.quote more hm hnone), ih hnone,
      Text.length_bytes_append, Nat.add_assoc]

theorem scan_quote (hm : Opens single mark) (hc : closes mark rest = false) :
    (scan single none p (mark :: rest)).2 = some ⟨mark, p⟩ := by
  have hb : mark ≠ '\\' := Ne.symm (hm.ne (by decide) (by decide))
  have hopened : (advance single none p mark).2 = some ⟨mark, p⟩ := by
    rcases hm with rfl | ⟨rfl, rfl⟩ <;> rfl
  rw [scan_cons hb, hopened]
  exact scan_of_not_closes (r := ⟨mark, p⟩) hm hc _

/-- A text leaves the quote open that is opened at its byte and never closed. -/
theorem split_eq_some_iff : (split single cs).2 = some r ↔ IsLeftOpen single cs r := by
  constructor
  · intro h
    rcases leavesOpen_of_run (run_of_openable openable_none 0 cs) h with ⟨hnone, -⟩ | hl
    · simp at hnone
    · obtain ⟨before, after, hcs, hp, hrest⟩ := hl
      exact ⟨before, after, hcs, by simpa using hp, hrest⟩
  · rintro ⟨before, after, rfl, hp, hl, hr, ha⟩
    have h := scan_append_quote (run_of_openable openable_none 0 before) hr hl after
    rw [scan_quote hr ha, Nat.zero_add, hp] at h
    exact h

/-- One quote at most is left open. -/
theorem IsLeftOpen.unique {r' : OpenQuote} (h : IsLeftOpen single cs r)
    (h' : IsLeftOpen single cs r') : r = r' :=
  Option.some.inj ((split_eq_some_iff.mpr h).symm.trans (split_eq_some_iff.mpr h'))

/-- Its mark is the byte at its place. -/
theorem IsLeftOpen.byte (h : IsLeftOpen single cs r) :
    (Text.bytes cs)[r.position]? = some r.mark.toNat := by
  obtain ⟨before, after, rfl, hp, -, hr, -⟩ := h
  have hbyte : Text.charBytes r.mark = [r.mark.toNat] := by
    rcases hr with hr | ⟨hr, -⟩ <;> rw [hr] <;> rfl
  rw [Text.bytes, List.flatMap_append, List.flatMap_cons, hbyte, ← Text.bytes, ← hp,
    List.getElem?_append_right (le_refl _), Nat.sub_self]
  rfl

/-! Blanks around a text move the quote that it leaves open and do nothing else to it. -/

theorem split_append_blanks (hb : ∀ b ∈ bs, Text.isBlank b = true) (cs : List Char) :
    (split single (cs ++ bs)).2 = (split single cs).2 := by
  cases h : (split single (cs ++ bs)).2 with
  | none =>
    rw [split_eq_none_iff, leftOpen, outline_append_blanks single (by simp) hb] at h
    exact (split_eq_none_iff.mpr h).symm
  | some r =>
    obtain ⟨before, after, hcs, hp, hnone, hr, ha⟩ := split_eq_some_iff.mp h
    have hmark : r.mark ∉ bs := fun hm => by
      have hblank : Text.isBlank r.mark = false := by
        rcases hr with hr | ⟨hr, -⟩ <;> rw [hr] <;> rfl
      simp [hb _ hm] at hblank
    obtain ⟨mid, -, rfl⟩ | ⟨mid, rfl, hmid⟩ := List.append_eq_append_iff.mp hcs
    · simp at hmark
    · cases mid with
      | nil =>
        rw [List.nil_append] at hmid
        simp [← hmid] at hmark
      | cons m mid =>
        obtain ⟨rfl, rfl⟩ := List.cons.inj hmid
        have hopen : closes r.mark mid = false := by
          by_contra hc
          simp [closes_append (by simpa using hc) bs] at ha
        exact (split_eq_some_iff.mpr ⟨before, mid, rfl, hp, hnone, hr, hopen⟩).symm

/-- How many bytes of blanks a text starts with. -/
def indent (cs : List Char) : Nat := (Text.bytes (cs.takeWhile Text.isBlank)).length

theorem indent_eq_zero_iff : indent cs = 0 ↔ Text.trimStart cs = cs := by
  cases cs with
  | nil => exact ⟨fun _ => rfl, fun _ => rfl⟩
  | cons c cs =>
    cases hc : Text.isBlank c with
    | false => simp [indent, hc, Text.trimStart_cons_of_not hc, Text.bytes]
    | true =>
      have hsize := c.utf8Size_pos
      have hlt := (Text.trimStart_isSuffix cs).length_le
      rw [indent, List.takeWhile_cons_of_pos hc, Text.length_bytes_cons, Text.trimStart_cons hc]
      refine ⟨fun h => by omega, fun h => ?_⟩
      rw [h, List.length_cons] at hlt
      omega

theorem split_trimStart (single : Bool) (cs : List Char) : (split single cs).2 =
    (split single (Text.trimStart cs)).2.map fun r => ⟨r.mark, indent cs + r.position⟩ := by
  have hw : IsMargin (cs.takeWhile Text.isBlank) :=
    isMargin_of_blank fun b hb => List.mem_takeWhile_imp hb
  have hcs : cs.takeWhile Text.isBlank ++ Text.trimStart cs = cs := List.takeWhile_append_dropWhile
  cases h : (split single (Text.trimStart cs)).2 with
  | none =>
    rw [split_eq_none_iff, (wordsOf_trimStart single cs).2] at h
    exact split_eq_none_iff.mpr h
  | some r =>
    obtain ⟨before, after, hsplit, hp, hnone, hr, ha⟩ := split_eq_some_iff.mp h
    refine split_eq_some_iff.mpr ⟨cs.takeWhile Text.isBlank ++ before, after, ?_, ?_, ?_, hr, ha⟩
    · rw [List.append_assoc, ← hsplit, hcs]
    · rw [Text.length_bytes_append, hp, indent]
    · rw [split_eq_none_iff] at hnone ⊢
      rw [(wordsOf_margin_append single hw before).2, hnone]

theorem isLeftOpen_trim_iff : IsLeftOpen single (Text.trim cs) r ↔
    IsLeftOpen single cs ⟨r.mark, indent cs + r.position⟩ := by
  have hends : Text.trim cs ++ (Text.trimStart cs).rtakeWhile Text.isBlank = Text.trimStart cs :=
    List.rdropWhile_append_rtakeWhile
  have htrim : (split single (Text.trim cs)).2 = (split single (Text.trimStart cs)).2 := by
    rw [← split_append_blanks (fun b hb => List.mem_rtakeWhile_imp hb) (Text.trim cs), hends]
  rw [← split_eq_some_iff, ← split_eq_some_iff, htrim, split_trimStart single cs]
  cases (split single (Text.trimStart cs)).2 with
  | none => simp
  | some found =>
    obtain ⟨m, p⟩ := found
    obtain ⟨m', p'⟩ := r
    simp

end CurlScribe.Word
