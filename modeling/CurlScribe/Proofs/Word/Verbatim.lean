import CurlScribe.Proofs.Word.Letters
import CurlScribe.Proofs.Word.Unclosed

/-! Whether the words of a line stand in it as they are. Every line that goes on behind a backslash
is a blank, also between quotes, where the blank becomes part of a word. -/
namespace CurlScribe.Word

variable {single : Bool} {q next : Option Char} {mark c : Char} {ps qs : List Piece}
  {ws front back : List (List Char)} {w x z cs ds before inside after rest : List Char}
  {IsGap : List Char → Prop}

/-- The texts stand in a line one after the other, each in one piece. They do not overlap, and what
is around them are gaps. -/
inductive StandIn (IsGap : List Char → Prop) : List (List Char) → List Char → Prop where
  | nil {g : List Char} (hg : IsGap g) : StandIn IsGap [] g
  | cons {g w rest : List Char} {ws : List (List Char)} (hg : IsGap g)
      (h : StandIn IsGap ws rest) : StandIn IsGap (w :: ws) (g ++ w ++ rest)

/-- Between quotes a backslash takes away the end of a line: a quote is left open in front of the
backslash, and its mark would close it there. -/
def ContinuesQuoted (single : Bool) (cs : List Char) : Prop :=
  ∃ before after r, cs = before ++ '\\' :: after ∧ startsWithLineEnd after = true ∧
    (split single before).2 = some r ∧ (split single (before ++ [r.mark])).2 = none

theorem StandIn.mono {IsGap' : List Char → Prop} (hsub : ∀ g, IsGap g → IsGap' g)
    (h : StandIn IsGap ws cs) : StandIn IsGap' ws cs := by
  induction h with
  | nil hg => exact .nil (hsub _ hg)
  | cons hg _ ih => exact .cons (hsub _ hg) ih

/-! Lines in which every letter is a character, and every gap a blank or the end of a line. -/

inductive Spells : List Char → List Piece → Prop where
  | nil : Spells [] []
  | letter {cs : List Char} {ps : List Piece} (c : Char) (h : Spells cs ps) :
      Spells (c :: cs) (.letter c :: ps)
  | blank {c : Char} {cs : List Char} {ps : List Piece} (hc : Text.isBlank c = true)
      (h : Spells cs ps) : Spells (c :: cs) (.gap :: ps)
  | feed {cs : List Char} {ps : List Piece} (h : Spells cs ps) :
      Spells ('\\' :: '\n' :: cs) (.gap :: ps)
  | returnFeed {cs : List Char} {ps : List Piece} (h : Spells cs ps) :
      Spells ('\\' :: '\x0d' :: '\n' :: cs) (.gap :: ps)

/-- More of a margin in front of the first gap. -/
theorem StandIn.widen {g : List Char} (hg : ∀ w, IsMargin w → IsMargin (g ++ w))
    (h : StandIn IsMargin ws cs) : StandIn IsMargin ws (g ++ cs) := by
  cases h with
  | nil hm => exact .nil (hg _ hm)
  | cons hm h =>
    rw [List.append_assoc, ← List.append_assoc, ← List.append_assoc]
    exact .cons (hg _ hm) h

/-- A text that starts with a letter starts with its first word. -/
inductive StartsAt (cs : List Char) (ps : List Piece) : Prop where
  | word {w rest : List Char} {ws : List (List Char)} (hw : words ps = w :: ws)
      (hc : cs = w ++ rest) (h : StandIn IsMargin ws rest) : StartsAt cs ps

theorem StartsAt.standIn (h : StartsAt cs ps) : StandIn IsMargin (words ps) cs := by
  obtain ⟨hw, rfl, h⟩ := h
  rw [hw]
  exact .cons (g := []) .nil h

theorem startsAt_letter (hs : Spells cs ps) (hin : StandIn IsMargin (words ps) cs)
    (hat : ∀ d rest, ps = .letter d :: rest → StartsAt cs ps) (c : Char) :
    StartsAt (c :: cs) (.letter c :: ps) := by
  cases ps with
  | nil =>
    cases hs
    exact .word (w := [c]) (by simp [words]) (List.append_nil [c]).symm (.nil .nil)
  | cons p ps =>
    cases p with
    | gap => exact .word (w := [c]) (by simp [words]) rfl hin
    | letter d =>
      obtain ⟨hw, rfl, h⟩ := hat d ps rfl
      exact .word (by rw [words, hw]) (List.cons_append ..).symm h

theorem standIn_of_spells (h : Spells cs ps) : StandIn IsMargin (words ps) cs ∧
    ∀ c rest, ps = .letter c :: rest → StartsAt cs ps := by
  induction h with
  | nil => exact ⟨.nil .nil, by simp⟩
  | letter c hs ih =>
    have hat := startsAt_letter hs ih.1 ih.2 c
    exact ⟨hat.standIn, fun _ _ _ => hat⟩
  | @blank c cs ps hc _ ih => exact ⟨ih.1.widen (g := [c]) fun _ hm => .blank hc hm, by simp⟩
  | feed _ ih => exact ⟨ih.1.widen (g := ['\\', '\n']) fun _ hm => .feed hm, by simp⟩
  | returnFeed _ ih =>
    exact ⟨ih.1.widen (g := ['\\', '\x0d', '\n']) fun _ hm => .returnFeed hm, by simp⟩

/-! Lines that go on outside of quotes only. -/

/-- What can be open: no quote, or one that was opened. -/
def Marked (single : Bool) (q : Option Char) : Prop := ∀ mark, q = some mark → Opens single mark

theorem marked_none : Marked single none := by
  intro mark hm
  simp at hm

theorem Marked.ne_backslash (hq : Marked single q) : q ≠ some '\\' := by
  intro h
  exact (hq _ h).ne (by decide) (by decide) rfl

theorem marked_glance (hq : Marked single q) (c : Char) :
    Marked single (glance single q c).2 := by
  intro mark hm
  rcases mark_of_glance hm with h | h
  · exact hq mark h
  · exact h

/-- What `ContinuesQuoted` says, of a text that is read from a quote on. -/
def Continues (single : Bool) (q : Option Char) (cs : List Char) : Prop :=
  ∃ before after mark, cs = before ++ '\\' :: after ∧ startsWithLineEnd after = true ∧
    (outline single q before).2 = some mark ∧ (outline single q (before ++ [mark])).2 = none

theorem continuesQuoted_iff : ContinuesQuoted single cs ↔ Continues single none cs := by
  constructor
  · rintro ⟨before, after, r, hcs, ha, hopen, hclosed⟩
    refine ⟨before, after, r.mark, hcs, ha, ?_, split_eq_none_iff.mp hclosed⟩
    have h := (split_outline single before).2
    rw [hopen] at h
    exact h.symm
  · rintro ⟨before, after, mark, hcs, ha, hopen, hclosed⟩
    obtain ⟨r, hr, rfl⟩ := Option.map_eq_some_iff.mp ((split_outline single before).2.trans hopen)
    exact ⟨before, after, r, hcs, ha, hr, split_eq_none_iff.mpr hclosed⟩

/-- A text that is cut off, perhaps with a quote in place of the rest. -/
inductive CutOff (single : Bool) (rest : List Char) : List Char → Prop where
  | bare {ds : List Char} (h : ds <+: rest) : CutOff single rest ds
  | quote {mark : Char} {ds : List Char} (h : ds <+: rest) (hm : Opens single mark) :
      CutOff single rest (ds ++ [mark])

theorem CutOff.startsWithLineEnd (h : CutOff single rest ds) (front : List Char)
    (hno : startsWithLineEnd (front ++ rest) = false) :
    startsWithLineEnd (front ++ ds) = false := by
  cases h with
  | bare h => exact startsWithLineEnd_of_isPrefix ((List.prefix_append_right_inj front).mpr h) hno
  | quote h hm =>
    rw [← List.append_assoc]
    exact startsWithLineEnd_append hm (startsWithLineEnd_of_isPrefix
      ((List.prefix_append_right_inj front).mpr h) hno) []

theorem marked_outline (hq : Marked single q) (cs : List Char) :
    Marked single (outline single q cs).2 := by
  induction q, cs using outline_induction single with
  | nil q => exact hq
  | feed q rest ih =>
    rw [outline_feed, outline_cons (by decide)]
    exact ih (marked_glance hq ' ')
  | returnFeed q rest ih =>
    rw [outline_returnFeed, outline_cons (by decide)]
    exact ih (marked_glance hq ' ')
  | shielding c rest hno ih =>
    rw [outline_shielding hno]
    exact ih hq
  | final => exact hq
  | backslash q rest hd hno ih =>
    rw [outline_backslash hq.ne_backslash hd hno]
    exact ih hq
  | cons q c rest hc ih =>
    rw [outline_cons hc]
    exact ih (marked_glance hq c)

/-- What the rest of a text continues, the text continues. -/
theorem Continues.behind (front : List Char) (hnext : Marked single next)
    (hrun : ∀ ds, CutOff single rest ds →
      (outline single q (front ++ ds)).2 = (outline single next ds).2)
    (h : Continues single next rest) : Continues single q (front ++ rest) := by
  obtain ⟨before, after, mark, hrest, ha, hopen, hclosed⟩ := h
  have hpre : before <+: rest := ⟨_, hrest.symm⟩
  have hmark : Opens single mark := marked_outline hnext before mark hopen
  refine ⟨front ++ before, after, mark, by rw [hrest, List.append_assoc], ha, ?_, ?_⟩
  · rw [hrun before (.bare hpre), hopen]
  · rw [List.append_assoc, hrun _ (.quote hpre hmark), hclosed]

theorem continues_of_lineEnd (hm : Opens single mark) (ha : startsWithLineEnd after = true) :
    Continues single (some mark) ('\\' :: after) := by
  have hb : mark ≠ '\\' := Ne.symm (hm.ne (by decide) (by decide))
  refine ⟨[], after, mark, rfl, ha, rfl, ?_⟩
  rw [List.nil_append, outline_cons hb]
  simp [glance, outline]

theorem spells_glance (single : Bool) (q : Option Char) (c : Char) (h : Spells cs ps) :
    Spells (c :: cs) ((glance single q c).1 :: ps) := by
  cases q with
  | some mark => exact .letter c h
  | none =>
    simp only [glance]
    split
    · rename_i hc
      exact .blank hc h
    · split <;> exact .letter c h

/-- Outside of quotes a line that goes on is a gap, so that every letter is a character. -/
theorem spells_of_not_continues (hq : Marked single q) (h : ¬ Continues single q cs) :
    Spells cs (outline single q cs).1 := by
  have hspace : glance single none ' ' = (.gap, none) := by
    simp [glance, show Text.isBlank ' ' = true by decide]
  induction q, cs using outline_induction single with
  | nil q => exact .nil
  | feed q rest ih =>
    cases q with
    | some mark => exact (h (continues_of_lineEnd (hq _ rfl) rfl)).elim
    | none =>
      rw [hspace] at ih
      rw [outline_feed, outline_cons (by decide), hspace]
      refine .feed (ih hq fun hc => h (hc.behind ['\\', '\n'] hq fun ds _ => ?_))
      simp [outline_feed, outline_cons, hspace]
  | returnFeed q rest ih =>
    cases q with
    | some mark => exact (h (continues_of_lineEnd (hq _ rfl) rfl)).elim
    | none =>
      rw [hspace] at ih
      rw [outline_returnFeed, outline_cons (by decide), hspace]
      refine .returnFeed
        (ih hq fun hc => h (hc.behind ['\\', '\x0d', '\n'] hq fun ds _ => ?_))
      simp [outline_returnFeed, outline_cons, hspace]
  | shielding c rest hno ih =>
    rw [outline_shielding hno]
    refine .letter _ (.letter _
      (ih hq fun hc => h (hc.behind ['\\', c] hq fun ds hds => ?_)))
    have hcut : startsWithLineEnd (c :: ds) = false := hds.startsWithLineEnd [c] hno
    rw [List.cons_append, List.cons_append, List.nil_append, outline_shielding hcut]
  | final => exact .letter _ .nil
  | backslash q rest hd hno ih =>
    rw [outline_backslash hq.ne_backslash hd hno]
    refine .letter _ (ih hq fun hc => h (hc.behind ['\\'] hq fun ds hds => ?_))
    have hcut : startsWithLineEnd ds = false := hds.startsWithLineEnd [] hno
    rw [List.cons_append, List.nil_append, outline_backslash hq.ne_backslash hd hcut]
  | cons q c rest hc ih =>
    have hnext := marked_glance hq c
    rw [outline_cons hc]
    refine spells_glance single q c
      (ih hnext fun hcont => h (hcont.behind [c] hnext fun ds _ => ?_))
    rw [List.cons_append, List.nil_append, outline_cons hc]

theorem standIn_of_not_continues (h : ¬ ContinuesQuoted single cs) :
    StandIn IsMargin (wordsOf single cs) cs :=
  (standIn_of_spells (spells_of_not_continues marked_none
    (fun hc => h (continuesQuoted_iff.mpr hc)))).1

/-! Lines that go on between quotes. Characters that are neither blanks nor backslashes all stay,
so the quote in front can stand at its own place only. There the word of the quote has a blank where
the line has a backslash. -/

theorem StandIn.sublist (h : StandIn IsGap ws cs) : ws.flatten.Sublist cs := by
  induction h with
  | nil => exact List.nil_sublist _
  | @cons g w rest ws hg _ ih =>
    rw [List.flatten_cons]
    exact (List.sublist_append_right g w).append ih

/-- A part of a word stands in one piece as well. -/
theorem StandIn.part (h : StandIn IsGap (front ++ (x ++ cs ++ z) :: back) ds) :
    ∃ before after, ds = before ++ cs ++ after ∧ (front.flatten ++ x).Sublist before ∧
      (z ++ back.flatten).Sublist after := by
  induction front generalizing ds with
  | nil =>
    cases h with
    | @cons g w rest ws hg h =>
      refine ⟨g ++ x, z ++ rest, by simp, List.sublist_append_right g x, ?_⟩
      exact (List.Sublist.refl z).append h.sublist
  | cons f front ih =>
    cases h with
    | @cons g w rest ws hg h =>
      obtain ⟨before, after, rfl, hx, hz⟩ := ih h
      refine ⟨g ++ f ++ before, after, by simp, ?_, hz⟩
      rw [List.flatten_cons, List.append_assoc]
      exact (List.sublist_append_right g f).append hx

/-- Where no solid character is lost, letters next to each other stand in the line next to each
other, behind as many solid characters as before. -/
theorem StandIn.place (hne : cs ≠ [])
    (h : StandIn IsGap (words (ps ++ (cs.map .letter ++ qs))) ds)
    (hall : (letters (ps ++ (cs.map .letter ++ qs))).countP isSolid = ds.countP isSolid) :
    ∃ before after, ds = before ++ cs ++ after ∧
      before.countP isSolid = (letters ps).countP isSolid := by
  obtain ⟨front, x, z, back, hw, hps⟩ := exists_word hne ps qs
  rw [hw] at h
  obtain ⟨before, after, rfl, hx, hz⟩ := h.part
  refine ⟨before, after, rfl, ?_⟩
  have hbefore : (front.flatten ++ x).countP isSolid ≤ before.countP isSolid := hx.countP_le
  have hafter : (z ++ back.flatten).countP isSolid ≤ after.countP isSolid := hz.countP_le
  rw [← flatten_words, hw] at hall
  rw [← hps]
  simp only [List.flatten_append, List.flatten_cons, List.countP_append] at hall hbefore hafter ⊢
  omega

/-- The letters are the characters of a text up to a backslash. There they have a blank. -/
inductive Falters (cs : List Char) (ps : List Piece) : Prop where
  | at (front back : List Char) (qs : List Piece) (hc : cs = front ++ '\\' :: back)
      (hp : ps = (front ++ [' ']).map .letter ++ qs)

theorem Falters.cons (h : Falters cs ps) (c : Char) : Falters (c :: cs) (.letter c :: ps) := by
  obtain ⟨front, back, qs, rfl, rfl⟩ := h
  exact .at (c :: front) back qs rfl rfl

theorem falters_lineEnd (mark : Char) (ha : startsWithLineEnd after = true) :
    Falters ('\\' :: after) (outline single (some mark) ('\\' :: after)).1 := by
  unfold startsWithLineEnd at ha
  split at ha
  · exact .at [] _ _ rfl (by rw [outline_feed, outline_cons (by decide)]; rfl)
  · exact .at [] _ _ rfl (by rw [outline_returnFeed, outline_cons (by decide)]; rfl)
  · simp at ha

theorem falters_cons (hne : c ≠ mark) (hs : ¬ (c = '\\' ∧ mark = '"'))
    (h : Falters cs (outline single (some mark) cs).1) :
    Falters (c :: cs) (outline single (some mark) (c :: cs)).1 := by
  by_cases hc : c = '\\'
  · subst hc
    have hq : some mark ≠ some '\\' := by simpa using Ne.symm hne
    have hd : some mark ≠ some '"' := by simpa using hs
    cases ha : startsWithLineEnd cs with
    | true => exact falters_lineEnd mark ha
    | false =>
      rw [outline_backslash hq hd ha]
      exact h.cons '\\'
  · have hg : glance single (some mark) c = (.letter c, some mark) := by simp [glance, hne]
    rw [outline_cons hc, hg]
    exact h.cons c

/-- Of a quote that goes on, the letters falter at the first backslash that takes away the end of a
line. -/
theorem falters_of_not_closes (hm : Opens single mark) (hopen : closes mark inside = false)
    (hclosed : closes mark (inside ++ [mark]) = true) (ha : startsWithLineEnd after = true) :
    Falters (inside ++ '\\' :: after) (outline single (some mark) (inside ++ '\\' :: after)).1 := by
  fun_induction closes mark inside with
  | case1 => exact falters_lineEnd mark ha
  | case2 c =>
    have hne : c ≠ mark := by simpa using hopen
    have hs : ¬ (c = '\\' ∧ mark = '"') := fun hs => by simp [closes, hs] at hclosed
    exact falters_cons hne hs (falters_lineEnd mark ha)
  | case3 d cs => simp at hopen
  | case4 c d cs hc hs ih =>
    obtain ⟨rfl, rfl⟩ := hs
    rw [List.cons_append, List.cons_append, closes_shielding] at hclosed
    rw [List.cons_append, List.cons_append]
    cases hl : startsWithLineEnd (d :: (cs ++ '\\' :: after)) with
    | true => exact falters_lineEnd '"' hl
    | false =>
      rw [outline_shielding hl]
      exact ((ih hopen hclosed).cons d).cons '\\'
  | case5 c d cs hc hs ih =>
    refine falters_cons hc hs (ih hopen ?_)
    simpa [closes, hc, hs] using hclosed

/-- A quote that is opened can be read apart from what stands before it. -/
theorem outline_append_quote (hq : Marked single q) (hm : Opens single mark)
    (hclosed : (outline single q before).2 = none) (rest : List Char) :
    (outline single q (before ++ mark :: rest)).1 =
      (outline single q before).1 ++ (outline single none (mark :: rest)).1 := by
  induction q, before using outline_induction single with
  | nil q =>
    obtain rfl : q = none := hclosed
    rfl
  | feed q tail ih =>
    rw [outline_feed, outline_cons (by decide)] at hclosed ⊢
    rw [List.cons_append, List.cons_append, outline_feed, outline_cons (by decide),
      ih (marked_glance hq ' ') hclosed, List.cons_append]
  | returnFeed q tail ih =>
    rw [outline_returnFeed, outline_cons (by decide)] at hclosed ⊢
    rw [List.cons_append, List.cons_append, List.cons_append, outline_returnFeed,
      outline_cons (by decide), ih (marked_glance hq ' ') hclosed, List.cons_append]
  | shielding c tail hno ih =>
    have hcut : startsWithLineEnd (c :: (tail ++ mark :: rest)) = false :=
      startsWithLineEnd_append hm hno rest
    rw [outline_shielding hno] at hclosed ⊢
    rw [List.cons_append, List.cons_append, outline_shielding hcut, ih hq hclosed,
      List.cons_append, List.cons_append]
  | final => simp [outline, glance] at hclosed
  | backslash q tail hd hno ih =>
    have hcut := startsWithLineEnd_append hm hno rest
    rw [outline_backslash hq.ne_backslash hd hno] at hclosed ⊢
    rw [List.cons_append, outline_backslash hq.ne_backslash hd hcut, ih hq hclosed,
      List.cons_append]
  | cons q c tail hc ih =>
    rw [outline_cons hc] at hclosed ⊢
    rw [List.cons_append, outline_cons hc, ih (marked_glance hq c) hclosed, List.cons_append]

/-- A solid character has one place among as many others. -/
theorem eq_of_countP {bs es : List Char} (hc : isSolid c = true)
    (hcount : before.countP isSolid = bs.countP isSolid)
    (h : before ++ c :: after = bs ++ c :: es) : after = es := by
  obtain ⟨mid, rfl, hmid⟩ | ⟨mid, rfl, hmid⟩ := List.append_eq_append_iff.mp h
  all_goals
    cases mid with
    | nil => simpa [eq_comm] using hmid
    | cons m mid =>
      obtain ⟨rfl, -⟩ := List.cons.inj hmid
      rw [List.countP_append, List.countP_cons_of_pos hc] at hcount
      omega

theorem isSolid_of_opens (hm : Opens single mark) : isSolid mark = true := by
  rcases hm with rfl | ⟨rfl, -⟩ <;> rfl

/-- Where a quote goes on, the letters from its mark on are the characters, up to a backslash that
is a blank among the letters. -/
theorem exists_falter (h : ContinuesQuoted single cs) : ∃ before mark text back qs,
    Opens single mark ∧ cs = before ++ mark :: (text ++ '\\' :: back) ∧
      (outline single none cs).1 =
        (outline single none before).1 ++ ((mark :: text ++ [' ']).map .letter ++ qs) := by
  obtain ⟨_, after, r, rfl, ha, hopen, hclosed⟩ := h
  obtain ⟨before, inside, rfl, -, hbefore, hm, hinside⟩ := split_eq_some_iff.mp hopen
  have hclose : closes r.mark (inside ++ [r.mark]) = true := by
    by_contra hc
    have hleft : IsLeftOpen single (before ++ r.mark :: (inside ++ [r.mark]))
        ⟨r.mark, (Text.bytes before).length⟩ :=
      ⟨before, _, rfl, rfl, hbefore, hm, by simpa using hc⟩
    rw [← split_eq_some_iff] at hleft
    simp [hleft] at hclosed
  obtain ⟨text, back, qs, htext, hletters⟩ := falters_of_not_closes hm hinside hclose ha
  have hcs : before ++ r.mark :: inside ++ '\\' :: after =
      before ++ r.mark :: (inside ++ '\\' :: after) := by simp
  refine ⟨before, r.mark, text, back, qs, hm, by rw [hcs, htext], ?_⟩
  have hb : r.mark ≠ '\\' := Ne.symm (hm.ne (by decide) (by decide))
  have hg : glance single none r.mark = (.letter r.mark, some r.mark) := by
    rcases hm with hd | ⟨hd, rfl⟩ <;> rw [hd] <;> rfl
  rw [hcs, outline_append_quote marked_none hm (split_eq_none_iff.mp hbefore), outline_cons hb, hg,
    hletters]
  rfl

theorem not_standIn_of_continues (h : ContinuesQuoted single cs) :
    ¬ StandIn IsGap (wordsOf single cs) cs := by
  intro hin
  obtain ⟨before, mark, text, back, qs, hm, hcs, hpieces⟩ := exists_falter h
  have hsolid := count_outline single (Option.some_ne_none '\\').symm
  have hall := hsolid cs
  rw [wordsOf, hpieces] at hin
  rw [hpieces] at hall
  obtain ⟨bs, es, hline, hcount⟩ := hin.place (by simp) hall
  rw [hsolid] at hcount
  have hafter : text ++ '\\' :: back = text ++ ' ' :: es := by
    rw [hcs] at hline
    exact eq_of_countP (isSolid_of_opens hm) hcount.symm (by simpa using hline)
  simpa using List.append_cancel_left hafter

/-- The words of a line stand in it one after the other, each in one piece, exactly where no quote
goes on behind a backslash at the end of a line. What is around them are blanks and ends of lines
that a backslash takes away, and nothing else is lost. -/
theorem words_stand_in_line_iff (single : Bool) (line : String) :
    ∃ ws, ofLine ⟨single, false⟩ line = .ok ws ∧
      (∀ us, ofLine ⟨single, true⟩ line = .ok us → us = ws) ∧
      (StandIn (fun _ => True) (ws.map String.toList) line.toList ↔
        ¬ ContinuesQuoted single line.toList) ∧
      (¬ ContinuesQuoted single line.toList →
        StandIn IsMargin (ws.map String.toList) line.toList) := by
  have hof : ((wordsOf single line.toList).map String.ofList).map String.toList =
      wordsOf single line.toList := by
    simp [Function.comp_def]
  refine ⟨(wordsOf single line.toList).map String.ofList, ofLine_ok_iff.mpr ⟨rfl, by simp⟩,
    fun us hu => (ofLine_ok_iff.mp hu).1, ?_, ?_⟩
  · rw [hof]
    exact ⟨fun h hc => not_standIn_of_continues hc h,
      fun h => (standIn_of_not_continues h).mono fun _ _ => trivial⟩
  · rw [hof]
    exact standIn_of_not_continues

/-- Between the two quotes the word has a blank that the line does not have. -/
theorem continued_word_is_not_in_line :
    ofLine {} "\"a\\\nb\"" = .ok ["\"a b\""] ∧
      ¬ StandIn (fun _ => True) ["\"a b\"".toList] "\"a\\\nb\"".toList := by
  have hwords : wordsOf false "\"a\\\nb\"".toList = ["\"a b\"".toList] := by decide
  refine ⟨by decide, hwords ▸ not_standIn_of_continues ⟨['"', 'a'], ['\n', 'b', '"'], ⟨'"', 0⟩, ?_⟩⟩
  exact ⟨rfl, rfl, by decide, by decide⟩

/-- What a backslash shields between quotes goes on as it is: here the first shields the second. -/
example : ofLine {} "\"a\\\\\nb\"" = .ok ["\"a\\\\\nb\""] := by decide

end CurlScribe.Word
