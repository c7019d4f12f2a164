import CurlScribe.Proofs.Word.Joined

/-! Blank space around a line: what of it is seen when the line is trimmed and cut into words. -/
namespace CurlScribe.Word

variable {single : Bool} {q : Option Char} {c : Char} {w cs bs rest : List Char}

/-- Blank characters and ends of lines that a backslash takes away, and nothing else. -/
inductive IsMargin : List Char → Prop where
  | nil : IsMargin []
  | blank {c : Char} {w : List Char} (hc : Text.isBlank c = true) (hw : IsMargin w) :
      IsMargin (c :: w)
  | feed {w : List Char} (hw : IsMargin w) : IsMargin ('\\' :: '\n' :: w)
  | returnFeed {w : List Char} (hw : IsMargin w) : IsMargin ('\\' :: '\x0d' :: '\n' :: w)

theorem isMargin_of_blank (h : ∀ b ∈ bs, Text.isBlank b = true) : IsMargin bs := by
  induction bs with
  | nil => exact .nil
  | cons b bs ih =>
    obtain ⟨hb, hbs⟩ := List.forall_mem_cons.mp h
    exact .blank hb (ih hbs)

theorem ne_backslash_of_blank (hc : Text.isBlank c = true) : c ≠ '\\' := by
  rintro rfl
  exact absurd hc (by decide)

theorem wordsOf_cons_blank (hc : Text.isBlank c = true) (cs : List Char) :
    wordsOf single (c :: cs) = wordsOf single cs ∧
      leftOpen single (c :: cs) = leftOpen single cs := by
  simp [wordsOf, leftOpen, outline_cons (ne_backslash_of_blank hc), glance, hc, words]

/-- In front of a text a margin is not seen. -/
theorem wordsOf_margin_append (single : Bool) (hw : IsMargin w) (cs : List Char) :
    wordsOf single (w ++ cs) = wordsOf single cs ∧
      leftOpen single (w ++ cs) = leftOpen single cs := by
  have hspace : Text.isBlank ' ' = true := by decide
  induction hw with
  | nil => exact ⟨rfl, rfl⟩
  | blank hc _ ih =>
    rw [← ih.1, ← ih.2]
    exact wordsOf_cons_blank hc _
  | feed _ ih =>
    rw [← ih.1, ← ih.2, List.cons_append, List.cons_append, wordsOf, leftOpen, outline_feed]
    exact wordsOf_cons_blank hspace _
  | returnFeed _ ih =>
    rw [← ih.1, ← ih.2, List.cons_append, List.cons_append, List.cons_append, wordsOf, leftOpen,
      outline_returnFeed]
    exact wordsOf_cons_blank hspace _

/-- A margin that is not all blank has a last backslash. -/
theorem exists_last_backslash (hw : IsMargin w) :
    (∀ b ∈ w, Text.isBlank b = true) ∨ ∃ front back, w = front ++ '\\' :: back ∧
      IsMargin front ∧ ∀ b ∈ back, Text.isBlank b = true := by
  have hends : Text.isBlank '\n' = true ∧ Text.isBlank '\x0d' = true := by decide
  induction hw with
  | nil => exact .inl (by simp)
  | blank hc _ ih =>
    obtain hall | ⟨front, back, rfl, hfront, hback⟩ := ih
    · exact .inl (List.forall_mem_cons.mpr ⟨hc, hall⟩)
    · exact .inr ⟨_ :: front, back, rfl, .blank hc hfront, hback⟩
  | feed _ ih =>
    obtain hall | ⟨front, back, rfl, hfront, hback⟩ := ih
    · exact .inr ⟨[], _, rfl, .nil, List.forall_mem_cons.mpr ⟨hends.1, hall⟩⟩
    · exact .inr ⟨'\\' :: '\n' :: front, back, rfl, .feed hfront, hback⟩
  | returnFeed _ ih =>
    obtain hall | ⟨front, back, rfl, hfront, hback⟩ := ih
    · exact .inr ⟨[], _, rfl, .nil, List.forall_mem_cons.mpr
        ⟨hends.2, List.forall_mem_cons.mpr ⟨hends.1, hall⟩⟩⟩
    · exact .inr ⟨'\\' :: '\x0d' :: '\n' :: front, back, rfl, .returnFeed hfront, hback⟩

/-! Blanks and backslashes neither open a quote nor close one. -/

theorem glance_idle (single : Bool) (hq : q ∈ [none, some '"', some '\''])
    (hc : Text.isBlank c = true ∨ c = '\\') : (glance single q c).2 = q := by
  have hne : c ≠ '"' ∧ c ≠ '\'' := by
    constructor <;> rintro rfl <;> exact absurd hc (by decide)
  simp only [List.mem_cons, List.not_mem_nil, or_false] at hq
  rcases hq with rfl | rfl | rfl
  · simp only [glance, hne.1, hne.2]
    split <;> simp
  · simp [glance, hne.1]
  · simp [glance, hne.2]

theorem ne_backslash_of_mem_marks (hq : q ∈ [none, some '"', some '\'']) : q ≠ some '\\' := by
  rintro rfl
  simp at hq

theorem outline_idle (hq : q ∈ [none, some '"', some '\''])
    (h : ∀ c ∈ cs, Text.isBlank c = true ∨ c = '\\') : (outline single q cs).2 = q := by
  have hspace : Text.isBlank ' ' = true ∨ ' ' = '\\' := by decide
  induction q, cs using outline_induction single with
  | nil q => rfl
  | feed q rest ih =>
    rw [glance_idle single hq hspace] at ih
    rw [outline_feed, outline_cons (by decide), glance_idle single hq hspace]
    exact ih hq fun c hc => h c (by simp [hc])
  | returnFeed q rest ih =>
    rw [glance_idle single hq hspace] at ih
    rw [outline_returnFeed, outline_cons (by decide), glance_idle single hq hspace]
    exact ih hq fun c hc => h c (by simp [hc])
  | shielding c rest hno ih =>
    rw [outline_shielding hno]
    exact ih hq fun c hc => h c (by simp [hc])
  | final => rfl
  | backslash q rest hd hno ih =>
    rw [outline_backslash (ne_backslash_of_mem_marks hq) hd hno]
    exact ih hq fun c hc => h c (List.mem_cons_of_mem _ hc)
  | cons q c rest hc ih =>
    have hidle := glance_idle single hq (h c List.mem_cons_self)
    rw [hidle] at ih
    rw [outline_cons hc, hidle]
    exact ih hq fun c hc => h c (List.mem_cons_of_mem _ hc)

theorem glance_mem_marks (single : Bool) (hq : q ∈ [none, some '"', some '\'']) (c : Char) :
    (glance single q c).2 ∈ [none, some '"', some '\''] := by
  cases hn : (glance single q c).2 with
  | none => simp
  | some mark =>
    rcases mark_of_glance hn with h | rfl | ⟨rfl, -⟩
    · exact h ▸ hq
    · simp
    · simp

/-- Blanks at the end of a text leave open what it leaves open: a backslash in front of them may
shield the first or take it away, but neither opens or closes a quote. -/
theorem outline_append_blanks (single : Bool) (hq : q ∈ [none, some '"', some '\''])
    (hb : ∀ b ∈ bs, Text.isBlank b = true) (cs : List Char) :
    (outline single q (cs ++ bs)).2 = (outline single q cs).2 := by
  have hidle {q : Option Char} (hq : q ∈ [none, some '"', some '\'']) (cs : List Char)
      (h : ∀ c ∈ cs, Text.isBlank c = true ∨ c = '\\') :
      (outline single q (cs ++ bs)).2 = (outline single q cs).2 := by
    rw [outline_idle hq h]
    exact outline_idle hq (List.forall_mem_append.mpr ⟨h, fun b hm => .inl (hb b hm)⟩)
  have hreturn : Text.isBlank '\x0d' = true := by decide
  induction q, cs using outline_induction single with
  | nil q => exact hidle hq [] (by simp)
  | feed q rest ih =>
    simp only [List.cons_append, outline_feed, outline_cons (show ' ' ≠ '\\' by decide)]
    exact ih (glance_mem_marks single hq ' ')
  | returnFeed q rest ih =>
    simp only [List.cons_append, outline_returnFeed, outline_cons (show ' ' ≠ '\\' by decide)]
    exact ih (glance_mem_marks single hq ' ')
  | shielding c rest hno ih =>
    by_cases hs : startsWithLineEnd (c :: (rest ++ bs)) = true
    · obtain ⟨rfl, rfl, -⟩ := seam_of_startsWithLineEnd hs hno
      exact hidle hq ['\\', '\x0d'] (by simp [hreturn])
    · rw [List.cons_append, List.cons_append, outline_shielding (by simpa using hs),
        outline_shielding hno]
      exact ih hq
  | final => exact hidle hq ['\\'] (by simp)
  | backslash q rest hd hno ih =>
    by_cases hs : startsWithLineEnd (rest ++ bs) = true
    · cases rest with
      | nil => exact hidle hq ['\\'] (by simp)
      | cons d rest =>
        obtain ⟨rfl, rfl, -⟩ := seam_of_startsWithLineEnd hs hno
        exact hidle hq ['\\', '\x0d'] (by simp [hreturn])
    · have hne := ne_backslash_of_mem_marks hq
      rw [List.cons_append, outline_backslash hne hd (by simpa using hs),
        outline_backslash hne hd hno]
      exact ih hq
  | cons q c rest hc ih =>
    rw [List.cons_append, outline_cons hc, outline_cons hc]
    exact ih (glance_mem_marks single hq c)

/-! Lines that are trimmed. -/

theorem leftOpen_trim (single : Bool) (cs : List Char) :
    leftOpen single (Text.trim cs) = leftOpen single cs := by
  have hends : Text.trimEnd cs ++ cs.rtakeWhile Text.isBlank = cs :=
    List.rdropWhile_append_rtakeWhile
  have hblank : ∀ b ∈ cs.rtakeWhile Text.isBlank, Text.isBlank b = true :=
    fun b hb => List.mem_rtakeWhile_imp hb
  have h := outline_append_blanks single (q := none) (by simp) hblank (Text.trimEnd cs)
  rw [hends] at h
  rw [← Text.trimStart_trimEnd_comm, (wordsOf_trimStart single _).2]
  exact h.symm

theorem wordsOf_trim (single : Bool) (cs : List Char) :
    wordsOf single (Text.trim cs) = wordsOf single (Text.trimEnd cs) := by
  rw [← Text.trimStart_trimEnd_comm, (wordsOf_trimStart single _).1]

/-- In front of a line that says something a margin is not seen. -/
theorem wordsOf_margin_in_front (hw : IsMargin w) (hn : ∃ c ∈ cs, Text.isBlank c = false) :
    wordsOf single (Text.trim (w ++ cs)) = wordsOf single (Text.trim cs) := by
  rw [wordsOf_trim, wordsOf_trim, Text.trimEnd_append hn, (wordsOf_margin_append single hw _).1]

/-- Behind a line that is trimmed the last backslash of a margin stays, as a word of its own. -/
theorem wordsOf_backslash_behind {front back : List Char} (hfront : IsMargin front)
    (hback : ∀ b ∈ back, Text.isBlank b = true) (hopen : leftOpen single cs = none) :
    wordsOf single (Text.trim (cs ++ ' ' :: (front ++ '\\' :: back))) =
        wordsOf single cs ++ [['\\']] ∧
      leftOpen single (cs ++ ' ' :: (front ++ '\\' :: back)) = none := by
  have hlast : wordsOf single ['\\'] = [['\\']] ∧ leftOpen single ['\\'] = none := by
    cases single <;> decide
  have hcut := outline_append_separator isSeparator_blank hopen (front ++ ['\\'])
  have hmargin := wordsOf_margin_append single hfront ['\\']
  have hsplit : cs ++ ' ' :: (front ++ '\\' :: back) =
      cs ++ [' '] ++ (front ++ ['\\']) ++ back := by
    simp
  have hends : Text.trimEnd (cs ++ ' ' :: (front ++ '\\' :: back)) =
      cs ++ [' '] ++ (front ++ ['\\']) := by
    rw [hsplit, Text.trimEnd_append_blanks hback, ← List.append_assoc,
      Text.trimEnd_append ⟨'\\', by simp, by decide⟩]
    rfl
  constructor
  · rw [wordsOf_trim, hends, hcut.1, hmargin.1, hlast.1]
  · rw [leftOpen, hsplit, outline_append_blanks single (by simp) hback, ← leftOpen, hcut.2,
      hmargin.2, hlast.2]

end CurlScribe.Word
