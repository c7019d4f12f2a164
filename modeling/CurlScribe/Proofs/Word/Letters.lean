import CurlScribe.Proofs.Word.Outline

/-! The letters of a line: which characters are among them, and how they come together in words. -/
namespace CurlScribe.Word

variable {single : Bool} {q next : Option Char} {c : Char} {ps : List Piece} {cs : List Char}

/-- The letters of a line. -/
def letters : List Piece → List Char
  | [] => []
  | .gap :: ps => letters ps
  | .letter c :: ps => c :: letters ps

theorem flatten_words (ps : List Piece) : (words ps).flatten = letters ps := by
  fun_induction words ps with
  | case1 => rfl
  | case2 rest ih => exact ih
  | case3 c d rest w ws hw ih =>
    rw [hw] at ih
    simpa [letters] using ih
  | case4 c d rest hnil ih => exact (words_letter_ne_nil d rest hnil).elim
  | case5 c rest h ih => simpa [letters] using ih

/-- A character that is not lost at the end of a line. -/
def isSolid (c : Char) : Bool := !Text.isBlank c && c != '\\'

/-- One character adds itself, or it is a blank. -/
theorem count_glance (single : Bool) (q : Option Char) (c : Char)
    (h : (letters ps).countP isSolid = cs.countP isSolid) :
    (letters ((glance single q c).1 :: ps)).countP isSolid = (c :: cs).countP isSolid := by
  have hletter : (letters (.letter c :: ps)).countP isSolid = (c :: cs).countP isSolid := by
    rw [letters, List.countP_cons, List.countP_cons, h]
  cases q with
  | some mark => exact hletter
  | none =>
    simp only [glance]
    split
    · rename_i hc
      rw [letters, h, List.countP_cons_of_neg (by simp [isSolid, hc])]
    · split <;> exact hletter

/-- All solid characters are letters of the line. -/
theorem count_outline (single : Bool) (hq : q ≠ some '\\') (cs : List Char) :
    (letters (outline single q cs).1).countP isSolid = cs.countP isSolid := by
  have hspace (cs : List Char) : (' ' :: cs).countP isSolid = cs.countP isSolid :=
    List.countP_cons_of_neg (by decide)
  have hslash (cs : List Char) : ('\\' :: cs).countP isSolid = cs.countP isSolid :=
    List.countP_cons_of_neg (by decide)
  have hfeed (cs : List Char) : ('\n' :: cs).countP isSolid = cs.countP isSolid :=
    List.countP_cons_of_neg (by decide)
  have hreturn (cs : List Char) : ('\x0d' :: cs).countP isSolid = cs.countP isSolid :=
    List.countP_cons_of_neg (by decide)
  induction q, cs using outline_induction single with
  | nil q => rfl
  | feed q rest ih =>
    rw [outline_feed, outline_cons (by decide),
      count_glance single q ' ' (ih (glance_ne_backslash single ' ' hq)), hspace, hslash, hfeed]
  | returnFeed q rest ih =>
    rw [outline_returnFeed, outline_cons (by decide),
      count_glance single q ' ' (ih (glance_ne_backslash single ' ' hq)), hspace, hslash, hreturn,
      hfeed]
  | shielding c rest hno ih =>
    rw [outline_shielding hno, letters, letters, hslash, hslash, List.countP_cons, List.countP_cons,
      ih hq]
  | final => rfl
  | backslash q rest hd hno ih =>
    rw [outline_backslash hq hd hno, letters, hslash, hslash, ih hq]
  | cons q c rest hc ih =>
    rw [outline_cons hc]
    exact count_glance single q c (ih (glance_ne_backslash single c hq))

theorem words_letter_cases (c : Char) (ps : List Piece) :
    words (.letter c :: ps) = [c] :: words ps ∨
      ∃ w ws, words ps = w :: ws ∧ words (.letter c :: ps) = (c :: w) :: ws := by
  cases ps with
  | nil => exact .inl rfl
  | cons p ps =>
    cases p with
    | gap => exact .inl rfl
    | letter d =>
      obtain ⟨w, ws, hw⟩ := List.exists_cons_of_ne_nil (words_letter_ne_nil d ps)
      exact .inr ⟨w, ws, hw, by rw [words, hw]⟩

/-- Letters at the start of a line start its first word. -/
theorem exists_first_word (hne : cs ≠ []) (qs : List Piece) :
    ∃ z back, words (cs.map .letter ++ qs) = (cs ++ z) :: back := by
  induction cs with
  | nil => exact (hne rfl).elim
  | cons c cs ih =>
    cases cs with
    | nil =>
      obtain hw | ⟨w, ws, -, hw⟩ := words_letter_cases c qs
      · exact ⟨[], words qs, hw⟩
      · exact ⟨w, ws, hw⟩
    | cons d cs =>
      obtain ⟨z, back, hw⟩ := ih (by simp)
      refine ⟨z, back, ?_⟩
      rw [List.map_cons, List.cons_append] at hw ⊢
      rw [List.map_cons, List.cons_append, words, hw]
      rfl

/-- Letters next to each other are part of one word. -/
theorem exists_word (hne : cs ≠ []) (ps qs : List Piece) :
    ∃ front x z back, words (ps ++ (cs.map .letter ++ qs)) = front ++ (x ++ cs ++ z) :: back ∧
      front.flatten ++ x = letters ps := by
  induction ps with
  | nil =>
    obtain ⟨z, back, hw⟩ := exists_first_word hne qs
    exact ⟨[], [], z, back, hw, rfl⟩
  | cons p ps ih =>
    obtain ⟨front, x, z, back, hw, hl⟩ := ih
    cases p with
    | gap => exact ⟨front, x, z, back, by rw [List.cons_append, words, hw], hl⟩
    | letter c =>
      obtain hgap | ⟨w, ws, hws, hword⟩ := words_letter_cases c (ps ++ (cs.map .letter ++ qs))
      · refine ⟨[c] :: front, x, z, back, ?_, ?_⟩
        · rw [List.cons_append, hgap, hw, List.cons_append]
        · rw [List.flatten_cons, List.append_assoc, hl]
          rfl
      · rw [hw] at hws
        rw [List.cons_append, hword, letters, ← hl]
        cases front with
        | nil =>
          obtain ⟨rfl, rfl⟩ := List.cons.inj hws
          exact ⟨[], c :: x, z, back, rfl, rfl⟩
        | cons f front =>
          obtain ⟨rfl, rfl⟩ := List.cons.inj hws
          exact ⟨(c :: f) :: front, x, z, back, rfl, rfl⟩

end CurlScribe.Word
