import CurlScribe.Command.Word

/-! Lines without the places of their quotes, and lines put together at blanks. -/
namespace CurlScribe.Word

variable {single : Bool} {q : Option Char} {c : Char} {cs rest : List Char} {ps qs : List Piece}

/-- One character, as `advance` takes it, when only the mark of an open quote is known. -/
def glance (single : Bool) (q : Option Char) (c : Char) : Piece × Option Char :=
  match q with
  | some mark => (.letter c, if c = mark then none else some mark)
  | none =>
    if Text.isBlank c then (.gap, none)
    else if c = '"' || (c = '\'' && single) then (.letter c, some c)
    else (.letter c, none)

/-- The pieces of a line and the mark of the quote that is open at its end. -/
def outline (single : Bool) (q : Option Char) : List Char → List Piece × Option Char
  | [] => ([], q)
  | '\\' :: '\n' :: rest =>
    let (piece, next) := glance single q ' '
    let (pieces, final) := outline single next rest
    (piece :: pieces, final)
  | '\\' :: '\x0d' :: '\n' :: rest =>
    let (piece, next) := glance single q ' '
    let (pieces, final) := outline single next rest
    (piece :: pieces, final)
  | '\\' :: c :: rest =>
    if q = some '"' then
      let (pieces, final) := outline single q rest
      (.letter '\\' :: .letter c :: pieces, final)
    else
      let (pieces, final) := outline single q (c :: rest)
      (.letter '\\' :: pieces, final)
  | c :: rest =>
    let (piece, next) := glance single q c
    let (pieces, final) := outline single next rest
    (piece :: pieces, final)

theorem glance_eq_advance (single : Bool) (q : Option OpenQuote) (position : Nat) (c : Char) :
    glance single (q.map OpenQuote.mark) c =
      ((advance single q position c).1, (advance single q position c).2.map OpenQuote.mark) := by
  cases q with
  | none => simp only [glance, advance, Option.map_none]; split <;> (try split) <;> rfl
  | some q => simp only [glance, advance, Option.map_some]; split <;> simp

/-- Places are carried along and decide nothing. -/
theorem outline_eq_scan (single : Bool) (q : Option OpenQuote) (position : Nat) (cs : List Char) :
    outline single (q.map OpenQuote.mark) cs =
      ((scan single q position cs).1, (scan single q position cs).2.map OpenQuote.mark) := by
  fun_induction scan single q position cs with
  | case1 => rfl
  | case2 q position rest piece next hp pieces final hf ih =>
    simp only [outline, glance_eq_advance single q position, hp, ih]
    simp_all
  | case3 q position rest piece next hp pieces final hf ih =>
    simp only [outline, glance_eq_advance single q position, hp, ih]
    simp_all
  | case4 q position c rest hn hr hq pieces final hf ih =>
    rw [outline.eq_4 _ _ _ _ hn hr]
    simp_all
  | case5 q position c rest hn hr hq pieces final hf ih =>
    rw [outline.eq_4 _ _ _ _ hn hr]
    simp_all
  | case6 q position c rest h1 h2 h3 piece next hp pieces final hf ih =>
    rw [outline.eq_5 _ _ _ _ h1 h2 h3]
    simp only [glance_eq_advance single q position, hp, ih]
    simp_all

theorem outline_cons (h : c ≠ '\\') :
    outline single q (c :: rest) =
      ((glance single q c).1 :: (outline single (glance single q c).2 rest).1,
        (outline single (glance single q c).2 rest).2) := by
  rw [outline.eq_5] <;> simp_all

/-- What is open behind a character was open in front of it, or is one of the two marks. -/
theorem mark_of_glance {mark : Char} (h : (glance single q c).2 = some mark) :
    q = some mark ∨ mark = '"' ∨ mark = '\'' ∧ single = true := by
  cases q with
  | none =>
    simp only [glance] at h
    split at h
    · simp at h
    · split at h
      · rename_i hc
        obtain rfl := Option.some.inj h
        exact .inr (by simpa using hc)
      · simp at h
  | some m =>
    simp only [glance] at h
    split at h
    · simp at h
    · exact .inl h

theorem glance_ne_backslash (single : Bool) (c : Char) (hq : q ≠ some '\\') :
    (glance single q c).2 ≠ some '\\' := by
  intro h
  rcases mark_of_glance h with h | h | ⟨h, -⟩
  · exact hq h
  · exact absurd h (by decide)
  · exact absurd h (by decide)

theorem glance_backslash (hq : q ≠ some '\\') : glance single q '\\' = (.letter '\\', q) := by
  cases q with
  | none => simp [glance, show Text.isBlank '\\' = false by decide]
  | some mark =>
    have hne : '\\' ≠ mark := fun h => hq (h ▸ rfl)
    simp [glance, hne]

/-- The end of a line, which a backslash in front of it takes away. -/
def startsWithLineEnd : List Char → Bool
  | '\n' :: _ => true
  | '\x0d' :: '\n' :: _ => true
  | _ => false

theorem startsWithLineEnd_eq_false (hn : c = '\n' → False)
    (hr : ∀ more, c = '\x0d' → rest = '\n' :: more → False) :
    startsWithLineEnd (c :: rest) = false := by
  unfold startsWithLineEnd
  split
  · simp_all
  · simp_all
  · rfl

/-- The end of a line that is taken away reads as a blank. -/
theorem outline_feed (q : Option Char) (rest : List Char) :
    outline single q ('\\' :: '\n' :: rest) = outline single q (' ' :: rest) := by
  simp [outline]

theorem outline_returnFeed (q : Option Char) (rest : List Char) :
    outline single q ('\\' :: '\x0d' :: '\n' :: rest) = outline single q (' ' :: rest) := by
  simp [outline]

/-- Any other backslash shields what follows it between double quotes, and is a character like
others elsewhere. -/
theorem outline_shielding (h : startsWithLineEnd (c :: rest) = false) :
    outline single (some '"') ('\\' :: c :: rest) =
      (.letter '\\' :: .letter c :: (outline single (some '"') rest).1,
        (outline single (some '"') rest).2) := by
  rw [outline.eq_4]
  · simp
  · rintro rfl
    simp [startsWithLineEnd] at h
  · rintro more rfl rfl
    simp [startsWithLineEnd] at h

theorem outline_backslash (hq : q ≠ some '\\') (hd : q ≠ some '"')
    (h : startsWithLineEnd rest = false) :
    outline single q ('\\' :: rest) =
      (.letter '\\' :: (outline single q rest).1, (outline single q rest).2) := by
  cases rest with
  | nil => simp [outline, glance_backslash hq]
  | cons c rest =>
    rw [outline.eq_4]
    · simp [hd]
    · rintro rfl
      simp [startsWithLineEnd] at h
    · rintro more rfl rfl
      simp [startsWithLineEnd] at h

theorem eq_nil_of_final_backslash
    (h : ∀ d more, c = '\\' → rest = d :: more → False) (hc : c = '\\') : rest = [] := by
  cases rest with
  | nil => rfl
  | cons d more => exact (h d more hc rfl).elim

/-- Induction along a line, with a case for each way in which it goes on. At its very end a
backslash shields nothing. -/
theorem outline_induction (single : Bool) {motive : Option Char → List Char → Prop}
    (nil : ∀ q, motive q [])
    (feed : ∀ q rest, motive (glance single q ' ').2 rest → motive q ('\\' :: '\n' :: rest))
    (returnFeed : ∀ q rest, motive (glance single q ' ').2 rest →
      motive q ('\\' :: '\x0d' :: '\n' :: rest))
    (shielding : ∀ c rest, startsWithLineEnd (c :: rest) = false → motive (some '"') rest →
      motive (some '"') ('\\' :: c :: rest))
    (final : motive (some '"') ['\\'])
    (backslash : ∀ q rest, q ≠ some '"' → startsWithLineEnd rest = false → motive q rest →
      motive q ('\\' :: rest))
    (cons : ∀ q c rest, c ≠ '\\' → motive (glance single q c).2 rest → motive q (c :: rest))
    (q : Option Char) (cs : List Char) : motive q cs := by
  fun_induction outline single q cs with
  | case1 q => exact nil q
  | case2 q rest piece next hp pieces last hf ih => exact feed q rest (by rwa [hp])
  | case3 q rest piece next hp pieces last hf ih => exact returnFeed q rest (by rwa [hp])
  | case4 c rest hn hr pieces last hf ih =>
    exact shielding c rest (startsWithLineEnd_eq_false hn hr) ih
  | case5 q c rest hn hr hd pieces last hf ih =>
    exact backslash q (c :: rest) hd (startsWithLineEnd_eq_false hn hr) ih
  | case6 q c rest h1 h2 h3 piece next hp pieces last hf ih =>
    by_cases hc : c = '\\'
    · have hnil := eq_nil_of_final_backslash h3 hc
      subst hc hnil
      by_cases hd : q = some '"'
      · exact hd ▸ final
      · exact backslash q [] hd rfl (nil q)
    · exact cons q c rest hc (by rwa [hp])

/-- The end of a line comes about at a seam where its two characters meet. -/
theorem seam_of_startsWithLineEnd {bs : List Char}
    (h : startsWithLineEnd (c :: (rest ++ bs)) = true)
    (hn : startsWithLineEnd (c :: rest) = false) :
    c = '\x0d' ∧ rest = [] ∧ bs.head? = some '\n' := by
  cases rest with
  | nil =>
    unfold startsWithLineEnd at h
    split at h
    · simp_all [startsWithLineEnd]
    · simp_all
    · simp at h
  | cons d more =>
    unfold startsWithLineEnd at h
    split at h <;> simp_all [startsWithLineEnd]

/-- Behind a text, any other character than its own two brings about no end of a line. -/
theorem startsWithLineEnd_append_of_ne (hn : c ≠ '\n') (hr : c ≠ '\x0d')
    (h : startsWithLineEnd cs = false) (rest : List Char) :
    startsWithLineEnd (cs ++ c :: rest) = false := by
  cases cs with
  | nil => exact startsWithLineEnd_eq_false hn fun _ hc => (hr hc).elim
  | cons d cs =>
    refine Bool.eq_false_iff.mpr fun hs => ?_
    obtain ⟨-, -, hc⟩ := seam_of_startsWithLineEnd hs h
    exact hn (Option.some.inj hc)

/-- A blank can be read apart from what stands before it: no continuation reaches over it, and where
a backslash shields it, it is between quotes anyhow. -/
theorem outline_append_blank (single : Bool) (hq : q ≠ some '\\') (cs rest : List Char) :
    outline single q (cs ++ ' ' :: rest) =
      ((outline single q cs).1 ++ (outline single (outline single q cs).2 (' ' :: rest)).1,
        (outline single (outline single q cs).2 (' ' :: rest)).2) := by
  have hblank {tail : List Char} (h : startsWithLineEnd tail = false) :
      startsWithLineEnd (tail ++ ' ' :: rest) = false :=
    startsWithLineEnd_append_of_ne (by decide) (by decide) h rest
  induction q, cs using outline_induction single with
  | nil q => rfl
  | feed q tail ih =>
    simp only [List.cons_append, outline_feed, outline_cons (show ' ' ≠ '\\' by decide),
      ih (glance_ne_backslash single ' ' hq)]
  | returnFeed q tail ih =>
    simp only [List.cons_append, outline_returnFeed, outline_cons (show ' ' ≠ '\\' by decide),
      ih (glance_ne_backslash single ' ' hq)]
  | shielding c tail hno ih =>
    have hcut : startsWithLineEnd (c :: (tail ++ ' ' :: rest)) = false := hblank hno
    simp only [List.cons_append, outline_shielding hcut, outline_shielding hno, ih hq]
  | final => simp [outline, glance]
  | backslash q tail hd hno ih =>
    simp only [List.cons_append, outline_backslash hq hd (hblank hno),
      outline_backslash hq hd hno, ih hq]
  | cons q c tail hc ih =>
    simp only [List.cons_append, outline_cons hc, ih (glance_ne_backslash single c hq)]

theorem words_letter_ne_nil (c : Char) (ps : List Piece) : words (.letter c :: ps) ≠ [] := by
  cases ps with
  | nil => simp [words]
  | cons p rest =>
    cases p with
    | gap => simp [words]
    | letter d => simp only [words]; split <;> simp

theorem words_append_gap (ps qs : List Piece) :
    words (ps ++ .gap :: qs) = words ps ++ words qs := by
  fun_induction words ps with
  | case1 => simp [words]
  | case2 rest ih => simpa [words] using ih
  | case3 c d rest w ws hw ih => simp_all [words]
  | case4 c d rest hw ih => exact (words_letter_ne_nil d rest hw).elim
  | case5 c rest h ih =>
    cases rest with
    | nil => simp [words]
    | cons p rest =>
      cases p with
      | gap => simpa [words] using ih
      | letter d => exact (h d rest rfl).elim

theorem words_letters (h : cs ≠ []) : words (cs.map .letter) = [cs] := by
  induction cs with
  | nil => exact (h rfl).elim
  | cons c rest ih =>
    cases rest with
    | nil => rfl
    | cons d rest => simp_all [words]

theorem words_gaps (n : Nat) (ps : List Piece) :
    words (List.replicate n .gap ++ ps) = words ps := by
  induction n with
  | zero => rfl
  | succ n ih => simpa [List.replicate_succ, words] using ih

/-- The words of a text, and the quote left open by it, when it is read from outside quotes. -/
def wordsOf (single : Bool) (cs : List Char) : List (List Char) := words (outline single none cs).1

def leftOpen (single : Bool) (cs : List Char) : Option Char := (outline single none cs).2

/-- What stands between the parts of a command: a blank, then nothing that is part of a word. -/
structure IsSeparator (sep : List Char) : Prop where
  starts : ∃ more, sep = ' ' :: more
  gaps : ∀ single rest, ∃ n, outline single none (sep ++ rest) =
    (.gap :: List.replicate n .gap ++ (outline single none rest).1, (outline single none rest).2)

theorem isSeparator_blank : IsSeparator [' '] where
  starts := ⟨[], rfl⟩
  gaps single rest := ⟨0, by simp [outline_cons, glance, show Text.isBlank ' ' = true by decide]⟩

theorem isSeparator_continuation : IsSeparator " \\\n  ".toList where
  starts := ⟨"\\\n  ".toList, by decide⟩
  gaps single rest := ⟨3, by
    simp [outline_cons, outline, glance, show Text.isBlank ' ' = true by decide,
      List.replicate_succ]⟩

theorem outline_append_separator {sep : List Char} (hs : IsSeparator sep)
    (hc : leftOpen single cs = none) (rest : List Char) :
    wordsOf single (cs ++ sep ++ rest) = wordsOf single cs ++ wordsOf single rest ∧
      leftOpen single (cs ++ sep ++ rest) = leftOpen single rest := by
  obtain ⟨more, rfl⟩ := hs.starts
  obtain ⟨n, hn⟩ := hs.gaps single rest
  have h := outline_append_blank single (q := none) (by simp) cs (more ++ rest)
  rw [show (outline single none cs).2 = none from hc, ← List.cons_append, hn,
    ← List.append_assoc, List.append_assoc, ← List.append_assoc] at h
  constructor
  · simp only [wordsOf, h, List.cons_append, words_append_gap, words_gaps]
  · simp only [leftOpen, h]

end CurlScribe.Word
