import CurlScribe.Proofs.Word.Outline

/-! Texts written as words, and read back from them. -/
namespace CurlScribe.Word

variable {single : Bool} {c : Char} {cs rest : List Char}

theorem shield_cons (c : Char) (cs : List Char) :
    shield (c :: cs) = (if isShielded c then ['\\', c] else [c]) ++ shield cs := by
  simp [shield]

theorem unshield_cons (h : isShielded c = false) : unshield (c :: cs) = c :: unshield cs := by
  rw [unshield]
  rintro d more rfl
  simp [isShielded] at h

theorem unshield_shield (cs : List Char) : unshield (shield cs) = cs := by
  induction cs with
  | nil => rfl
  | cons c cs ih =>
    by_cases hc : isShielded c
    · simp [shield_cons, hc, unshield, ih]
    · rw [shield_cons, if_neg hc]
      simp [unshield_cons (Bool.eq_false_iff.mpr hc), ih]

theorem dropFinal_append (q : Char) (cs : List Char) : dropFinal q (cs ++ [q]) = cs := by
  simp [dropFinal]

theorem unquote_of_plain (h : ∀ c ∈ cs, needsQuotes c = false) : unquote cs = cs := by
  cases cs with
  | nil => rfl
  | cons c cs =>
    have hc := h c (by simp)
    unfold unquote
    split
    · simp_all [needsQuotes]
    · simp_all [needsQuotes]
    · rfl

theorem unquote_quote (cs : List Char) : unquote (quote cs) = cs := by
  unfold quote
  split
  · simp [unquote, dropFinal_append, unshield_shield]
  · rename_i h
    exact unquote_of_plain (by simp_all)

theorem unquoted_quoted (text : String) : unquoted (quoted text) = text := by
  simp [unquoted, quoted, unquote_quote]

/-! Between double quotes, what is shielded stays between them. -/

theorem outline_shielded (h : isShielded c = true) :
    outline single (some '"') ('\\' :: c :: rest) =
      (.letter '\\' :: .letter c :: (outline single (some '"') rest).1,
        (outline single (some '"') rest).2) := by
  refine outline_shielding (startsWithLineEnd_eq_false ?_ ?_)
  · rintro rfl
    simp [isShielded] at h
  · rintro more rfl
    simp [isShielded] at h

theorem outline_shield (cs rest : List Char) :
    outline single (some '"') (shield cs ++ rest) =
      ((shield cs).map .letter ++ (outline single (some '"') rest).1,
        (outline single (some '"') rest).2) := by
  induction cs with
  | nil => simp [shield]
  | cons c cs ih =>
    by_cases hc : isShielded c
    · simp [shield_cons, hc, outline_shielded, ih]
    · have hne : c ≠ '\\' ∧ c ≠ '"' := by
        constructor <;> rintro rfl <;> simp [isShielded] at hc
      simp [shield_cons, hc, outline_cons hne.1, glance, hne.2, ih]

/-- A text that is one word as it is written: it gets quotes, or has no blank to be cut at. -/
def Unbroken (text : String) : Prop :=
  (∃ c ∈ text.toList, Text.isBlank c = true) → ∃ c ∈ text.toList, needsQuotes c = true

/-- Its only blanks are spaces, tabs and the ends of lines. -/
def HasPlainBlanks (text : String) : Prop :=
  ∀ c ∈ text.toList, Text.isBlank c = true → c ∈ [' ', '\t', '\n', '\x0d']

instance (text : String) : Decidable (HasPlainBlanks text) :=
  List.decidableBAll _ text.toList

theorem unbroken_of_plain_blanks {text : String} (h : HasPlainBlanks text) : Unbroken text := by
  rintro ⟨c, hc, hb⟩
  have hq : [' ', '\t', '\n', '\x0d'].all needsQuotes = true := by decide
  exact ⟨c, hc, List.all_eq_true.mp hq c (h c hc hb)⟩

theorem not_blank_of_unbroken {text : String} (h : Unbroken text)
    (hq : ∀ c ∈ text.toList, needsQuotes c = false) :
    ∀ c ∈ text.toList, Text.isBlank c = false := by
  intro c hc
  cases hb : Text.isBlank c with
  | false => rfl
  | true =>
    obtain ⟨d, hd, hdq⟩ := h ⟨c, hc, hb⟩
    simp [hq d hd] at hdq

/-- A written text is in quotes, or is not empty and needs none. -/
theorem quote_cases (cs : List Char) :
    quote cs = '"' :: shield cs ++ ['"'] ∨
      (quote cs = cs ∧ cs ≠ [] ∧ ∀ c ∈ cs, needsQuotes c = false) := by
  unfold quote
  split
  · exact .inl rfl
  · rename_i hq
    simp only [Bool.or_eq_true, List.isEmpty_iff, List.any_eq_true, not_or, not_exists,
      not_and, Bool.not_eq_true] at hq
    exact .inr ⟨rfl, hq⟩

/-- Read from outside quotes, the characters are one word and leave no quote open. -/
def IsWord (single : Bool) (cs : List Char) : Prop :=
  cs ≠ [] ∧ outline single none cs = (cs.map .letter, none)

theorem IsWord.wordsOf (h : IsWord single cs) : wordsOf single cs = [cs] := by
  rw [Word.wordsOf, h.2, words_letters h.1]

theorem IsWord.leftOpen (h : IsWord single cs) : leftOpen single cs = none := by
  rw [Word.leftOpen, h.2]

/-- A text that needs no quotes has none, and its blanks are gaps. -/
theorem outline_of_plain (h : ∀ c ∈ cs, needsQuotes c = false) :
    outline single none cs =
      (cs.map fun c => if Text.isBlank c then .gap else .letter c, none) := by
  induction cs with
  | nil => rfl
  | cons c cs ih =>
    have hc := h c (by simp)
    have hne : c ≠ '\\' ∧ c ≠ '"' ∧ c ≠ '\'' := by
      refine ⟨?_, ?_, ?_⟩ <;> rintro rfl <;> simp [needsQuotes] at hc
    have hg : glance single none c = (if Text.isBlank c then .gap else .letter c, none) := by
      simp only [glance, hne.2.1, hne.2.2]
      split <;> simp
    rw [outline_cons hne.1, hg, ih fun d hd => h d (by simp [hd]), List.map_cons]

theorem isWord_of_plain (hne : cs ≠ [])
    (h : ∀ c ∈ cs, needsQuotes c = false ∧ Text.isBlank c = false) : IsWord single cs := by
  refine ⟨hne, ?_⟩
  rw [outline_of_plain fun c hc => (h c hc).1]
  congr 1
  exact List.map_congr_left fun c hc => by simp [(h c hc).2]

theorem isWord_between_quotes (single : Bool) (cs : List Char) :
    IsWord single ('"' :: shield cs ++ ['"']) := by
  refine ⟨by simp, ?_⟩
  rw [List.cons_append, outline_cons (by decide)]
  simp [glance, show Text.isBlank '"' = false by decide, outline_shield, outline]

theorem isWord_quote (single : Bool) {text : String} (h : Unbroken text) :
    IsWord single (quote text.toList) := by
  rcases quote_cases text.toList with hq | ⟨hq, hne, hplain⟩
  · rw [hq]
    exact isWord_between_quotes single text.toList
  · rw [hq]
    exact isWord_of_plain hne fun c hc => ⟨hplain c hc, not_blank_of_unbroken h hplain c hc⟩

/-- A written text leaves no quote open, whatever blanks it has. -/
theorem leftOpen_quote (single : Bool) (cs : List Char) : leftOpen single (quote cs) = none := by
  rcases quote_cases cs with hq | ⟨hq, -, hplain⟩
  · rw [hq]
    exact (isWord_between_quotes single cs).leftOpen
  · rw [hq]
    rw [leftOpen, outline_of_plain hplain]

end CurlScribe.Word
