import CurlScribe.Proofs.Word.Joined
import CurlScribe.Proofs.Word.Quote

/-! The words of a line, each read by itself, and all of them read again with blanks between. -/
namespace CurlScribe.Word

variable {single : Bool} {q next : Option Char} {c : Char} {cs ds us rest : List Char}
  {ws : List (List Char)} {final : Option Char}

/-- A text starts with the letters of a word, and then is at its end or at a gap. The letters are
those that the word has by itself. -/
inductive Opening (single : Bool) (q : Option Char) (cs us : List Char) : Prop where
  | whole (hu : outline single q us = outline single q cs)
      (hl : (outline single q cs).1 = us.map .letter)
  | gap (rest : List Char) (hlt : rest.length < cs.length)
      (hu : outline single q us = (us.map .letter, none))
      (hc : outline single q cs =
        (us.map .letter ++ .gap :: (outline single none rest).1, (outline single none rest).2))

/-- Letters in front of a text come in front of its first word. -/
theorem Opening.append {ls : List Char} (ho : Opening single next cs us)
    (hu : outline single q (ls ++ us) =
      (ls.map .letter ++ (outline single next us).1, (outline single next us).2))
    (hd : outline single q ds =
      (ls.map .letter ++ (outline single next cs).1, (outline single next cs).2))
    (hle : cs.length ≤ ds.length) : Opening single q ds (ls ++ us) := by
  cases ho with
  | whole hw hl =>
    refine .whole (by rw [hu, hd, hw]) ?_
    rw [hd, hl, List.map_append]
  | gap rest hlt hw hc =>
    refine .gap rest (by omega) (by rw [hu, hw, List.map_append]) ?_
    rw [hd, hc, List.map_append, List.append_assoc]

/-- The first text starts with the end of a line only where the second does. -/
structure KeepsLineEnd (us cs : List Char) : Prop where
  feed : us.head? = some '\n' → cs.head? = some '\n'
  whole : startsWithLineEnd us = true → startsWithLineEnd cs = true

theorem keepsLineEnd_nil (cs : List Char) : KeepsLineEnd [] cs :=
  ⟨by simp, by simp [startsWithLineEnd]⟩

theorem keepsLineEnd_of_ne (hn : c ≠ '\n') (hr : c ≠ '\x0d') (us cs : List Char) :
    KeepsLineEnd (c :: us) cs := by
  refine ⟨by simp [hn], fun hs => ?_⟩
  unfold startsWithLineEnd at hs
  split at hs <;> simp_all

theorem KeepsLineEnd.cons (h : KeepsLineEnd us cs) (c : Char) :
    KeepsLineEnd (c :: us) (c :: cs) := by
  refine ⟨id, fun hs => ?_⟩
  unfold startsWithLineEnd at hs
  split at hs
  · simp_all [startsWithLineEnd]
  · rename_i heq
    obtain ⟨rfl, rfl⟩ := List.cons_eq_cons.mp heq
    have hcs := h.feed rfl
    cases cs <;> simp_all [startsWithLineEnd]
  · simp at hs

theorem glance_cases (single : Bool) (q : Option Char) (c : Char) :
    (q = none ∧ glance single q c = (.gap, none)) ∨
      ∃ next, glance single q c = (.letter c, next) := by
  cases q with
  | some mark => exact .inr ⟨_, rfl⟩
  | none =>
    simp only [glance]
    split
    · simp
    · split <;> simp

/-- Of a text that is read as this character and then the rest, the character is a gap or comes in
front of the first word of the rest. -/
theorem exists_opening_cons (hc : c ≠ '\\')
    (hd : outline single q ds = outline single q (c :: rest)) (hlt : rest.length < ds.length)
    (ih : ∃ us, Opening single (glance single q c).2 rest us ∧ KeepsLineEnd us rest) :
    ∃ us, Opening single q ds us ∧ (us = [] ∨ ∃ vs, us = c :: vs ∧ KeepsLineEnd vs rest) := by
  obtain ⟨vs, ho, hk⟩ := ih
  rw [outline_cons hc] at hd
  obtain ⟨rfl, hg⟩ | ⟨next, hg⟩ := glance_cases single q c
  · exact ⟨[], .gap rest hlt rfl (by simpa [hg] using hd), .inl rfl⟩
  · have hv : outline single q ([c] ++ vs) = _ := outline_cons hc
    rw [hg] at hd ho hv
    exact ⟨[c] ++ vs, ho.append hv hd (by omega), .inr ⟨vs, rfl, hk⟩⟩

/-- Every text has a first word. It does not start with the end of a line where the text does not,
so a backslash in front of it takes away no more than before. -/
theorem exists_opening (single : Bool) (hq : q ≠ some '\\') (cs : List Char) :
    ∃ us, Opening single q cs us ∧ KeepsLineEnd us cs := by
  induction q, cs using outline_induction single with
  | nil q => exact ⟨[], .whole rfl rfl, keepsLineEnd_nil _⟩
  | feed q rest ih =>
    obtain ⟨us, ho, rfl | ⟨vs, rfl, -⟩⟩ := exists_opening_cons (by decide)
      (outline_feed q rest) (by simp only [List.length_cons]; omega)
      (ih (glance_ne_backslash single ' ' hq))
    · exact ⟨[], ho, keepsLineEnd_nil _⟩
    · exact ⟨_, ho, keepsLineEnd_of_ne (by decide) (by decide) _ _⟩
  | returnFeed q rest ih =>
    obtain ⟨us, ho, rfl | ⟨vs, rfl, -⟩⟩ := exists_opening_cons (by decide)
      (outline_returnFeed q rest) (by simp only [List.length_cons]; omega)
      (ih (glance_ne_backslash single ' ' hq))
    · exact ⟨[], ho, keepsLineEnd_nil _⟩
    · exact ⟨_, ho, keepsLineEnd_of_ne (by decide) (by decide) _ _⟩
  | shielding c rest hno ih =>
    obtain ⟨us, ho, hk⟩ := ih hq
    have hus : startsWithLineEnd (c :: us) = false :=
      Bool.eq_false_iff.mpr fun hs => by simp [(hk.cons c).whole hs] at hno
    exact ⟨['\\', c] ++ us, ho.append (outline_shielding hus) (outline_shielding hno)
      (by simp only [List.length_cons]; omega), keepsLineEnd_of_ne (by decide) (by decide) _ _⟩
  | final => exact ⟨['\\'], .whole rfl rfl, keepsLineEnd_of_ne (by decide) (by decide) _ _⟩
  | backslash q rest hd hno ih =>
    obtain ⟨us, ho, hk⟩ := ih hq
    have hus : startsWithLineEnd us = false :=
      Bool.eq_false_iff.mpr fun hs => by simp [hk.whole hs] at hno
    exact ⟨['\\'] ++ us, ho.append (outline_backslash hq hd hus) (outline_backslash hq hd hno)
      (by simp), keepsLineEnd_of_ne (by decide) (by decide) _ _⟩
  | cons q c rest hc ih =>
    obtain ⟨us, ho, rfl | ⟨vs, rfl, hk⟩⟩ := exists_opening_cons hc rfl
      (Nat.lt_succ_self rest.length) (ih (glance_ne_backslash single c hq))
    · exact ⟨[], ho, keepsLineEnd_nil _⟩
    · exact ⟨_, ho, hk.cons c⟩

/-- Texts that are one word each when they are read by themselves; the last may leave a quote
open. -/
inductive AreWords (single : Bool) : List (List Char) → Option Char → Prop where
  | nil : AreWords single [] none
  | last {w : List Char} {final : Option Char} (hne : w ≠ [])
      (hw : outline single none w = (w.map .letter, final)) : AreWords single [w] final
  | cons {w : List Char} {ws : List (List Char)} {final : Option Char} (hw : IsWord single w)
      (hws : AreWords single ws final) : AreWords single (w :: ws) final

theorem areWords_wordsOf (single : Bool) (cs : List Char) :
    AreWords single (wordsOf single cs) (leftOpen single cs) := by
  obtain ⟨us, ho, -⟩ := exists_opening single (q := none) (by simp) cs
  cases ho with
  | whole hw hl =>
    by_cases hus : us = []
    · subst hus
      rw [wordsOf, leftOpen, ← hw]
      exact .nil
    · rw [wordsOf, hl, words_letters hus]
      exact .last hus (Prod.ext (by rw [hw, hl]) (by rw [hw]; rfl))
  | gap rest hlt hu hc =>
    have ih := areWords_wordsOf single rest
    have hopen : leftOpen single cs = leftOpen single rest := by rw [leftOpen, hc]; rfl
    rw [wordsOf, hc, words_append_gap, hopen]
    by_cases hus : us = []
    · subst hus
      exact ih
    · rw [words_letters hus]
      exact .cons ⟨hus, hu⟩ ih
termination_by cs.length

namespace AreWords

theorem ne_nil (h : AreWords single ws final) : ∀ w ∈ ws, w ≠ [] := by
  induction h with
  | nil => simp
  | last hne _ => simpa using hne
  | cons hw _ ih => exact List.forall_mem_cons.mpr ⟨hw.1, ih⟩

theorem isWord (h : AreWords single ws none) : ∀ w ∈ ws, IsWord single w := by
  generalize hf : none = final at h
  induction h with
  | nil => simp
  | last hne hw =>
    subst hf
    simpa using ⟨hne, hw⟩
  | cons hw _ ih => exact List.forall_mem_cons.mpr ⟨hw, ih hf⟩

theorem isWord_dropLast (h : AreWords single ws final) : ∀ w ∈ ws.dropLast, IsWord single w := by
  induction h with
  | nil => simp
  | last _ _ => simp
  | @cons w ws final hw hws ih =>
    cases ws with
    | nil => simp
    | cons v vs =>
      rw [List.dropLast_cons_cons]
      exact List.forall_mem_cons.mpr ⟨hw, ih⟩

/-- With a blank between every two of them they are cut apart again. -/
theorem wordsOf_joined (h : AreWords single ws final) :
    wordsOf single ([' '].intercalate ws) = ws := by
  induction h with
  | nil => rfl
  | last hne hw => simp [wordsOf, hw, words_letters hne]
  | @cons w ws final hw hws ih =>
    cases ws with
    | nil => simp [hw.wordsOf]
    | cons v vs =>
      have hcut := outline_append_separator isSeparator_blank hw.leftOpen
        ([' '].intercalate (v :: vs))
      rw [List.intercalate_cons_cons, hcut.1, hw.wordsOf, ih]
      rfl

end AreWords

/-- Where a quote that stays open takes the rest of a line, the line has words: none is empty, only
the last can have an open quote, and with a blank between every two they are cut apart again. -/
theorem joined_words_are_cut_alike (single : Bool) (line : String) :
    ∃ ws, ofLine ⟨single, false⟩ line = .ok ws ∧ (∀ w ∈ ws, w ≠ "") ∧
      (∀ w ∈ ws.dropLast, (split single w.toList).2 = none) ∧
      ofLine ⟨single, false⟩ (" ".intercalate ws) = .ok ws := by
  have h := areWords_wordsOf single line.toList
  have hof : ((wordsOf single line.toList).map String.ofList).map String.toList =
      wordsOf single line.toList := by
    simp [Function.comp_def]
  refine ⟨_, ofLine_ok_iff.mpr ⟨rfl, by simp⟩, ?_, ?_, ?_⟩
  · simpa using h.ne_nil
  · intro w hw
    rw [← List.map_dropLast] at hw
    obtain ⟨v, hv, rfl⟩ := List.mem_map.mp hw
    rw [split_eq_none_iff, String.toList_ofList]
    exact (h.isWord_dropLast v hv).leftOpen
  · refine ofLine_ok_iff.mpr ⟨?_, by simp⟩
    rw [String.toList_intercalate, hof]
    exact congrArg (List.map String.ofList) h.wordsOf_joined.symm

/-- The backslash that takes the end of the line away is no part of a word, unless it is shielded
itself. -/
example : ofLine ⟨false, false⟩ "a\\\nb \"c\\\\\nd" = .ok ["a", "b", "\"c\\\\\nd"] := by decide

end CurlScribe.Word
