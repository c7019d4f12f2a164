import CurlScribe.Proofs.Word.Stable
import CurlScribe.Proofs.Word.Unclosed

/-! Texts that are written as the words of one line, and read back from it. -/
namespace CurlScribe.Word

variable {single : Bool} {c : Char} {w cs : List Char} {ps : List Piece} {text : String}

theorem mem_of_mem_words (hw : w ∈ words ps) (hc : c ∈ w) : .letter c ∈ ps := by
  fun_induction words ps generalizing w with
  | case1 => simp at hw
  | case2 rest ih => exact List.mem_cons_of_mem _ (ih hw hc)
  | case3 d e rest v vs hv ih =>
    rw [hv] at ih
    rcases List.mem_cons.mp hw with rfl | hw
    · rcases List.mem_cons.mp hc with rfl | hc
      · exact List.mem_cons_self
      · exact List.mem_cons_of_mem _ (ih List.mem_cons_self hc)
    · exact List.mem_cons_of_mem _ (ih (List.mem_cons_of_mem _ hw) hc)
  | case4 d e rest hnil ih => exact (words_letter_ne_nil e rest hnil).elim
  | case5 d rest _ ih =>
    rcases List.mem_cons.mp hw with rfl | hw
    · simp_all
    · exact List.mem_cons_of_mem _ (ih hw hc)

/-- The words of a text that needs no quotes need none either, and have no blanks. -/
theorem plain_of_mem_wordsOf (h : ∀ c ∈ cs, needsQuotes c = false) (hw : w ∈ wordsOf single cs) :
    ∀ c ∈ w, needsQuotes c = false ∧ Text.isBlank c = false := by
  intro c hc
  rw [wordsOf, outline_of_plain h] at hw
  obtain ⟨d, hd, hp⟩ := List.mem_map.mp (mem_of_mem_words hw hc)
  split at hp
  · simp at hp
  · rename_i hb
    obtain rfl : d = c := by simpa using hp
    exact ⟨h d hd, by simpa using hb⟩

theorem quote_of_plain (hne : cs ≠ []) (h : ∀ c ∈ cs, needsQuotes c = false) : quote cs = cs := by
  have hany : cs.any needsQuotes = false := by simpa using h
  rw [quote, hany, List.isEmpty_eq_false_iff.mpr hne]
  rfl

/-- Whatever a written text is cut into stands for unbroken texts. -/
theorem unbroken_of_mem_wordsOf_quote (hw : w ∈ wordsOf single (quote text.toList)) :
    Unbroken (String.ofList (unquote w)) := by
  by_cases hu : Unbroken text
  · rw [(isWord_quote single hu).wordsOf, List.mem_singleton] at hw
    rwa [hw, unquote_quote, String.ofList_toList]
  · obtain ⟨⟨b, hb, -⟩, hnone⟩ := Classical.not_imp.mp hu
    have hplain : ∀ c ∈ text.toList, needsQuotes c = false := by simpa using hnone
    rw [quote_of_plain (List.ne_nil_of_mem hb) hplain] at hw
    have hword := plain_of_mem_wordsOf hplain hw
    have hself : unquote w = w := unquote_of_plain fun c hc => (hword c hc).1
    rintro ⟨c, hc, hblank⟩
    rw [hself, String.toList_ofList] at hc
    simp [(hword c hc).2] at hblank

theorem isSeparator_of_mem {sep : String} (hs : sep ∈ [" ", " \\\n  "]) :
    IsSeparator sep.toList := by
  simp only [List.mem_cons, List.not_mem_nil, or_false] at hs
  rcases hs with rfl | rfl
  · exact isSeparator_blank
  · exact isSeparator_continuation

/-- A line of written texts is cut into what each of them is cut into. -/
theorem wordsOf_quoted {sep : String} (hs : IsSeparator sep.toList) (texts : List String) :
    wordsOf single (sep.intercalate (texts.map quoted)).toList =
        texts.flatMap (fun t => wordsOf single (quote t.toList)) ∧
      leftOpen single (sep.intercalate (texts.map quoted)).toList = none := by
  have hclosed : ∀ t ∈ texts.map quoted, leftOpen single t.toList = none := by
    intro t ht
    obtain ⟨u, -, rfl⟩ := List.mem_map.mp ht
    rw [quoted, String.toList_ofList]
    exact leftOpen_quote single u.toList
  obtain ⟨hw, ho⟩ := wordsOf_intercalate hs hclosed
  refine ⟨?_, ho⟩
  rw [hw, List.flatMap_map]
  simp [quoted]

theorem wordsOf_unbroken {texts : List String} (h : ∀ text ∈ texts, Unbroken text) :
    texts.flatMap (fun t => wordsOf single (quote t.toList)) =
      texts.map fun t => quote t.toList := by
  rw [List.map_eq_flatMap]
  exact List.flatMap_congr fun t ht => (isWord_quote single (h t ht)).wordsOf

/-- Texts that are written as words, with a separator between every two, make a line that leaves no
quote open, and neither does any of its words. There are as many words as texts and they stand for
the texts one by one exactly where no text has a blank without having anything that needs quotes. -/
theorem quoted_texts_read_back_iff (quoting : Quoting) {sep : String}
    (hs : sep ∈ [" ", " \\\n  "]) (texts : List String) :
    ∃ ws, ofLine quoting (sep.intercalate (texts.map quoted)) = .ok ws ∧
      (∀ w ∈ ws, (split quoting.single w.toList).2 = none) ∧
      (ws.length = texts.length ∧ ws.map unquoted = texts ↔ ∀ text ∈ texts, Unbroken text) := by
  obtain ⟨hwords, hopen⟩ := wordsOf_quoted (isSeparator_of_mem hs) texts
  have hall := areWords_wordsOf quoting.single (sep.intercalate (texts.map quoted)).toList
  rw [hopen] at hall
  refine ⟨_, ofLine_ok_iff.mpr ⟨rfl, fun _ => hopen⟩, fun w hw => ?_, ?_⟩
  · obtain ⟨v, hv, rfl⟩ := List.mem_map.mp hw
    rw [split_eq_none_iff, String.toList_ofList]
    exact (hall.isWord v hv).leftOpen
  · rw [hwords]
    refine ⟨?_, fun h => ?_⟩
    · rintro ⟨-, h⟩ text ht
      rw [← h] at ht
      obtain ⟨w, hw, rfl⟩ := List.mem_map.mp ht
      obtain ⟨v, hv, rfl⟩ := List.mem_map.mp hw
      obtain ⟨t, -, hv⟩ := List.mem_flatMap.mp hv
      rw [unquoted, String.toList_ofList]
      exact unbroken_of_mem_wordsOf_quote hv
    · rw [wordsOf_unbroken h]
      simp [Function.comp_def, unquoted, unquote_quote]

/-- Texts with quotes, line ends and backslashes at their ends, and an empty one. -/
def awkward : List String := ["a \"b\\", "\\\n", "", "$(c)\r\n'd'", "e\\\r\n "]

theorem awkward_reads_back : " \\\n  " ∈ [" ", " \\\n  "] ∧ (∀ text ∈ awkward, Unbroken text) ∧
    ∃ ws, ofLine ⟨true, true⟩ (" \\\n  ".intercalate (awkward.map quoted)) = .ok ws ∧
      ws.length = 5 ∧ ws.map unquoted = awkward := by
  have hsep : " \\\n  " ∈ [" ", " \\\n  "] := by simp
  have hall : ∀ text ∈ awkward, Unbroken text := by
    have hplain : ∀ text ∈ awkward, HasPlainBlanks text := by decide
    exact fun text ht => unbroken_of_plain_blanks (hplain text ht)
  obtain ⟨ws, hw, -, hback⟩ := quoted_texts_read_back_iff ⟨true, true⟩ hsep awkward
  exact ⟨hsep, hall, ws, hw, hback.mpr hall⟩

/-- A blank that gets no quotes: the text with it is two words. -/
theorem spaced_does_not_read_back :
    ofLine {} (" ".intercalate (["a\u00a0b"].map quoted)) = .ok ["a", "b"] ∧
      ["a", "b"].map unquoted ≠ ["a\u00a0b"] := by
  decide

/-! A shielded text between double quotes, and behind a quote that stays open. The last character
tells the two apart only where it is not shielded. -/

theorem unshield_shield_append (cs rest : List Char) :
    unshield (shield cs ++ rest) = cs ++ unshield rest := by
  induction cs with
  | nil => rfl
  | cons c cs ih =>
    cases hc : isShielded c with
    | true => simp [shield_cons, hc, unshield, ih]
    | false => simp [shield_cons, hc, unshield_cons hc, ih]

theorem shield_concat (cs : List Char) (c : Char) :
    shield (cs ++ [c]) = shield cs ++ if isShielded c then ['\\', c] else [c] := by
  simp [shield]

theorem unquote_open (h : cs.getLast? ≠ some '"') : unquote ('"' :: shield cs) = cs := by
  have hlast : (shield cs).getLast? ≠ some '"' := by
    obtain rfl | ⟨init, last, rfl⟩ := cs.eq_nil_or_concat'
    · simp [shield]
    · rw [shield_concat]
      split <;> simpa using h
  rw [unquote, dropFinal, if_neg hlast, unshield_shield]

/-- A shielded quote at the end is taken for the second quote, and its backslash stays. -/
theorem unquote_open_quote (cs : List Char) :
    unquote ('"' :: shield (cs ++ ['"'])) = cs ++ ['\\'] := by
  have hend : shield (cs ++ ['"']) = shield cs ++ ['\\'] ++ ['"'] := by
    simp [shield_concat, isShielded]
  rw [unquote, hend, dropFinal_append, unshield_shield_append]
  rfl

theorem closes_shield (cs : List Char) : closes '"' (shield cs) = false := by
  induction cs with
  | nil => rfl
  | cons c cs ih =>
    cases hc : isShielded c with
    | true => simpa [shield_cons, hc, closes_shielding] using ih
    | false =>
      have hne : c ≠ '"' ∧ c ≠ '\\' := by
        constructor <;> rintro rfl <;> simp [isShielded] at hc
      have hplain : closes '"' (c :: shield cs) = (c == '"' || closes '"' (shield cs)) :=
        closes_cons fun h => (hne.2 h).elim
      simp [shield_cons, hc, hplain, hne.1, ih]

theorem split_open (single : Bool) (cs : List Char) :
    split single ('"' :: shield cs) = (['"' :: shield cs], some ⟨'"', 0⟩) := by
  have hletters : wordsOf single ('"' :: shield cs) = ['"' :: shield cs] := by
    have hrest : outline single (some '"') (shield cs ++ []) = _ := outline_shield cs []
    rw [List.append_nil] at hrest
    have hg : glance single none '"' = (.letter '"', some '"') := rfl
    rw [wordsOf, outline_cons (by decide), hg, hrest]
    have hone : words (('"' :: shield cs).map .letter) = ['"' :: shield cs] :=
      words_letters (by simp)
    simpa [outline] using hone
  have hopen : IsLeftOpen single ('"' :: shield cs) ⟨'"', 0⟩ :=
    ⟨[], shield cs, rfl, rfl, rfl, .inl rfl, closes_shield cs⟩
  exact Prod.ext ((split_outline _ _).1.trans hletters) (split_eq_some_iff.mpr hopen)

/-- Between double quotes a shielded text stands for the text. Where the second quote is missing, it
is the only word of its line, with the quote left open at the start, and stands for the text exactly
where the text does not end in a double quote. -/
theorem shielded_text_is_recovered_iff (text : String) :
    unquoted (String.ofList ('"' :: shield text.toList ++ ['"'])) = text ∧
      (∀ single, split single ('"' :: shield text.toList) =
        (['"' :: shield text.toList], some ⟨'"', 0⟩)) ∧
      (unquoted (String.ofList ('"' :: shield text.toList)) = text ↔
        text.toList.getLast? ≠ some '"') := by
  refine ⟨?_, fun single => split_open single text.toList, fun h hlast => ?_, fun h => ?_⟩
  · rw [unquoted, String.toList_ofList, List.cons_append, unquote, dropFinal_append,
      unshield_shield, String.ofList_toList]
  · obtain ⟨init, hinit⟩ := List.getLast?_eq_some_iff.mp hlast
    rw [unquoted, String.toList_ofList, hinit, unquote_open_quote] at h
    have hends := congrArg String.toList h
    rw [String.toList_ofList, hinit] at hends
    simp at hends
  · rw [unquoted, String.toList_ofList, unquote_open h, String.ofList_toList]

/-- A double quote alone comes back as a backslash when the second quote is missing. -/
theorem shielded_quote_is_not_recovered :
    unquoted (String.ofList ('"' :: shield "\"".toList)) = "\\" ∧ "\\" ≠ "\"" := by
  decide

end CurlScribe.Word
