import CurlScribe.Proofs.Text.Trim
import CurlScribe.Proofs.Word.Outline

/-! The words of lines that are put together from texts, and of lines that are trimmed. -/
namespace CurlScribe.Word

variable {single : Bool} {quoting : Quoting} {line : String} {ws ts : List String}
  {cs : List Char}

/-- Words and open quotes do not depend on places. -/
theorem split_outline (single : Bool) (cs : List Char) :
    (split single cs).1 = wordsOf single cs ∧
      (split single cs).2.map OpenQuote.mark = leftOpen single cs := by
  have h := outline_eq_scan single none 0 cs
  rw [Option.map_none] at h
  rw [wordsOf, leftOpen, h]
  exact ⟨rfl, rfl⟩

/-- A line has its words unless a quote is refused. -/
theorem ofLine_ok_iff : ofLine quoting line = .ok ws ↔
    ws = (wordsOf quoting.single line.toList).map String.ofList ∧
      (quoting.strict = true → leftOpen quoting.single line.toList = none) := by
  obtain ⟨hw, ho⟩ := split_outline quoting.single line.toList
  rw [← hw, ← ho, ofLine]
  generalize split quoting.single line.toList = found
  obtain ⟨us, final⟩ := found
  have hcomm : us.map String.ofList = ws ↔ ws = us.map String.ofList := eq_comm
  cases final with
  | none => simp [hcomm]
  | some q => cases quoting.strict <;> simp [hcomm]

theorem split_eq_none_iff : (split single cs).2 = none ↔ leftOpen single cs = none := by
  rw [← (split_outline single cs).2, Option.map_eq_none_iff]

/-- Texts that leave no quote open are read one after the other. -/
theorem wordsOf_joined {sep : List Char} (hs : IsSeparator sep) {ts : List (List Char)}
    (ht : ∀ t ∈ ts, leftOpen single t = none) (rest : List Char) :
    wordsOf single (ts.flatMap (· ++ sep) ++ rest) =
        ts.flatMap (wordsOf single) ++ wordsOf single rest ∧
      leftOpen single (ts.flatMap (· ++ sep) ++ rest) = leftOpen single rest := by
  induction ts with
  | nil => simp
  | cons t ts ih =>
    obtain ⟨hw, ho⟩ := ih fun u hu => ht u (by simp [hu])
    have h := outline_append_separator hs (ht t (by simp)) (ts.flatMap (· ++ sep) ++ rest)
    rw [List.flatMap_cons, List.append_assoc, h.1, h.2, hw, ho]
    simp

theorem toList_intercalate_append (sep : String) (ts : List String) {us : List String}
    (hu : us ≠ []) : (sep.intercalate (ts ++ us)).toList =
      (ts.map String.toList).flatMap (· ++ sep.toList) ++ (sep.intercalate us).toList := by
  induction ts with
  | nil => simp
  | cons t ts ih =>
    rw [List.cons_append, String.intercalate_cons_of_ne_nil (by simp [hu])]
    simp [ih]

/-- Texts that leave no quote open are cut apart wherever a separator stands between them. -/
theorem wordsOf_intercalate {sep : String} (hs : IsSeparator sep.toList)
    (h : ∀ t ∈ ts, leftOpen single t.toList = none) :
    wordsOf single (sep.intercalate ts).toList = ts.flatMap (wordsOf single ·.toList) ∧
      leftOpen single (sep.intercalate ts).toList = none := by
  rcases ts.eq_nil_or_concat' with rfl | ⟨init, last, rfl⟩
  · simp [wordsOf, leftOpen, outline, words]
  · have hinit : ∀ t ∈ init.map String.toList, leftOpen single t = none := by
      simpa using fun t ht => h t (by simp [ht])
    obtain ⟨hw, ho⟩ := wordsOf_joined hs hinit last.toList
    rw [toList_intercalate_append sep init (by simp), String.intercalate_singleton, hw, ho,
      h last (by simp)]
    simp [List.flatMap_map]

theorem wordsOf_trimStart (single : Bool) (cs : List Char) :
    wordsOf single (Text.trimStart cs) = wordsOf single cs ∧
      leftOpen single (Text.trimStart cs) = leftOpen single cs := by
  induction cs with
  | nil => exact ⟨rfl, rfl⟩
  | cons c cs ih =>
    cases hc : Text.isBlank c with
    | false => simp [Text.trimStart_cons_of_not hc]
    | true =>
      have hne : c ≠ '\\' := by
        rintro rfl
        exact absurd hc (by decide)
      rw [Text.trimStart_cons hc, ih.1, ih.2]
      simp [wordsOf, leftOpen, outline_cons hne, glance, hc, words]

end CurlScribe.Word
