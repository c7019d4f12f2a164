import CurlScribe.Proofs.Command.Line
import CurlScribe.Proofs.Command.Parse

/-! A command that is broken over several lines is read as the same command on one line. -/
namespace CurlScribe.Command

variable {single : Bool} {options : EmitOptions} {r : Request}

/-- Only an option that is kept from another command can leave a quote open. -/
theorem leftOpen_texts (h : ∀ o ∈ r.rawOptions, Word.leftOpen single o.toList = none) :
    ∀ t ∈ texts options r, Word.leftOpen single t.toList = none := by
  intro t ht
  simp only [texts, List.cons_append, List.mem_cons, List.mem_append, List.mem_map,
    List.not_mem_nil, or_false] at ht
  rcases ht with rfl | (⟨p, hp, rfl⟩ | ho) | rfl
  · exact (isWord_of_isPlain single (show IsPlain "curl" by decide)).leftOpen
  · exact (wordsOf_part single (isKnown_part hp)).2
  · exact h t ho
  · rw [Word.quoted, String.toList_ofList]
    exact Word.leftOpen_quote single (address r).toList

/-- The words of a command are those of its texts, one text after the other. -/
theorem ofLine_emit_eq (quoting : Word.Quoting)
    (h : ∀ o ∈ r.rawOptions, Word.leftOpen quoting.single o.toList = none) :
    Word.ofLine quoting (emit options r) = .ok (((texts options r).flatMap
      (Word.wordsOf quoting.single ·.toList)).map String.ofList) := by
  have htexts : ∀ t ∈ texts options r, Word.leftOpen quoting.single t.toList = none :=
    leftOpen_texts h
  obtain ⟨hw, ho⟩ := Word.wordsOf_intercalate (isSeparator_separator options r) htexts
  refine Word.ofLine_ok_iff.mpr ⟨?_, fun _ => ho⟩
  rw [emit, hw]

/-- Where no kept option leaves a quote open by itself, a command over several lines and the same
command on one line are both read, and as the same words. -/
theorem layout_is_unseen (quoting : Word.Quoting) (options : EmitOptions)
    (h : ∀ o ∈ r.rawOptions, (Word.split quoting.single o.toList).2 = none) :
    ∃ ws, Word.ofLine quoting (emit { options with compact := false } r) = .ok ws ∧
      Word.ofLine quoting (emit { options with compact := true } r) = .ok ws := by
  have hopen : ∀ o ∈ r.rawOptions, Word.leftOpen quoting.single o.toList = none := by
    intro o ho
    have hscan := Word.outline_eq_scan quoting.single none 0 o.toList
    have hnone : (Word.scan quoting.single none 0 o.toList).2 = none := h o ho
    rw [Word.leftOpen, ← Option.map_none, hscan, hnone]
  exact ⟨_, ofLine_emit_eq quoting hopen, ofLine_emit_eq quoting hopen⟩

/-- A request with kept options that hold the end of a line between quotes, a backslash at their
end, and nothing at all. -/
def broken : Request where
  baseUrl := "http://[::1]"
  headers := ⟨[⟨"Accept", "text/plain; charset=utf-8", true⟩]⟩
  rawOptions := ["\"first\nsecond \\\" third\"", "C:\\", "", "--path-as-is"]

theorem broken_is_read_alike :
    (∀ o ∈ broken.rawOptions, (Word.split true o.toList).2 = none) ∧
    emit { compact := false } broken ≠ emit { compact := true } broken ∧
    ∃ ws, Word.ofLine ⟨true, true⟩ (emit { compact := false } broken) = .ok ws ∧
      Word.ofLine ⟨true, true⟩ (emit { compact := true } broken) = .ok ws := by
  have hopen : ∀ o ∈ broken.rawOptions, (Word.split true o.toList).2 = none := by decide
  refine ⟨hopen, ?_, layout_is_unseen ⟨true, true⟩ {} hopen⟩
  decide +kernel

end CurlScribe.Command
