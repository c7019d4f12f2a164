import CurlScribe.Proofs.Command.Parse

/-! Commands with blank space and continued lines around them. In front these are never seen.
Behind, the blank that ends the last continued line is trimmed away before its backslash is looked
at, so that the backslash becomes an argument. -/
namespace CurlScribe.Command

variable {o : CommandOptions} {d : Draft} {policy : Repeated} {c w : String} {us : List String}

/-! A margin in front. -/

theorem parse_margin_in_front (hopen : Word.leftOpen o.quoting.single c.toList = none)
    (hw : Word.IsMargin w.toList) (hc : Text.blank c = false) : parse o (w ++ c) = parse o c := by
  have hclosed : Word.leftOpen o.quoting.single (w ++ c).toList = none := by
    rw [String.toList_append, (Word.wordsOf_margin_append _ hw _).2, hopen]
  have hwords : Word.wordsOf o.quoting.single (Text.trim (w ++ c).toList) =
      Word.wordsOf o.quoting.single (Text.trim c.toList) := by
    rw [String.toList_append, Word.wordsOf_margin_in_front hw (Text.exists_of_not_blank hc)]
  rw [parse_of_closed hclosed, parse_of_closed hopen, hwords, Text.blank_append, hc,
    Bool.and_false]

/-! A margin behind. -/

theorem parse_blank_behind (hw : Text.blank w = true) : parse o (c ++ " " ++ w) = parse o c := by
  have hall : ∀ b ∈ w.toList, Text.isBlank b = true := by simpa [Text.blank] using hw
  have hspace : Text.isBlank ' ' = true := by decide
  apply parse_of_trim_eq
  have hsplit : (c ++ " " ++ w).toList = c.toList ++ ' ' :: w.toList := by simp
  rw [hsplit, Text.trim_append_blanks (List.forall_mem_cons.mpr ⟨hspace, hall⟩)]

/-- What a command says with a lone backslash behind it. -/
theorem parse_backslash_behind (front back : List Char)
    (hopen : Word.leftOpen o.quoting.single c.toList = none) (hfront : Word.IsMargin front)
    (hback : ∀ b ∈ back, Text.isBlank b = true) (hw : w.toList = front ++ '\\' :: back) :
    parse o (c ++ " " ++ w) = (interpret o
      ((Word.wordsOf o.quoting.single c.toList).map String.ofList ++ ["\\"])).normalize := by
  have hsplit : (c ++ " " ++ w).toList = c.toList ++ ' ' :: (front ++ '\\' :: back) := by simp [hw]
  obtain ⟨hwords, hclosed⟩ := Word.wordsOf_backslash_behind hfront hback hopen
  rw [← hsplit] at hwords hclosed
  have hspoken : Text.blank (c ++ " " ++ w) = false :=
    Text.blank_of_mem (c := '\\') (by simp [hw]) (by decide)
  have hlast : String.ofList ['\\'] = "\\" := rfl
  rw [parse_of_closed hclosed, hwords, hspoken, List.map_append, List.map_singleton, hlast,
    if_neg (by simp)]

/-- A margin that is not blank counts as its last backslash. -/
theorem parse_margin_behind (hopen : Word.leftOpen o.quoting.single c.toList = none)
    (hw : Word.IsMargin w.toList) (hn : Text.blank w = false) :
    parse o (c ++ " " ++ w) = parse o (c ++ " " ++ "\\") := by
  obtain hall | ⟨front, back, hsplit, hfront, hback⟩ := Word.exists_last_backslash hw
  · obtain ⟨b, hb, hblank⟩ := Text.exists_of_not_blank hn
    simp [hall b hb] at hblank
  · rw [parse_backslash_behind front back hopen hfront hback hsplit,
      parse_backslash_behind [] [] (w := "\\") hopen .nil (by simp) (by simp)]

/-! The backslash as an argument. -/

theorem follow_backslash (d : Draft) : follow policy d ["\\"] = keep ["\\"] d := by
  have hread : read "\\" = .argument := rfl
  rw [follow_argument hread]
  rfl

theorem spokenWords_append_backslash (us : List String) :
    spokenWords (us ++ ["\\"]) = spokenWords us ++ ["\\"] := by
  cases us with
  | nil =>
    have hname : isProgramName "\\" = false := by decide +kernel
    simp [spokenWords, hname]
  | cons word rest =>
    simp only [List.cons_append, spokenWords]
    split <;> rfl

theorem interpret_append_backslash (h : waits (spokenWords us) = false) :
    interpret o (us ++ ["\\"]) = keep ["\\"] (interpret o us) := by
  rw [interpret_eq, spokenWords_append_backslash, follow_append h, follow_backslash, interpret_eq]

/-- A word more among the kept ones shows in every request. -/
theorem normalize_keep_backslash (hd : IsRead policy d) :
    (keep ["\\"] d).normalize = d.normalize ↔ d.normalize = .error .missingUrl := by
  have hurl : (keep ["\\"] d).url = d.url := rfl
  rw [normalize_of_isRead hd, normalize_of_isRead (isRead_keep hd _), hurl]
  cases Text.nonBlank d.url with
  | none => simp
  | some u =>
    have hraw : ((keep ["\\"] d).requestAt u).rawOptions =
        (d.requestAt u).rawOptions ++ ["\\"] := by
      have hkept : (keep ["\\"] d).rawOptions = d.rawOptions ++ ["\\"] := rfl
      simp [Draft.requestAt, hkept]
    have hne : (keep ["\\"] d).requestAt u ≠ d.requestAt u := by
      intro h
      rw [h] at hraw
      simp at hraw
    simp [hne]

/-- A command with nothing to come: its end is not blank, and no option lacks its value. -/
structure IsComplete (o : CommandOptions) (c : String) : Prop where
  trimmed : Text.trimEnd c.toList = c.toList
  valued : waits (spokenWords ((Word.wordsOf o.quoting.single c.toList).map String.ofList)) = false

theorem parse_backslash_iff (hopen : Word.leftOpen o.quoting.single c.toList = none)
    (hc : IsComplete o c) :
    parse o (c ++ " " ++ "\\") = parse o c ↔ parse o c = .error .missingUrl := by
  have hbehind : parse o (c ++ " " ++ "\\") = (keep ["\\"] (interpret o
      ((Word.wordsOf o.quoting.single c.toList).map String.ofList))).normalize := by
    rw [parse_backslash_behind [] [] hopen .nil (by simp) (by simp),
      interpret_append_backslash hc.valued]
  cases hblank : Text.blank c with
  | true =>
    have hspoken : Text.blank (c ++ " " ++ "\\") = false :=
      Text.blank_of_mem (c := '\\') (by simp) (by decide)
    rw [parse_eq_emptyInput_iff.mpr hblank]
    simp [parse_eq_emptyInput_iff, hspoken]
  | false =>
    have hparse : parse o c = (interpret o
        ((Word.wordsOf o.quoting.single c.toList).map String.ofList)).normalize := by
      rw [parse_of_closed hopen, hblank, Word.wordsOf_trim, hc.trimmed, if_neg (by simp)]
    rw [hbehind, hparse, normalize_keep_backslash (isRead_interpret _)]

/-- In front of a command a margin is not seen, unless the command is blank and the margin is not.
Behind it blanks are not seen, and a continued line is seen where a lone backslash would be: after a
complete command, always when the command makes a request. -/
theorem margin_is_unseen_iff (hopen : (Word.split o.quoting.single c.toList).2 = none)
    (hw : Word.IsMargin w.toList) :
    (parse o (w ++ c) = parse o c ↔ (Text.blank c = true → Text.blank w = true)) ∧
      (parse o (c ++ " " ++ w) = parse o c ↔
        Text.blank w = true ∨ parse o (c ++ " " ++ "\\") = parse o c) ∧
      (IsComplete o c → (parse o (c ++ " " ++ w) = parse o c ↔
        Text.blank w = true ∨ parse o c = .error .missingUrl)) := by
  have hclosed := Word.split_eq_none_iff.mp hopen
  have hbehind : parse o (c ++ " " ++ w) = parse o c ↔
      Text.blank w = true ∨ parse o (c ++ " " ++ "\\") = parse o c := by
    cases hn : Text.blank w with
    | true => simp [parse_blank_behind hn]
    | false => simp [parse_margin_behind hclosed hw hn]
  refine ⟨⟨fun h hc => ?_, fun h => ?_⟩, hbehind, fun hc => ?_⟩
  · rw [parse_eq_emptyInput_iff.mpr hc, parse_eq_emptyInput_iff, Text.blank_append,
      Bool.and_eq_true] at h
    exact h.1
  · cases hc : Text.blank c with
    | true =>
      rw [parse_eq_emptyInput_iff.mpr hc, parse_eq_emptyInput_iff, Text.blank_append, h hc, hc,
        Bool.and_self]
    | false => exact parse_margin_in_front hclosed hw hc
  · rw [hbehind, parse_backslash_iff hclosed hc]

theorem continued_in_front_is_unseen :
    (Word.split false "curl http://[::1]/".toList).2 = none ∧
      Word.IsMargin "\t\\\r\n\\\n".toList ∧ IsComplete {} "curl http://[::1]/" ∧
      parse {} ("\t\\\r\n\\\n" ++ "curl http://[::1]/") = parse {} "curl http://[::1]/" ∧
      parse {} ("curl http://[::1]/" ++ " " ++ "\t\\\r\n\\\n") ≠
        parse {} "curl http://[::1]/" := by
  have hopen : (Word.split false "curl http://[::1]/".toList).2 = none := by decide +kernel
  have hw : Word.IsMargin "\t\\\r\n\\\n".toList := .blank (by decide) (.returnFeed (.feed .nil))
  have hc : IsComplete {} "curl http://[::1]/" := ⟨by decide +kernel, by decide +kernel⟩
  have hspoken : Text.blank "curl http://[::1]/" = false := by decide +kernel
  have hseen : Text.blank "\t\\\r\n\\\n" = false := by decide
  have hmade : parse {} "curl http://[::1]/" ≠ .error .missingUrl := by
    intro h
    have hsome : (parse {} "curl http://[::1]/").toOption.isSome = true := by decide +kernel
    simp [h, Except.toOption] at hsome
  obtain ⟨hfront, -, hbehind⟩ := margin_is_unseen_iff (o := {}) hopen hw
  refine ⟨hopen, hw, hc, hfront.mpr (by simp [hspoken]), fun h => ?_⟩
  rcases (hbehind hc).mp h with hblank | hmissing
  · simp [hseen] at hblank
  · exact hmade hmissing

/-- A continued line with nothing on the next one leaves its backslash among the kept words. -/
theorem continued_behind_is_seen :
    (Word.split false "curl http://[::1]/".toList).2 = none ∧ Word.IsMargin "\\\n".toList ∧
      parse {} ("curl http://[::1]/" ++ " " ++ "\\\n") ≠ parse {} "curl http://[::1]/" := by
  refine ⟨by decide +kernel, .feed .nil, fun h => ?_⟩
  have hkept : (parse {} ("curl http://[::1]/" ++ " " ++ "\\\n")).toOption.map
      Request.rawOptions = some ["\\"] := by decide +kernel
  rw [h] at hkept
  exact absurd hkept (by decide +kernel)

end CurlScribe.Command
