import CurlScribe.Proofs.Command.Address

/-! The end of an emitted command: what was kept from another command, and the address. -/
namespace CurlScribe

namespace Word

theorem isTrim_quote {text : String} (h : Unbroken text) : Text.IsTrim (quote text.toList) := by
  rcases quote_cases text.toList with hq | ⟨hq, -, hplain⟩
  · have he : ∃ c ∈ ['"'], Text.isBlank c = false := ⟨'"', by simp, by decide⟩
    rw [hq]
    exact Text.trim_append (by decide) (shield text.toList) he
  · rw [hq]
    exact Text.trim_of_not_blank (not_blank_of_unbroken h hplain)

theorem exists_of_quoted {text : String} (h : ∃ c ∈ text.toList, Text.isBlank c = false) :
    ∃ c ∈ (quoted text).toList, Text.isBlank c = false := by
  rw [quoted, String.toList_ofList]
  rcases quote_cases text.toList with hq | ⟨hq, -, -⟩
  · rw [hq]
    exact ⟨'"', by simp, by decide⟩
  · rw [hq]
    exact h

theorem exists_of_unbroken {text : String} (h : Unbroken text) :
    ∃ c ∈ (quoted text).toList, Text.isBlank c = false := by
  rw [quoted, String.toList_ofList]
  rcases quote_cases text.toList with hq | ⟨hq, hne, hplain⟩
  · rw [hq]
    exact ⟨'"', by simp, by decide⟩
  · rw [hq]
    obtain ⟨c, rest, hc⟩ := List.exists_cons_of_ne_nil hne
    have hm : c ∈ text.toList := by simp [hc]
    exact ⟨c, hm, not_blank_of_unbroken h hplain c hm⟩

end Word

namespace Command

variable {o : CommandOptions} {e : EmitOptions} {policy : Repeated} {c : String} {r : Request}
  {d : Draft} {a u : String} {single : Bool} {kept : List String}

/-! The address. -/

/-- What starts like an address is an argument, in quotes or not. -/
theorem read_quoted (h : isHttp a = true) : read (Word.quoted a) = .argument := by
  obtain ⟨rest, hr⟩ : ∃ rest, a.toList = 'h' :: 't' :: 't' :: 'p' :: rest := by
    obtain ⟨rest, hr⟩ := List.isPrefixOf_iff_prefix.mp h
    exact ⟨rest, hr.symm⟩
  have hoption : isOption (Word.quoted a).toList = false := by
    rw [Word.quoted, String.toList_ofList]
    rcases Word.quote_cases a.toList with hq | ⟨hq, -, -⟩
    · rw [hq]
      rfl
    · rw [hq, hr]
      rfl
  simp [read, hoption]

theorem blank_of_isHttp (h : isHttp a = true) : Text.blank a = false := by
  obtain ⟨rest, hr⟩ := List.isPrefixOf_iff_prefix.mp h
  refine Text.blank_of_mem (c := 'h') ?_ (by decide)
  rw [← hr]
  simp

/-- The address at the end of a command becomes the address of the draft. -/
theorem follow_address (policy : Repeated) (h : isHttp a = true) (hd : d.url = none) :
    follow policy d [Word.quoted a] = { d with url := some a } := by
  rw [follow_argument (read_quoted h), addArgument_eq, Word.unquoted_quoted, h, hd]
  rfl

/-- At the end of a command, only what starts like an address is found as one. -/
theorem found_quoted (a : String) :
    foundAddress [Word.quoted a] = if isHttp a then some a else none := by
  cases hr : read (Word.quoted a) with
  | argument => rw [found_argument hr, Word.unquoted_quoted]; rfl
  | option o =>
    cases hh : isHttp a with
    | true => simp [read_quoted hh] at hr
    | false => rw [found_last hr]; rfl
  | switches flags =>
    cases hh : isHttp a with
    | true => simp [read_quoted hh] at hr
    | false => rw [found_switches hr]; rfl
  | tls version =>
    cases hh : isHttp a with
    | true => simp [read_quoted hh] at hr
    | false => rw [found_tls hr]; rfl
  | unknown =>
    cases hh : isHttp a with
    | true => simp [read_quoted hh] at hr
    | false => rw [found_unknown hr]; rfl
  | inline o name value =>
    cases hh : isHttp a with
    | true => simp [read_quoted hh] at hr
    | false =>
      have ho : o ≠ .url := by
        rintro rfl
        have hm := mem_of_read_inline_url hr
        rcases Word.quote_cases a.toList with hq | ⟨hq, -, hplain⟩
        · simp [read, Word.quoted, hq, isOption] at hr
        · rw [Word.quoted, hq, String.toList_ofList] at hm
          exact absurd (hplain '=' hm) (by decide)
      rw [found_inline hr, if_neg ho]
      rfl

/-- The address of a command that was read is never blank. -/
theorem exists_of_address (h : parse o c = .ok r) :
    ∃ c ∈ (address r).toList, Text.isBlank c = false := by
  obtain ⟨ws, u, -, -, hu, rfl⟩ := parse_ok_iff.mp h
  have hblank := (Text.nonBlank_eq_some.mp hu).2
  rw [address]
  split
  · exact Text.exists_of_not_blank hblank
  · obtain ⟨c, hc, hb⟩ := Text.exists_of_not_blank (Location.blank_baseUrl hblank)
    have hj := Location.mem_join hc (Location.ofText u).endpoint
    refine ⟨c, ?_, hb⟩
    dsimp only [Draft.requestAt] at hj ⊢
    split
    · exact hj
    · simp [hj]

theorem toList_tail (e : EmitOptions) (r : Request) : (tail e r).toList =
    (r.rawOptions.map String.toList).flatMap (· ++ (separator e r).toList) ++
      (Word.quoted (address r)).toList := by
  rw [tail, Word.toList_intercalate_append _ _ (by simp), String.intercalate_singleton]

theorem exists_of_tail (e : EmitOptions) (h : ∃ c ∈ (address r).toList, Text.isBlank c = false) :
    ∃ c ∈ (tail e r).toList, Text.isBlank c = false := by
  obtain ⟨c, hc, hb⟩ := Word.exists_of_quoted h
  rw [toList_tail]
  exact ⟨c, List.mem_append_right _ hc, hb⟩

/-! What was kept. -/

/-- Options and arguments that are read as they are written, and kept. -/
inductive Settled (single : Bool) : List String → Prop
  | nil : Settled single []
  | argument {word : String} {rest : List String} (hw : Word.IsWord single word.toList)
      (hr : read word = .argument) (hh : isHttp (Word.unquoted word) = false)
      (h : Settled single rest) : Settled single (word :: rest)
  | unknown {word : String} {rest : List String} (hw : Word.IsWord single word.toList)
      (hr : read word = .unknown) (h : Settled single rest) : Settled single (word :: rest)
  | option {word value : String} {rest : List String} {o : ValueOption}
      (hw : Word.IsWord single word.toList) (hr : read word = .option o)
      (ho : o = .inert ∨ (o = .cookie ∧ '=' ∉ value.toList))
      (hv : Word.IsWord single value.toList) (hu : Word.unquoted value = value)
      (h : Settled single rest) : Settled single (word :: value :: rest)

theorem isWord_of_settled (h : Settled single kept) :
    ∀ word ∈ kept, Word.IsWord single word.toList := by
  induction h with
  | nil => simp
  | argument hw hr hh h ih => exact List.forall_mem_cons.mpr ⟨hw, ih⟩
  | unknown hw hr h ih => exact List.forall_mem_cons.mpr ⟨hw, ih⟩
  | option hw hr ho hv hu h ih =>
    exact List.forall_mem_cons.mpr ⟨hw, List.forall_mem_cons.mpr ⟨hv, ih⟩⟩

theorem keep_keep (ws us : List String) (d : Draft) : keep us (keep ws d) = keep (ws ++ us) d := by
  simp [keep, List.append_assoc]

theorem apply_of_kept {o : ValueOption} {word value : String}
    (ho : o = .inert ∨ (o = .cookie ∧ '=' ∉ value.toList)) (d : Draft) :
    apply policy o word value d = keep [word, value] d := by
  rcases ho with rfl | ⟨rfl, hv⟩
  · rfl
  · simp [apply, addCookies, hv]

/-- Settled options are kept and say nothing else. -/
theorem follow_settled (policy : Repeated) (h : Settled single kept) (d : Draft)
    (rest : List String) : follow policy d (kept ++ rest) = follow policy (keep kept d) rest := by
  induction h generalizing d with
  | nil => simp [keep]
  | argument hw hr hh h ih =>
    rw [List.cons_append, follow_argument hr, ih, addArgument_eq, hh, Bool.false_and,
      if_neg (by simp), keep_keep]
    rfl
  | unknown hw hr h ih =>
    rw [List.cons_append, follow_unknown hr, ih, keep_keep]
    rfl
  | option hw hr ho hv hu h ih =>
    rw [List.cons_append, List.cons_append, follow_option hr, hu, apply_of_kept ho, ih, keep_keep]
    rfl

/-- No address is found among settled options. -/
theorem found_settled (h : Settled single kept) (rest : List String) :
    foundAddress (kept ++ rest) = foundAddress rest := by
  have hf := congrArg Draft.url (follow_settled .lastWins h {} rest)
  simpa [url_follow, keep] using hf

/-- The words of the end of a command are what was kept and the address. -/
theorem wordsOf_tail (h : Settled single r.rawOptions) (ha : Word.Unbroken (address r)) :
    Word.wordsOf single (Text.trim (tail e r).toList) =
        (r.rawOptions ++ [Word.quoted (address r)]).map String.toList ∧
      Word.leftOpen single (Text.trim (tail e r).toList) = none := by
  have hq : (Word.quoted (address r)).toList = Word.quote (address r).toList := by
    rw [Word.quoted, String.toList_ofList]
  have hw : Word.IsWord single (Word.quoted (address r)).toList := hq ▸ Word.isWord_quote single ha
  have ht : Text.trim (Word.quoted (address r)).toList = (Word.quoted (address r)).toList :=
    hq ▸ Word.isTrim_quote ha
  have hkept := isWord_of_settled h
  have hopen : ∀ t ∈ r.rawOptions.map String.toList, Word.leftOpen single t = none := by
    intro t ht
    obtain ⟨word, hword, rfl⟩ := List.mem_map.mp ht
    exact (hkept word hword).leftOpen
  have hwords : (r.rawOptions.map String.toList).flatMap (Word.wordsOf single) =
      r.rawOptions.map String.toList := by
    rw [List.flatMap_map, List.map_eq_flatMap]
    exact List.flatMap_congr fun word hword => (hkept word hword).wordsOf
  -- only the blanks at the end of the address could be trimmed, and it has none there
  obtain ⟨hjoined, hleft⟩ := Word.wordsOf_joined (isSeparator_separator e r) hopen
    (Text.trimEnd (Word.quoted (address r)).toList)
  obtain ⟨hstart, hstartOpen⟩ := Word.wordsOf_trimStart single
    ((r.rawOptions.map String.toList).flatMap (· ++ (separator e r).toList) ++
      Text.trimEnd (Word.quoted (address r)).toList)
  obtain ⟨hend, hendOpen⟩ := Word.wordsOf_trimStart single
    (Text.trimEnd (Word.quoted (address r)).toList)
  rw [toList_tail, ← Text.trimStart_trimEnd_comm,
    Text.trimEnd_append (Word.exists_of_unbroken ha), hstart, hstartOpen, hjoined, hleft, ← hend,
    ← hendOpen, Text.trimStart_trimEnd_comm, ht, hw.wordsOf, hw.leftOpen, hwords]
  simp

theorem ofLine_tail (quoting : Word.Quoting) (h : Settled quoting.single r.rawOptions)
    (ha : Word.Unbroken (address r)) : Word.ofLine quoting (Text.trimmed (tail e r)) =
      .ok (r.rawOptions ++ [Word.quoted (address r)]) := by
  obtain ⟨hw, ho⟩ := wordsOf_tail (e := e) h ha
  rw [Word.ofLine_ok_iff, Text.trimmed, String.toList_ofList, hw, ho]
  simp [Function.comp_def]

end Command

end CurlScribe
