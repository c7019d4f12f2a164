import CurlScribe.Proofs.Java.Name

/-! Names that may be declared, and names that are made again from names. -/
namespace CurlScribe.Java

variable {c : Char} {cs : List Char} {s k : String} {segment : List Char}

def startsIdentifier (c : Char) : Bool := c.isAlpha || c == '_'

/-- A letter or a low line, behind it letters, digits and low lines, and in all no keyword. -/
structure IsIdentifier (s : String) : Prop where
  start : ∃ c rest, s.toList = c :: rest ∧ startsIdentifier c = true
  isName : IsName s.toList
  unreserved : s ∉ keywords

/-! Keywords. -/

theorem isLower_of_mem_keywords (h : k ∈ keywords) : ∀ c ∈ k.toList, c.isLower = true := by
  have hall : ∀ k ∈ keywords, k.toList.all Char.isLower = true := by decide
  intro c hc
  exact List.all_eq_true.mp (hall k h) c hc

/-- One character that is no small letter tells a text from all keywords. -/
theorem not_mem_keywords (hc : c ∈ s.toList) (h : c.isLower = false) : s ∉ keywords := by
  intro hmem
  have hlow := isLower_of_mem_keywords hmem c hc
  simp [h] at hlow

/-! The first character. -/

theorem starts_guardDigit (hrun : IsRun (c :: cs)) :
    ∃ d rest, guardDigit (c :: cs) = d :: rest ∧ startsIdentifier d = true := by
  by_cases hdigit : c.isDigit = true
  · exact ⟨'_', c :: cs, by simp [guardDigit, hdigit], rfl⟩
  · have halpha : c.isAlpha = true := by
      have hc := hrun c (by simp)
      simpa [Text.isAsciiAlnum, hdigit] using hc
    exact ⟨c, cs, by simp [guardDigit, hdigit], by simp [startsIdentifier, halpha]⟩

theorem mem_guardDigit (c : Char) (cs : List Char) : c ∈ guardDigit (c :: cs) := by
  unfold guardDigit
  split
  · split <;> simp_all
  · simp_all

theorem not_isLower_toUpper (h : Text.isAsciiAlnum c = true) : c.toUpper.isLower = false := by
  have hall : ∀ n < 0x80, Text.isAsciiAlnum (Char.ofNat n) = true →
      (Char.ofNat n).toUpper.isLower = false := by
    decide
  exact Text.of_ascii (P := fun c => Text.isAsciiAlnum c = true → c.toUpper.isLower = false) hall
    (ascii_of_isAsciiAlnum h) h

/-- All words in one run, which starts with a capital or a digit. -/
theorem exists_pascalCase (h : pascalCase s ≠ "") : ∃ c cs,
    pascalCase s = String.ofList (guardDigit (c :: cs)) ∧ IsRun (c :: cs) ∧ c.isLower = false := by
  cases hwords : words s.toList with
  | nil => exact (h (by rw [pascalCase, hwords]; rfl)).elim
  | cons w ws =>
    have hmem (v : List Char) (hv : v ∈ w :: ws) : v ≠ [] ∧ IsRun v := mem_words (hwords ▸ hv)
    obtain ⟨⟨c, rest, rfl⟩, hw⟩ := (hmem w (by simp)).imp_left List.exists_cons_of_ne_nil
    refine ⟨c.toUpper, rest ++ ws.flatMap capitalize, ?_, ?_, ?_⟩
    · rw [pascalCase, hwords]
      rfl
    · have hrest : IsRun (ws.flatMap capitalize) :=
        isRun_capitalized fun v hv => (hmem v (by simp [hv])).2
      exact List.forall_mem_append.mpr ⟨hw.capitalize, hrest⟩
    · exact not_isLower_toUpper (hw c (by simp))

/-! Identifiers. -/

theorem isIdentifier_pascalCase (h : pascalCase s ≠ "") : IsIdentifier (pascalCase s) := by
  obtain ⟨c, cs, heq, hrun, hc⟩ := exists_pascalCase h
  have hlist : (pascalCase s).toList = guardDigit (c :: cs) := by rw [heq, String.toList_ofList]
  refine ⟨?_, isName_pascalCase s, ?_⟩
  · rw [hlist]
    exact starts_guardDigit hrun
  · exact not_mem_keywords (hlist ▸ mem_guardDigit c cs) hc

theorem starts_camelCase (h : camelCase s ≠ "") :
    ∃ c rest, (camelCase s).toList = c :: rest ∧ startsIdentifier c = true := by
  obtain ⟨c, cs, heq, hrun, -⟩ := exists_camelCase h
  rw [heq, String.toList_ofList]
  exact starts_guardDigit hrun

theorem isIdentifier_identifier (s : String) : IsIdentifier (identifier s) := by
  have hname := isName_identifier s
  obtain ⟨-, heq⟩ | ⟨hne, -, heq⟩ | ⟨hne, hkey, heq⟩ := identifier_cases s
  · rw [heq] at hname ⊢
    exact ⟨⟨'v', _, rfl, rfl⟩, hname, by decide⟩
  · rw [heq] at hname ⊢
    obtain ⟨c, rest, hlist, hc⟩ := starts_camelCase hne
    refine ⟨⟨c, rest ++ ['_'], by simp [hlist], hc⟩, hname, ?_⟩
    exact not_mem_keywords (c := '_') (by simp) rfl
  · rw [heq] at hname ⊢
    refine ⟨starts_camelCase hne, hname, ?_⟩
    intro hmem
    have hyes : isKeyword (camelCase s) = true := List.contains_iff_mem.mpr hmem
    simp [hkey] at hyes

theorem segmentName_cases (segment : List Char) :
    ∃ t, segmentName segment = "By" ++ pascalCase t ∨ segmentName segment = pascalCase t := by
  unfold segmentName
  split
  · split
    · exact ⟨_, .inl rfl⟩
    · exact ⟨_, .inr rfl⟩
  · exact ⟨_, .inr rfl⟩

/-- What a segment adds to the name of a method has a character that no keyword has. -/
theorem exists_not_isLower_segmentName (h : segmentName segment ≠ "") :
    ∃ c ∈ (segmentName segment).toList, c.isLower = false := by
  obtain ⟨t, heq | heq⟩ := segmentName_cases segment
  · rw [heq]
    exact ⟨'B', by simp, rfl⟩
  · rw [heq] at h ⊢
    obtain ⟨c, cs, hpascal, -, hc⟩ := exists_pascalCase h
    refine ⟨c, ?_, hc⟩
    rw [hpascal, String.toList_ofList]
    exact mem_guardDigit c cs

theorem exists_of_join_ne_empty {names : List String} (h : String.join names ≠ "") :
    ∃ name ∈ names, name ≠ "" := by
  by_contra hnone
  push Not at hnone
  apply h
  rw [← String.toList_inj, String.toList_join, String.toList_empty, List.flatMap_eq_nil_iff]
  intro name hname
  rw [hnone name hname, String.toList_empty]

theorem starts_lowerName (m : Method) :
    ∃ c rest, m.lowerName.toList = c :: rest ∧ startsIdentifier c = true := by
  rw [Method.lowerName, Text.lowerAscii, String.toList_ofList]
  cases m <;> exact ⟨_, _, rfl, rfl⟩

theorem isIdentifier_methodName (m : Method) (path : String) :
    IsIdentifier (methodName m path) := by
  refine ⟨?_, isName_methodName m path, ?_⟩
  · obtain ⟨c, rest, hlist, hc⟩ := starts_lowerName m
    rw [methodName, String.toList_append, hlist]
    exact ⟨c, _, List.cons_append, hc⟩
  · rw [methodName]
    split
    · exact not_mem_keywords (c := 'R') (by simp) rfl
    · rename_i hne
      obtain ⟨name, hname, hfull⟩ := exists_of_join_ne_empty hne
      obtain ⟨segment, hsegment, rfl⟩ := List.mem_map.mp hname
      obtain ⟨c, hc, hlow⟩ := exists_not_isLower_segmentName hfull
      have hmem : c ∈ (String.join (((path.toList.splitOn '/').filter fun s => !s.isEmpty).map
          segmentName)).toList := by
        rw [String.toList_join]
        exact List.mem_flatMap.mpr ⟨_, hname, hc⟩
      refine not_mem_keywords ?_ hlow
      rw [String.toList_append]
      exact List.mem_append_right _ hmem

/-! Names made from names. -/

/-- The words of a run that starts with a capital give the run again. -/
theorem flatMap_capitalize_humps (h : capitalize cs = cs) :
    (humps cs).flatMap capitalize = cs := by
  cases cs with
  | nil => rfl
  | cons c cs =>
    obtain ⟨w, ws, hhumps⟩ := humps_cons c cs
    have hflat := flatten_humps (c :: cs)
    have hc : c.toUpper = c := (List.cons_eq_cons.mp h).1
    rw [hhumps] at hflat ⊢
    rw [List.flatMap_cons, flatMap_capitalize_tail hhumps, capitalize, hc]
    exact hflat

theorem pascalCase_idem (s : String) : pascalCase (pascalCase s) = pascalCase s := by
  by_cases hempty : pascalCase s = ""
  · rw [hempty]
    rfl
  · obtain ⟨c, cs, heq, hrun, hc⟩ := exists_pascalCase hempty
    have hcap : capitalize (c :: cs) = c :: cs := by rw [capitalize, toUpper_of_not_isLower hc]
    rw [heq, pascalCase, String.toList_ofList, words_guardDigit hrun (by simp),
      flatMap_capitalize_humps hcap]

/-- A mark at the end is no part of a word. -/
theorem words_append_mark (h : Text.isAsciiAlnum c = false) (cs : List Char) :
    words (cs ++ [c]) = words cs := by
  have hmark : (!Text.isAsciiAlnum c) = true := by simp [h]
  rw [words, List.splitOnP_append_cons cs [] hmark]
  simp [words]

/-- An identifier is told by the name in camel case alone. -/
theorem identifier_congr {t : String} (h : camelCase s = camelCase t) :
    identifier s = identifier t := by
  simp only [identifier, h]

theorem identifier_idem (s : String) : identifier (identifier s) = identifier s := by
  obtain ⟨-, heq⟩ | ⟨-, -, heq⟩ | ⟨-, -, heq⟩ := identifier_cases s
  · rw [heq]
    rfl
  · apply identifier_congr
    have hlist : (identifier s).toList = (camelCase s).toList ++ ['_'] := by
      rw [heq, String.toList_append]
      rfl
    have hwords : words (identifier s).toList = words (camelCase s).toList := by
      rw [hlist]
      exact words_append_mark (by decide) _
    have hcamel : camelCase (identifier s) = camelCase (camelCase s) := by
      simp only [camelCase, hwords]
    exact hcamel.trans (camelCase_idem s)
  · apply identifier_congr
    rw [heq, camelCase_idem]

/-- Every name that is made from free text may be declared, and making it again changes nothing. -/
theorem names_are_valid_and_stable (s : String) (m : Method) (path : String) :
    IsIdentifier (identifier s) ∧ (pascalCase s = "" ∨ IsIdentifier (pascalCase s)) ∧
      camelCase (camelCase s) = camelCase s ∧ pascalCase (pascalCase s) = pascalCase s ∧
        identifier (identifier s) = identifier s ∧ identifier (camelCase s) = identifier s ∧
          IsIdentifier (methodName m path) := by
  refine ⟨isIdentifier_identifier s, ?_, camelCase_idem s, pascalCase_idem s, identifier_idem s,
    identifier_congr (camelCase_idem s), isIdentifier_methodName m path⟩
  by_cases hempty : pascalCase s = ""
  · exact .inl hempty
  · exact .inr (isIdentifier_pascalCase hempty)

end CurlScribe.Java
