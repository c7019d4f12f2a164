import CurlScribe.Command.Emit
import CurlScribe.Proofs.Text.Visible
import CurlScribe.Proofs.Word.Joined
import CurlScribe.Proofs.Word.Quote

/-! The words of an emitted command. -/
namespace CurlScribe.Command

variable {single : Bool} {options : EmitOptions} {r : Request} {p : Part}

/-- The words that an option is read as. -/
def Part.words : Part → List String
  | switch word => [word]
  | option name value => [name, Word.quoted value]

/-- A word that needs no quotes and has no blank. -/
def IsPlain (word : String) : Prop :=
  word.toList ≠ [] ∧ ∀ c ∈ word.toList, Word.needsQuotes c = false ∧ Text.isBlank c = false

instance (word : String) : Decidable (IsPlain word) :=
  @instDecidableAnd _ _ inferInstance (List.decidableBAll _ word.toList)

/-- The values that a command gives to its options. -/
def writtenValues (options : EmitOptions) (r : Request) : List String :=
  (optionParts options r).filterMap fun
    | .switch _ => none
    | .option _ value => some value

/-- No value is cut at a blank for lack of quotes. -/
def IsLegible (options : EmitOptions) (r : Request) : Prop :=
  ∀ value ∈ writtenValues options r, Word.Unbroken value

theorem isWord_of_isPlain (single : Bool) {word : String} (h : IsPlain word) :
    Word.IsWord single word.toList :=
  Word.isWord_of_plain h.1 h.2

/-- The words of switches and of versions of TLS. -/
def switchWords : List String := Switch.all.map Switch.long ++ TlsVersion.all.map Prod.fst

/-- The names of the options that a command is written with. -/
def optionNames : List String :=
  ["-X", "-H", "-b", "-u", "--oauth2-bearer", "-F", "-d", "-x", "-A", "-e", "--connect-timeout",
    "--max-time", "--retry", "--retry-delay", "--retry-max-time", "--max-redirs", "--cert", "--key",
    "--cacert", "--capath"]

def Part.IsKnown : Part → Prop
  | switch word => word ∈ switchWords
  | option name _ => name ∈ optionNames

theorem isKnown_optionalPart {name : String} {value : Option String} (hn : name ∈ optionNames)
    (h : p ∈ optionalPart name value) : p.IsKnown := by
  cases value with
  | none => simp [optionalPart] at h
  | some v =>
    obtain rfl : p = .option name v := by simpa [optionalPart] using h
    exact hn

theorem isKnown_networkParts {n : Network} (h : p ∈ networkParts n) : p.IsKnown := by
  simp only [networkParts, List.mem_append] at h
  rcases h with ((((h | h) | h) | h) | h) | h <;> exact isKnown_optionalPart (by decide) h

theorem isKnown_tlsParts {t : Tls} (h : p ∈ tlsParts t) : p.IsKnown := by
  simp only [tlsParts, List.mem_append, Option.mem_toList, Option.map_eq_some_iff] at h
  rcases h with (((h | h) | h) | h) | ⟨option, h, rfl⟩
  · exact isKnown_optionalPart (by decide) h
  · exact isKnown_optionalPart (by decide) h
  · exact isKnown_optionalPart (by decide) h
  · exact isKnown_optionalPart (by decide) h
  · obtain ⟨version, -, hv⟩ := Option.bind_eq_some_iff.mp h
    obtain ⟨e, he, rfl⟩ := Option.map_eq_some_iff.mp hv
    exact List.mem_append_right _ (List.mem_map_of_mem (List.mem_of_find?_eq_some he))

/-- A command is written with options and switches that are known. -/
theorem isKnown_part (h : p ∈ optionParts options r) : p.IsKnown := by
  have hone {name value : String} (hn : name ∈ optionNames) (h : p = .option name value) :
      p.IsKnown := h ▸ hn
  simp only [optionParts, List.mem_append] at h
  rcases h with ((((((((h | h) | h) | h) | h) | h) | h) | h) | h) | h
  · simp only [methodParts] at h
    split at h
    · exact hone (by decide) (List.mem_singleton.mp h)
    · simp at h
  · obtain ⟨e, -, rfl⟩ := List.mem_map.mp h
    exact hone (by decide) rfl
  · simp only [cookieParts] at h
    split at h
    · simp at h
    · exact hone (by decide) (List.mem_singleton.mp h)
  · simp only [authParts] at h
    split at h
    · exact hone (by decide) (List.mem_singleton.mp h)
    · exact hone (by decide) (List.mem_singleton.mp h)
    · simp at h
    · simp at h
  · obtain ⟨e, -, rfl⟩ := List.mem_map.mp h
    exact hone (by decide) rfl
  · exact isKnown_optionalPart (by decide) h
  · simp only [identityParts, List.mem_append] at h
    rcases h with (h | h) | h <;> exact isKnown_optionalPart (by decide) h
  · obtain ⟨s, hs, rfl⟩ := List.mem_map.mp h
    exact List.mem_append_left _ (List.mem_map_of_mem (List.mem_filter.mp hs).1)
  · cases hn : r.network with
    | none => simp [hn] at h
    | some n => exact isKnown_networkParts (by simpa [hn] using h)
  · cases ht : r.tls with
    | none => simp [ht] at h
    | some t => exact isKnown_tlsParts (by simpa [ht] using h)

/-- The characters that options are named with. -/
def isOptionChar (c : Char) : Bool := c.isAlpha || c.isDigit || c == '-' || c == '.'

theorem ascii_of_isOptionChar {c : Char} (h : isOptionChar c = true) : c.toNat < 0x80 := by
  simp only [isOptionChar, Bool.or_eq_true, beq_iff_eq] at h
  rcases h with ((h | h) | rfl) | rfl
  · exact Text.ascii_of_isAlpha h
  · exact Text.ascii_of_isDigit h
  all_goals decide

theorem plain_of_isOptionChar {c : Char} (h : isOptionChar c = true) :
    Word.needsQuotes c = false ∧ Text.isBlank c = false := by
  have hnone (l : List Char) (hl : l.all (fun d => !isOptionChar d) = true) :
      l.contains c = false := by
    cases hc : l.contains c with
    | false => rfl
    | true =>
      have hoff := List.all_eq_true.mp hl c (List.contains_iff_mem.mp hc)
      simp [h] at hoff
  have hblank : ∀ n < 0x80, isOptionChar (Char.ofNat n) = true →
      Text.isBlank (Char.ofNat n) = false := by
    decide
  constructor
  · exact hnone _ (by decide)
  · exact Text.of_ascii (P := fun c => isOptionChar c = true → Text.isBlank c = false) hblank
      (ascii_of_isOptionChar h) h

theorem isPlain_known : ∀ word ∈ switchWords ++ optionNames, IsPlain word := by
  have hchars : ∀ word ∈ switchWords ++ optionNames,
      word.toList ≠ [] ∧ word.toList.all isOptionChar = true := by
    decide
  intro word hm
  obtain ⟨hne, hall⟩ := hchars word hm
  exact ⟨hne, fun c hc => plain_of_isOptionChar (List.all_eq_true.mp hall c hc)⟩

/-- What an option is cut into when it is read: its value, too, where a blank in it has no quotes
around it. -/
def Part.pieces (single : Bool) : Part → List String
  | switch word => [word]
  | option name value => name :: (Word.wordsOf single (Word.quoted value).toList).map String.ofList

theorem wordsOf_part (single : Bool) (h : p.IsKnown) :
    Word.wordsOf single p.text.toList = (p.pieces single).map String.toList ∧
      Word.leftOpen single p.text.toList = none := by
  cases p with
  | switch word =>
    have hw := isWord_of_isPlain single (isPlain_known word (List.mem_append_left _ h))
    exact ⟨by simp [Part.text, Part.pieces, hw.wordsOf], by simp [Part.text, hw.leftOpen]⟩
  | option name value =>
    have hn := isWord_of_isPlain single (isPlain_known name (List.mem_append_right _ h))
    obtain ⟨hw, ho⟩ := Word.outline_append_separator Word.isSeparator_blank hn.leftOpen
      (Word.quoted value).toList
    have ht : (Part.option name value).text.toList =
        name.toList ++ [' '] ++ (Word.quoted value).toList := by
      simp [Part.text]
    rw [ht, hw, ho, hn.wordsOf]
    refine ⟨by simp [Part.pieces, Function.comp_def], ?_⟩
    rw [Word.quoted, String.toList_ofList]
    exact Word.leftOpen_quote single value.toList

/-- The words of all options, and what they are cut into when they are read. -/
def optionWords (options : EmitOptions) (r : Request) : List String :=
  (optionParts options r).flatMap Part.words

def optionPieces (single : Bool) (options : EmitOptions) (r : Request) : List String :=
  (optionParts options r).flatMap (Part.pieces single)

/-- Legible options are cut into their words. -/
theorem optionPieces_eq (single : Bool) (hl : IsLegible options r) :
    optionPieces single options r = optionWords options r := by
  have h : ∀ p ∈ optionParts options r, p.pieces single = p.words := by
    intro p hp
    cases p with
    | switch word => rfl
    | option name value =>
      have hv := hl value (List.mem_filterMap.mpr ⟨.option name value, hp, rfl⟩)
      have hw := (Word.isWord_quote single hv).wordsOf
      rw [Part.pieces, Part.words, Word.quoted, String.toList_ofList, hw]
      rfl
  rw [optionPieces, optionWords, List.flatMap_congr h]

/-- The end of a command: the options kept from another command, and the address. -/
def tail (options : EmitOptions) (r : Request) : String :=
  (separator options r).intercalate (r.rawOptions ++ [Word.quoted (address r)])

theorem isSeparator_separator (options : EmitOptions) (r : Request) :
    Word.IsSeparator (separator options r).toList := by
  unfold separator
  split
  · exact Word.isSeparator_blank
  · exact Word.isSeparator_continuation

theorem toList_emit (options : EmitOptions) (r : Request) :
    (emit options r).toList =
      (("curl" :: (optionParts options r).map Part.text).map String.toList).flatMap
        (· ++ (separator options r).toList) ++ (tail options r).toList := by
  rw [emit, texts, List.append_assoc]
  exact Word.toList_intercalate_append _ _ (by simp)

theorem wordsOf_parts (single : Bool) {ps : List Part} (h : ∀ p ∈ ps, p.IsKnown) :
    ((ps.map Part.text).map String.toList).flatMap (Word.wordsOf single) =
      (ps.flatMap (Part.pieces single)).map String.toList := by
  induction ps with
  | nil => rfl
  | cons p ps ih =>
    have hp := (wordsOf_part single (h p (by simp))).1
    have ih := ih fun q hq => h q (by simp [hq])
    simp only [List.map_cons, List.flatMap_cons, List.map_append, hp, ih]

/-- What an emitted command is cut into: the name of the program, its options, and its end. -/
theorem wordsOf_emit (hn : ∃ c ∈ (tail options r).toList, Text.isBlank c = false) (single : Bool) :
    Word.wordsOf single (Text.trim (emit options r).toList) =
        ("curl" :: optionPieces single options r).map String.toList ++
          Word.wordsOf single (Text.trim (tail options r).toList) ∧
      Word.leftOpen single (Text.trim (emit options r).toList) =
        Word.leftOpen single (Text.trim (tail options r).toList) := by
  have hw : Word.IsWord single "curl".toList :=
    isWord_of_isPlain single (show IsPlain "curl" by decide)
  have hs := isSeparator_separator options r
  obtain ⟨cs, hcs⟩ : ∃ cs, (("curl" :: (optionParts options r).map Part.text).map
      String.toList).flatMap (· ++ (separator options r).toList) = 'c' :: cs :=
    ⟨_, by rw [List.map_cons, List.flatMap_cons]; rfl⟩
  rw [toList_emit, hcs, Text.trim_append (by decide) cs hn, ← hcs]
  have ho : ∀ t ∈ ("curl" :: (optionParts options r).map Part.text).map String.toList,
      Word.leftOpen single t = none := by
    intro t ht
    simp only [List.map_cons, List.map_map, List.mem_cons, List.mem_map] at ht
    rcases ht with rfl | ⟨p, hp, rfl⟩
    · exact hw.leftOpen
    · exact (wordsOf_part single (isKnown_part hp)).2
  obtain ⟨hwords, hopen⟩ := Word.wordsOf_joined hs ho (Text.trimEnd (tail options r).toList)
  obtain ⟨hwt, hot⟩ := Word.wordsOf_trimStart single (Text.trimEnd (tail options r).toList)
  rw [hwords, hopen, ← hwt, ← hot, Text.trimStart_trimEnd_comm]
  have hp := wordsOf_parts single fun (p : Part) (hp : p ∈ optionParts options r) => isKnown_part hp
  refine ⟨?_, rfl⟩
  rw [List.map_cons, List.flatMap_cons, hw.wordsOf, hp, List.map_cons, optionPieces]
  rfl

end CurlScribe.Command
