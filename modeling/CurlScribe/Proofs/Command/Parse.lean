import CurlScribe.Proofs.Command.Request
import CurlScribe.Proofs.Word.Margin

/-! Reading a command line: when it makes a request, and how an emitted one is read. -/
namespace CurlScribe.Command

variable {o : CommandOptions} {e : EmitOptions} {policy : Repeated} {c : String} {r : Request}
  {ws : List String}

/-- The words after the name of the program. -/
def spokenWords : List String → List String
  | [] => []
  | word :: rest => if isProgramName word then rest else word :: rest

theorem interpret_eq (words : List String) :
    interpret o words = follow o.repeatedHeaders {} (spokenWords words) := by
  cases words with
  | nil => simp [interpret, spokenWords, follow]
  | cons word rest =>
    simp only [interpret, spokenWords]
    split <;> rfl

/-- A command line makes a request where its quotes are accepted and it has an address. -/
theorem parse_ok_iff : parse o c = .ok r ↔ ∃ ws u, Text.trimmed c ≠ "" ∧
    Word.ofLine o.quoting (Text.trimmed c) = .ok ws ∧
      Text.nonBlank (interpret o ws).url = some u ∧ r = (interpret o ws).requestAt u := by
  rw [parse]
  split
  · simp_all
  · rename_i hne
    cases hw : Word.ofLine o.quoting (Text.trimmed c) with
    | error q => simp
    | ok ws =>
      simp only [normalize_of_isRead (isRead_interpret ws)]
      cases hu : Text.nonBlank (interpret o ws).url with
      | none => simp [hu]
      | some u => simp [hne, hu, eq_comm]

theorem parse_of_trim_eq {c d : String} (h : Text.trim c.toList = Text.trim d.toList) :
    parse o c = parse o d := by
  rw [parse, parse, Text.trimmed, Text.trimmed, h]

/-- A command in which no quote is left open is blank or what its words say. -/
theorem parse_of_closed (h : Word.leftOpen o.quoting.single c.toList = none) :
    parse o c = if Text.blank c then .error .emptyInput
      else (interpret o ((Word.wordsOf o.quoting.single (Text.trim c.toList)).map
        String.ofList)).normalize := by
  have hw : Word.ofLine o.quoting (Text.trimmed c) =
      .ok ((Word.wordsOf o.quoting.single (Text.trim c.toList)).map String.ofList) := by
    refine Word.ofLine_ok_iff.mpr ⟨?_, fun _ => ?_⟩
    · rw [Text.trimmed, String.toList_ofList]
    · rwa [Text.trimmed, String.toList_ofList, Word.leftOpen_trim]
  simp only [parse, hw, Text.trimmed_eq_empty_iff]

/-! What each failure says about the command. -/

theorem parse_eq_emptyInput_iff : parse o c = .error .emptyInput ↔ Text.blank c = true := by
  rw [parse, ← Text.trimmed_eq_empty_iff]
  split
  · simp_all
  · split
    · simp_all
    · rename_i ws hw
      rw [normalize_of_isRead (isRead_interpret ws)]
      split <;> simp_all

theorem parse_eq_unterminatedQuote_iff {mark : Char} {position : Nat} :
    parse o c = .error (.unterminatedQuote mark position) ↔ o.quoting.strict = true ∧
      (Word.split o.quoting.single (Text.trim c.toList)).2 = some ⟨mark, position⟩ := by
  have hread (ws : List String) :
      (interpret o ws).normalize ≠ .error (.unterminatedQuote mark position) := by
    rw [normalize_of_isRead (isRead_interpret ws)]
    split <;> simp
  rw [parse]
  split
  · rename_i he
    have hnil : Text.trim c.toList = [] := by
      rwa [Text.trimmed, ← String.toList_inj, String.toList_ofList] at he
    simp [hnil, Word.split, Word.scan]
  · simp only [Word.ofLine, Text.trimmed, String.toList_ofList]
    generalize Word.split o.quoting.single (Text.trim c.toList) = found
    obtain ⟨ws, final⟩ := found
    cases final with
    | none => simp [hread]
    | some q =>
      obtain ⟨m, p⟩ := q
      cases o.quoting.strict with
      | false => simp [hread]
      | true => simp

theorem writable_of_parse (h : parse o c = .ok r) : Writable o.repeatedHeaders r := by
  obtain ⟨ws, u, -, -, -, rfl⟩ := parse_ok_iff.mp h
  exact writable_requestAt (isRead_interpret ws) u

theorem trimmed_emit_ne (hn : ∃ c ∈ (tail e r).toList, Text.isBlank c = false) :
    Text.trimmed (emit e r) ≠ "" := by
  intro h
  have hw := (wordsOf_emit hn true).1
  rw [Text.trimmed, ← String.toList_inj, String.toList_ofList] at h
  rw [h] at hw
  simp [Word.wordsOf, Word.outline, Word.words] at hw

/-- A command is cut into what its options and its end are cut into. -/
theorem ofLine_emit (hn : ∃ c ∈ (tail e r).toList, Text.isBlank c = false)
    (quoting : Word.Quoting) : Word.ofLine quoting (Text.trimmed (emit e r)) = .ok ws ↔
      ∃ us, Word.ofLine quoting (Text.trimmed (tail e r)) = .ok us ∧
        ws = "curl" :: optionPieces quoting.single e r ++ us := by
  obtain ⟨hw, ho⟩ := wordsOf_emit hn quoting.single
  have hwords : ((("curl" :: optionPieces quoting.single e r).map String.toList ++
      Word.wordsOf quoting.single (Text.trim (tail e r).toList)).map String.ofList) =
        "curl" :: optionPieces quoting.single e r ++
          (Word.wordsOf quoting.single (Text.trim (tail e r).toList)).map String.ofList := by
    simp [Function.comp_def]
  simp only [Word.ofLine_ok_iff, Text.trimmed, String.toList_ofList, hw, ho, hwords]
  constructor
  · rintro ⟨rfl, hopen⟩
    exact ⟨_, ⟨rfl, hopen⟩, rfl⟩
  · rintro ⟨us, ⟨rfl, hopen⟩, rfl⟩
    exact ⟨rfl, hopen⟩

theorem interpret_emit (us : List String) :
    interpret o ("curl" :: optionPieces o.quoting.single e r ++ us) =
      follow o.repeatedHeaders {} (optionPieces o.quoting.single e r ++ us) := by
  have hp : isProgramName "curl" = true := by decide +kernel
  rw [interpret_eq, List.cons_append, spokenWords, if_pos hp]

theorem parse_emit_iff (hn : ∃ c ∈ (tail e r).toList, Text.isBlank c = false) {s : Request} :
    parse o (emit e r) = .ok s ↔ ∃ us u,
      Word.ofLine o.quoting (Text.trimmed (tail e r)) = .ok us ∧
        Text.nonBlank (follow o.repeatedHeaders {}
          (optionPieces o.quoting.single e r ++ us)).url = some u ∧
          s = (follow o.repeatedHeaders {}
            (optionPieces o.quoting.single e r ++ us)).requestAt u := by
  rw [parse_ok_iff]
  constructor
  · rintro ⟨ws, u, -, hw, hu, rfl⟩
    obtain ⟨us, hus, rfl⟩ := (ofLine_emit hn o.quoting).mp hw
    rw [interpret_emit] at hu ⊢
    exact ⟨us, u, hus, hu, rfl⟩
  · rintro ⟨us, u, hus, hu, rfl⟩
    refine ⟨_, u, trimmed_emit_ne hn, (ofLine_emit hn o.quoting).mpr ⟨us, hus, rfl⟩, ?_⟩
    rw [interpret_emit]
    exact ⟨hu, rfl⟩

/-- Legible options say what they are meant to say, and the end of a command adds to it. -/
theorem follow_legible (h : Writable policy r) (hl : IsLegible e r) (single : Bool)
    (us : List String) :
    follow policy {} (optionPieces single e r ++ us) = follow policy (front e r) us := by
  rw [optionPieces_eq single hl, follow_front h]

end CurlScribe.Command
