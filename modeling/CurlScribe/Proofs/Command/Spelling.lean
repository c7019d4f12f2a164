import CurlScribe.Proofs.Command.Parse

/-! The ways to write an option with its value, and several switches. All of them say the same. -/
namespace CurlScribe.Command

variable {o : CommandOptions} {policy : Repeated} {d : Draft} {option : ValueOption}
  {name value word : String} {ps qs ws : List String} {c : Char} {cs : List Char}

/-- Words behind which an option is expected: the name of the program comes first, and no option
lacks its value. -/
structure ExpectsOption (ps : List String) : Prop where
  named : ∃ program ∈ ps.head?, isProgramName program = true
  valued : waits (spokenWords ps) = false

/-- What stands behind such words is read on top of what they say. -/
theorem interpret_append (h : ExpectsOption ps) (qs : List String) :
    interpret o (ps ++ qs) = follow o.repeatedHeaders (interpret o ps) qs := by
  obtain ⟨⟨program, hp, hname⟩, hvalued⟩ := h
  obtain ⟨rest, rfl⟩ : ∃ rest, ps = program :: rest := List.head?_eq_some_iff.mp hp
  have hspoken (rest : List String) : spokenWords (program :: rest) = rest := by
    simp [spokenWords, hname]
  rw [hspoken] at hvalued
  rw [interpret_eq, interpret_eq, List.cons_append, hspoken, hspoken, follow_append hvalued]

/-! The words of the tables. -/

/-- Every word that is an option, a switch or a version of TLS by itself. -/
def knownWords : List (List Char) :=
  ValueOption.spellings.map (·.1.toList) ++
    Switch.all.flatMap (fun s => s.short.toList.map (['-', ·]) ++ [s.long.toList]) ++
    TlsVersion.all.map (·.1.toList)

/-- Known words have no equals sign, and are a letter or a name behind two dashes. -/
theorem known_shape : ∀ w ∈ knownWords, '=' ∉ w ∧ (w.length = 2 ∨ ['-', '-'] <+: w) := by
  decide +kernel

/-- Every other word that starts with a dash has its value in itself, or is several switches, or is
not understood. -/
theorem read_of_not_known (hoption : isOption word.toList = true) (h : word.toList ∉ knownWords) :
    read word = (readInline? word).getD
      (((Switch.cluster? word.toList).map fun ss => .switches (ss.map Switch.flag)).getD
        .unknown) := by
  simp only [knownWords, List.mem_append, List.mem_map, List.mem_flatMap, not_or, not_exists,
    not_and] at h
  obtain ⟨⟨hvalue, hswitch⟩, htls⟩ := h
  have ho : ValueOption.ofWord? word = none :=
    List.lookup_eq_none_iff.mpr fun e he =>
      bne_iff_ne.mpr fun heq : word = e.1 => hvalue e he (by rw [heq])
  have hs : Switch.ofWord? word = none := by
    refine List.find?_eq_none.mpr fun s hs hfound => ?_
    obtain ⟨hletter, hlong⟩ := hswitch s hs
    rw [Bool.or_eq_true] at hfound
    rcases hfound with hfound | hfound
    · cases hshort : s.short with
      | none => simp [hshort] at hfound
      | some c =>
        rw [hshort, beq_iff_eq] at hfound
        exact hletter c (by simp [hshort]) hfound.symm
    · exact hlong (by simp [beq_iff_eq.mp hfound])
  have ht : TlsVersion.ofWord? word = none :=
    List.lookup_eq_none_iff.mpr fun e he =>
      bne_iff_ne.mpr fun heq : word = e.1 => htls e he (by rw [heq])
  rw [read, hoption, ho, hs, ht]
  cases readInline? word with
  | some reading => rfl
  | none => cases Switch.cluster? word.toList <;> rfl

/-! An option and its value. -/

def isLong (name : String) : Bool := "--".toList.isPrefixOf name.toList

theorem short_shape : ∀ e ∈ ValueOption.spellings, isLong e.1 = false →
    ['-'] <+: e.1.toList ∧ e.1.toList.length = 2 := by
  decide +kernel

/-- A short name is a dash and a letter. -/
theorem exists_letter (hn : (name, option) ∈ ValueOption.spellings) (hl : isLong name = false) :
    ∃ c, name.toList = ['-', c] ∧ c ≠ '-' := by
  obtain ⟨⟨rest, hrest⟩, hlen⟩ := short_shape _ hn hl
  obtain ⟨c, rfl⟩ : ∃ c, rest = [c] := by
    rw [← hrest] at hlen
    exact List.length_eq_one_iff.mp (by simpa using hlen)
  refine ⟨c, hrest.symm, ?_⟩
  rintro rfl
  simp [isLong, ← hrest] at hl

theorem option_of_spelling : ∀ e ∈ ValueOption.spellings, ValueOption.ofWord? e.1 = some e.2 := by
  decide +kernel

/-- The ways to give a value to an option. -/
inductive Gives (name value : String) : List String → Prop where
  | apart : Gives name value [name, value]
  | equals (hl : isLong name = true) : Gives name value [name ++ "=" ++ value]
  | joined (hl : isLong name = false) (hv : value ≠ "") : Gives name value [name ++ value]

theorem readInline_of_cut {cs ds : List Char}
    (hcut : ValueOption.cutInline? word.toList = some (cs, ds))
    (ho : ValueOption.ofWord? (String.ofList cs) = some option) : readInline? word =
      some (.inline option (String.ofList cs) (Word.unquoted (String.ofList ds))) := by
  simp [readInline?, hcut, ho]

theorem read_option (hn : (name, option) ∈ ValueOption.spellings) : read name = .option option := by
  have hoption : ∀ e ∈ ValueOption.spellings, isOption e.1.toList = true := by decide +kernel
  rw [read, hoption _ hn, option_of_spelling _ hn]
  rfl

theorem read_equals (hn : (name, option) ∈ ValueOption.spellings) (hl : isLong name = true)
    (value : String) :
    read (name ++ "=" ++ value) = .inline option name (Word.unquoted value) := by
  obtain ⟨rest, hrest⟩ := List.isPrefixOf_iff_prefix.mp hl
  have hname : '=' ∉ rest := by
    have hknown : name.toList ∈ knownWords :=
      List.mem_append_left _ (List.mem_append_left _ (List.mem_map_of_mem hn))
    have h := (known_shape _ hknown).1
    rw [← hrest] at h
    exact fun hm => h (List.mem_append_right _ hm)
  have hword : (name ++ "=" ++ value).toList = '-' :: '-' :: (rest ++ '=' :: value.toList) := by
    simp [← hrest]
  have hcut : ValueOption.cutInline? (name ++ "=" ++ value).toList =
      some (name.toList, value.toList) := by
    have hbefore : ∀ c ∈ rest, (c != '=') = true := by
      intro c hc
      exact bne_iff_ne.mpr fun heq => hname (heq ▸ hc)
    have hstop : ∀ c ∈ ('=' :: value.toList).head?, (c != '=') = false := by simp
    rw [hword, ValueOption.cutInline?, Text.dropWhile_append_stop hbefore hstop,
      Text.takeWhile_append_stop hbefore hstop, ← hrest]
    rfl
  rw [read_of_not_known]
  · rw [readInline_of_cut hcut (by rw [String.ofList_toList]; exact option_of_spelling _ hn),
      String.ofList_toList, String.ofList_toList]
    rfl
  · rw [hword]
    rfl
  · intro hknown
    exact (known_shape _ hknown).1 (by simp)

/-- Nothing known starts with a dash and a letter and is longer. -/
theorem not_known_of_letter {rest : List Char} {e : Char} (hc : c ≠ '-')
    (h : word.toList = '-' :: c :: e :: rest) : word.toList ∉ knownWords := by
  intro hknown
  obtain ⟨-, hlen | hdash⟩ := known_shape _ hknown
  · simp [h] at hlen
  · rw [h] at hdash
    simp [hc.symm] at hdash

theorem read_joined (hn : (name, option) ∈ ValueOption.spellings) (hl : isLong name = false)
    (hv : value ≠ "") : read (name ++ value) = .inline option name (Word.unquoted value) := by
  obtain ⟨c, hname, hc⟩ := exists_letter hn hl
  obtain ⟨e, rest, hvalue⟩ := List.exists_cons_of_ne_nil (l := value.toList) (by simpa using hv)
  have hword : (name ++ value).toList = '-' :: c :: e :: rest := by
    rw [String.toList_append, hvalue]
    exact congrArg (· ++ e :: rest) hname
  have hcut : ValueOption.cutInline? (name ++ value).toList = some (name.toList, value.toList) := by
    rw [hword, hvalue, hname]
    simp [ValueOption.cutInline?, hc]
  rw [read_of_not_known (by rw [hword]; rfl) (not_known_of_letter hc hword),
    readInline_of_cut hcut (by rw [String.ofList_toList]; exact option_of_spelling _ hn),
    String.ofList_toList, String.ofList_toList]
  rfl

/-- Whichever way it is given, the value is that of the option. -/
theorem follow_gives (hn : (name, option) ∈ ValueOption.spellings) (h : Gives name value ws)
    (d : Draft) (qs : List String) : follow policy d (ws ++ qs) =
      follow policy (apply policy option name (Word.unquoted value) d) qs := by
  cases h with
  | apart => exact follow_option (read_option hn) value qs
  | equals hl => exact follow_inline (read_equals hn hl value) qs
  | joined hl hv => exact follow_inline (read_joined hn hl hv) qs

/-! Switches. -/

/-- The switches that have a letter. -/
def switchLetters : List (Char × Switch) := Switch.all.flatMap fun s => s.short.toList.map (·, s)

/-- A dash and the letter of a switch are that switch and no option. -/
theorem switchLetters_shape : ∀ e ∈ switchLetters, e.1 ≠ '-' ∧
    ValueOption.ofWord? (String.ofList ['-', e.1]) = none ∧
      (Switch.ofWord? (String.ofList ['-', e.1])).map Switch.flag = some e.2.flag := by
  decide +kernel

theorem shape_of_letter {s : Switch} (h : Switch.ofLetter? c = some s) : c ≠ '-' ∧
    ValueOption.ofWord? (String.ofList ['-', c]) = none ∧
      (Switch.ofWord? (String.ofList ['-', c])).map Switch.flag = some s.flag := by
  have hshort : s.short = some c := by simpa using List.find?_some h
  have hmem : (c, s) ∈ switchLetters :=
    List.mem_flatMap.mpr ⟨s, List.mem_of_find?_eq_some h, by simp [hshort]⟩
  exact switchLetters_shape _ hmem

theorem read_letter {s : Switch} (h : Switch.ofLetter? c = some s) :
    read (String.ofList ['-', c]) = .switches [s.flag] := by
  obtain ⟨-, ho, hs⟩ := shape_of_letter h
  obtain ⟨t, ht, hflag⟩ := Option.map_eq_some_iff.mp hs
  have hoption : isOption (String.ofList ['-', c]).toList = true := by
    rw [String.toList_ofList]
    rfl
  rw [read, hoption, ho, ht, ← hflag]
  rfl

theorem cons_of_mapM {ss : List Switch} (h : (c :: cs).mapM Switch.ofLetter? = some ss) :
    ∃ s rest, Switch.ofLetter? c = some s ∧ cs.mapM Switch.ofLetter? = some rest ∧
      ss = s :: rest := by
  simp only [List.mapM_cons, Option.bind_eq_bind, Option.bind_eq_some_iff, Option.pure_def,
    Option.some.injEq] at h
  obtain ⟨s, hs, rest, hrest, rfl⟩ := h
  exact ⟨s, rest, hs, hrest, rfl⟩

theorem read_letters {ss : List Switch} (hlen : 2 ≤ cs.length)
    (h : cs.mapM Switch.ofLetter? = some ss) :
    read (String.ofList ('-' :: cs)) = .switches (ss.map Switch.flag) := by
  obtain ⟨c, e, rest, rfl⟩ : ∃ c e rest, cs = c :: e :: rest := by
    match cs, hlen with
    | c :: e :: rest, _ => exact ⟨c, e, rest, rfl⟩
  obtain ⟨s, -, hs, -, -⟩ := cons_of_mapM h
  obtain ⟨hc, ho, -⟩ := shape_of_letter hs
  have hword : (String.ofList ('-' :: c :: e :: rest)).toList = '-' :: c :: e :: rest :=
    String.toList_ofList
  have hcut : ValueOption.cutInline? ('-' :: c :: e :: rest) = some (['-', c], e :: rest) := by
    simp [ValueOption.cutInline?, hc]
  have hinline : readInline? (String.ofList ('-' :: c :: e :: rest)) = none := by
    rw [readInline?, hword, hcut]
    exact congrArg (Option.bind · _) ho
  have hcluster : Switch.cluster? ('-' :: c :: e :: rest) = some ss := by
    rw [Switch.cluster?, if_neg hc, h]
  rw [read_of_not_known (by rw [hword]; rfl) (not_known_of_letter hc hword), hinline, hword,
    hcluster]
  rfl

/-- Switches are set one after the other. -/
theorem follow_letters {ss : List Switch} (h : cs.mapM Switch.ofLetter? = some ss) (d : Draft)
    (qs : List String) : follow policy d (cs.map (fun c => String.ofList ['-', c]) ++ qs) =
      follow policy (setFlags (ss.map Switch.flag) d) qs := by
  induction cs generalizing d ss with
  | nil =>
    obtain rfl : ss = [] := by simpa using h.symm
    rfl
  | cons c cs ih =>
    obtain ⟨s, rest, hs, hrest, rfl⟩ := cons_of_mapM h
    rw [List.map_cons, List.cons_append, follow_switches (read_letter hs), ih hrest]
    rfl

/-- All the ways to give a value to an option say the same, and letters of switches behind one dash
say the same as each of them behind its own. -/
theorem spellings_say_the_same (h : ExpectsOption ps) (qs : List String) :
    (∀ name option, (name, option) ∈ ValueOption.spellings → ∀ value,
      (isLong name = true → interpret o (ps ++ (name ++ "=" ++ value) :: qs) =
        interpret o (ps ++ name :: value :: qs)) ∧
      (isLong name = false → value ≠ "" → interpret o (ps ++ (name ++ value) :: qs) =
        interpret o (ps ++ name :: value :: qs))) ∧
    ∀ letters : List Char, 2 ≤ letters.length →
      (∀ c ∈ letters, (Switch.ofLetter? c).isSome = true) →
      interpret o (ps ++ String.ofList ('-' :: letters) :: qs) =
        interpret o (ps ++ letters.map (fun c => String.ofList ['-', c]) ++ qs) := by
  have hgives {name value : String} {option : ValueOption} {ws : List String}
      (hn : (name, option) ∈ ValueOption.spellings) (hw : Gives name value ws) :
      interpret o (ps ++ (ws ++ qs)) = interpret o (ps ++ name :: value :: qs) := by
    have hapart : name :: value :: qs = [name, value] ++ qs := rfl
    rw [interpret_append h, follow_gives hn hw, hapart, interpret_append h, follow_gives hn .apart]
  refine ⟨fun name option hn value => ⟨fun hl => hgives hn (.equals hl), fun hl hv =>
    hgives hn (.joined hl hv)⟩, fun letters hlen hall => ?_⟩
  obtain ⟨ss, hss⟩ := Text.exists_mapM hall
  rw [List.append_assoc, interpret_append h, interpret_append h, follow_letters hss,
    follow_switches (read_letters hlen hss)]

theorem numbers_and_clusters_say_the_same : ExpectsOption ["'CURL'", "-d", "-m"] ∧
    interpret {} (["'CURL'", "-d", "-m"] ++ ("--max-time" ++ "=" ++ "\"=\"") :: ["-k"]) =
      interpret {} (["'CURL'", "-d", "-m"] ++ "--max-time" :: "\"=\"" :: ["-k"]) ∧
    interpret {} (["'CURL'", "-d", "-m"] ++ ("-X" ++ "-s") :: ["-k"]) =
      interpret {} (["'CURL'", "-d", "-m"] ++ "-X" :: "-s" :: ["-k"]) ∧
    interpret {} (["'CURL'", "-d", "-m"] ++ String.ofList ('-' :: ['s', 'S', 's']) :: ["-k"]) =
      interpret {} (["'CURL'", "-d", "-m"] ++
        ['s', 'S', 's'].map (fun c => String.ofList ['-', c]) ++ ["-k"]) := by
  have hp : ExpectsOption ["'CURL'", "-d", "-m"] :=
    ⟨⟨"'CURL'", rfl, by decide +kernel⟩, by decide +kernel⟩
  obtain ⟨hvalues, hletters⟩ := spellings_say_the_same (o := {}) hp ["-k"]
  refine ⟨hp, ?_, ?_, hletters ['s', 'S', 's'] (by decide) (List.all_eq_true.mp (by decide))⟩
  · exact (hvalues "--max-time" .maxTime (by decide) "\"=\"").1 (by decide)
  · exact (hvalues "-X" .request (by decide) "-s").2 (by decide) (by decide)

end CurlScribe.Command
