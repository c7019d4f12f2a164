import CurlScribe.Command.Interpret
import CurlScribe.Proofs.Command.Line
import CurlScribe.Proofs.Text.Cut

/-! What the options of an emitted command say when they are read. -/
namespace CurlScribe.Command

variable {policy : Repeated} {options : EmitOptions} {r : Request} {d : Draft} {p : Part}

/-! One word, or an option with its value. -/

/-- The switches of a cluster are known ones. -/
theorem mem_of_cluster {cs : List Char} {ss : List Switch} (h : Switch.cluster? cs = some ss) :
    ∀ s ∈ ss, s ∈ Switch.all := by
  unfold Switch.cluster? at h
  split at h
  · split at h
    · simp at h
    · intro s hs
      obtain ⟨c, -, hc⟩ := Text.mem_of_mapM h s hs
      exact List.mem_of_find?_eq_some hc
  · simp at h

/-- What a word can be read as, and why. -/
inductive IsReading (word : String) : Reading → Prop where
  | argument (h : isOption word.toList = false) : IsReading word .argument
  | option {o : ValueOption} (h : ValueOption.ofWord? word = some o) : IsReading word (.option o)
  | switches {switches : List Switch} (h : ∀ s ∈ switches, s ∈ Switch.all) :
      IsReading word (.switches (switches.map Switch.flag))
  | tls {version : String} (h : TlsVersion.ofWord? word = some version) :
      IsReading word (.tls version)
  | inline {name value : List Char} {o : ValueOption}
      (hcut : ValueOption.cutInline? word.toList = some (name, value))
      (h : ValueOption.ofWord? (String.ofList name) = some o) :
      IsReading word (.inline o (String.ofList name) (Word.unquoted (String.ofList value)))
  | unknown : IsReading word .unknown

theorem isReading_read (word : String) : IsReading word (read word) := by
  unfold read
  cases hoption : isOption word.toList with
  | false => exact .argument hoption
  | true =>
  cases ho : ValueOption.ofWord? word with
  | some o => exact .option ho
  | none =>
  cases hs : Switch.ofWord? word with
  | some s => exact @IsReading.switches word [s] (by simpa using List.mem_of_find?_eq_some hs)
  | none =>
  cases ht : TlsVersion.ofWord? word with
  | some version => exact .tls ht
  | none =>
  cases hi : readInline? word with
  | some reading =>
    simp only [readInline?, Option.bind_eq_bind, Option.bind_eq_some_iff, Option.pure_def,
      Option.some.injEq] at hi
    obtain ⟨⟨name, value⟩, hcut, o, ho, rfl⟩ := hi
    exact .inline hcut ho
  | none =>
  cases hc : Switch.cluster? word.toList with
  | some switches => exact .switches (mem_of_cluster hc)
  | none => exact .unknown

theorem switches_of_read {word : String} {flags : List String} (h : read word = .switches flags) :
    ∀ name ∈ flags, name ∈ Switch.all.map Switch.flag := by
  have hread := isReading_read word
  rw [h] at hread
  cases hread with
  | switches hs =>
    intro name hn
    obtain ⟨s, hm, rfl⟩ := List.mem_map.mp hn
    exact List.mem_map_of_mem (hs s hm)

theorem version_of_read {word version : String} (h : read word = .tls version) :
    version ∈ TlsVersion.all.map Prod.snd := by
  have hread := isReading_read word
  rw [h] at hread
  cases hread with
  | tls hv =>
    obtain ⟨before, after, hall, -⟩ := List.lookup_eq_some_iff.mp hv
    simp [hall]

/-- A long option and its value in one word are cut apart at an `=`. -/
theorem mem_of_cutInline {cs name value : List Char}
    (h : ValueOption.cutInline? cs = some (name, value)) (hlong : 2 < name.length) :
    '=' ∈ cs := by
  unfold ValueOption.cutInline? at h
  split at h
  · rename_i rest
    split at h
    · rename_i c value hd
      have hc := List.head?_dropWhile_not (p := fun c : Char => c != '=') (l := rest)
      have hmem : c ∈ rest := (List.dropWhile_suffix _).subset (by rw [hd]; simp)
      simp only [hd, List.head?_cons] at hc
      have heq : c = '=' := by simpa using hc
      rw [← heq]
      simp [hmem]
    · simp at h
  · obtain ⟨rfl, -⟩ := Prod.mk.inj (Option.some.inj h)
    simp at hlong
  · simp at h

/-- An address that stands in one word with its option has an `=` before it. -/
theorem mem_of_read_inline_url {word name value : String}
    (h : read word = .inline .url name value) : '=' ∈ word.toList := by
  have hread := isReading_read word
  rw [h] at hread
  cases hread with
  | @inline cs ds _ hcut ho =>
    obtain ⟨before, after, hall, -⟩ := List.lookup_eq_some_iff.mp ho
    have hm : (String.ofList cs, ValueOption.url) ∈ ValueOption.spellings := by simp [hall]
    have hname : ∀ e ∈ ValueOption.spellings, e.2 = .url → e.1 = "--url" := by decide
    have hlong : cs = "--url".toList := by
      rw [← hname _ hm rfl, String.toList_ofList]
    exact mem_of_cutInline hcut (by rw [hlong]; decide)

/-- What is done with a word depends on how it reads. -/
theorem follow_cons (word : String) (rest : List String) : follow policy d (word :: rest) =
    match read word, rest with
    | .option _, [] => d
    | .option o, value :: rest => follow policy (apply policy o word (Word.unquoted value) d) rest
    | .argument, rest => follow policy (addArgument word d) rest
    | .switches flags, rest => follow policy (setFlags flags d) rest
    | .tls version, rest =>
      follow policy { d with tls := { d.tls with version := some version } } rest
    | .inline o name value, rest => follow policy (apply policy o name value d) rest
    | .unknown, rest => follow policy (keep [word] d) rest :=
  follow.eq_def policy d (word :: rest)

theorem follow_option {word : String} {o : ValueOption} (h : read word = .option o)
    (value : String) (rest : List String) : follow policy d (word :: value :: rest) =
      follow policy (apply policy o word (Word.unquoted value) d) rest := by
  rw [follow_cons, h]

theorem follow_switches {word : String} {flags : List String} (h : read word = .switches flags)
    (rest : List String) :
    follow policy d (word :: rest) = follow policy (setFlags flags d) rest := by
  rw [follow_cons, h]

theorem follow_tls {word version : String} (h : read word = .tls version) (rest : List String) :
    follow policy d (word :: rest) =
      follow policy { d with tls := { d.tls with version := some version } } rest := by
  rw [follow_cons, h]

theorem follow_argument {word : String} (h : read word = .argument) (rest : List String) :
    follow policy d (word :: rest) = follow policy (addArgument word d) rest := by
  rw [follow_cons, h]

theorem follow_inline {word name value : String} {o : ValueOption}
    (h : read word = .inline o name value) (rest : List String) :
    follow policy d (word :: rest) = follow policy (apply policy o name value d) rest := by
  rw [follow_cons, h]

theorem follow_unknown {word : String} (h : read word = .unknown) (rest : List String) :
    follow policy d (word :: rest) = follow policy (keep [word] d) rest := by
  rw [follow_cons, h]

/-- Whether an option at the end of the words lacks its value. -/
def waits : List String → Bool
  | [] => false
  | word :: rest =>
    match read word, rest with
    | .option _, [] => true
    | .option _, _ :: rest => waits rest
    | _, rest => waits rest

/-- Words behind words that are complete are read from what those say. -/
theorem follow_append {us : List String} (h : waits us = false) (d : Draft) (vs : List String) :
    follow policy d (us ++ vs) = follow policy (follow policy d us) vs := by
  fun_induction follow policy d us with
  | case1 d => rfl
  | case2 d word o hr => simp [waits, hr] at h
  | case3 d word value rest o hr ih =>
    rw [List.cons_append, List.cons_append, follow_option hr]
    exact ih (by simpa [waits, hr] using h)
  | case4 d word rest hr ih =>
    rw [List.cons_append, follow_argument hr]
    exact ih (by simpa [waits, hr] using h)
  | case5 d word rest flags hr ih =>
    rw [List.cons_append, follow_switches hr]
    exact ih (by simpa [waits, hr] using h)
  | case6 d word rest version hr ih =>
    rw [List.cons_append, follow_tls hr]
    exact ih (by simpa [waits, hr] using h)
  | case7 d word rest o name value hr ih =>
    rw [List.cons_append, follow_inline hr]
    exact ih (by simpa [waits, hr] using h)
  | case8 d word rest hr ih =>
    rw [List.cons_append, follow_unknown hr]
    exact ih (by simpa [waits, hr] using h)

theorem read_switch : ∀ s ∈ Switch.all, read s.long = .switches [s.flag] := by
  simp only [Switch.all, List.forall_mem_cons]
  exact ⟨rfl, rfl, rfl, rfl, rfl, rfl, rfl, rfl, rfl, rfl, rfl, rfl, rfl, rfl, rfl, by simp⟩

theorem read_tls : ∀ e ∈ TlsVersion.all, read e.1 = .tls e.2 := by
  simp only [TlsVersion.all, List.forall_mem_cons]
  exact ⟨rfl, rfl, rfl, rfl, rfl, rfl, rfl, by simp⟩

/-- The option that a written name stands for. -/
def writtenOption (name : String) : ValueOption := (ValueOption.ofWord? name).getD .inert

theorem read_optionName : ∀ name ∈ optionNames, read name = .option (writtenOption name) := by
  simp only [optionNames, List.forall_mem_cons]
  exact ⟨rfl, rfl, rfl, rfl, rfl, rfl, rfl, rfl, rfl, rfl, rfl, rfl, rfl, rfl, rfl, rfl, rfl, rfl,
    rfl, rfl, by simp⟩

/-- What an option adds to a draft. -/
def Part.say (policy : Repeated) (d : Draft) : Part → Draft
  | switch word =>
    match read word with
    | .switches flags => setFlags flags d
    | .tls version => { d with tls := { d.tls with version := some version } }
    | _ => d
  | option name value => apply policy (writtenOption name) name value d

theorem follow_part (hp : p.IsKnown) (d : Draft) (rest : List String) :
    follow policy d (p.words ++ rest) = follow policy (p.say policy d) rest := by
  cases p with
  | option name value =>
    rw [Part.words, List.cons_append, List.cons_append, List.nil_append,
      follow_option (read_optionName name hp), Word.unquoted_quoted]
    rfl
  | switch word =>
    rw [Part.words, List.cons_append, List.nil_append]
    rcases List.mem_append.mp hp with h | h
    · obtain ⟨s, hs, rfl⟩ := List.mem_map.mp h
      have hr := read_switch s hs
      rw [follow_switches hr, Part.say, hr]
    · obtain ⟨e, he, rfl⟩ := List.mem_map.mp h
      have hr := read_tls e he
      rw [follow_tls hr, Part.say, hr]

/-- Options are read one after the other, whatever follows them. -/
theorem follow_parts {ps : List Part} (hp : ∀ p ∈ ps, p.IsKnown) (d : Draft)
    (rest : List String) :
    follow policy d (ps.flatMap Part.words ++ rest) =
      follow policy (ps.foldl (Part.say policy) d) rest := by
  induction ps generalizing d with
  | nil => rfl
  | cons p ps ih =>
    rw [List.flatMap_cons, List.append_assoc, follow_part (hp p (by simp)),
      ih fun q hq => hp q (by simp [hq])]
    rfl

/-- The words of a command between the name of the program and its end. -/
theorem follow_optionWords (d : Draft) (rest : List String) :
    follow policy d (optionWords options r ++ rest) =
      follow policy ((optionParts options r).foldl (Part.say policy) d) rest :=
  follow_parts (fun _ hp => isKnown_part hp) d rest

end CurlScribe.Command
