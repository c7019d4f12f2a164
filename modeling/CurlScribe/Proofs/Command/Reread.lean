import CurlScribe.Proofs.Command.RoundTrip

/-! Emitted commands that are read again: where they make a request, and with which method. -/
namespace CurlScribe.Command

variable {o : CommandOptions} {e : EmitOptions} {c : String} {r s : Request}

theorem emitted_is_read_iff (h : parse o c = .ok r) (e : EmitOptions) :
    (∃ s, parse o (emit e r) = .ok s) ↔ ∃ us u,
      Word.ofLine o.quoting (Text.trimmed (tail e r)) = .ok us ∧
        Text.nonBlank (foundAddress (optionPieces o.quoting.single e r ++ us)) = some u := by
  have hn := exists_of_tail e (exists_of_address h)
  constructor
  · rintro ⟨s, hs⟩
    obtain ⟨us, u, hus, hu, -⟩ := (parse_emit_iff hn).mp hs
    rw [url_follow, Option.none_or] at hu
    exact ⟨us, u, hus, hu⟩
  · rintro ⟨us, u, hus, hu⟩
    refine ⟨_, (parse_emit_iff hn).mpr ⟨us, u, hus, ?_, rfl⟩⟩
    rwa [url_follow, Option.none_or]

/-- No address is found among the options of a legible command. -/
theorem found_legible (h : Writable o.repeatedHeaders r) (hl : IsLegible e r)
    (us : List String) :
    foundAddress (optionPieces o.quoting.single e r ++ us) = foundAddress us := by
  have hf := congrArg Draft.url (follow_legible h hl o.quoting.single us)
  have hfront : (front e r).url = none := rfl
  simpa [url_follow, hfront] using hf

theorem legible_is_read_iff (h : parse o c = .ok r) (hl : IsLegible e r)
    (hk : Settled o.quoting.single r.rawOptions) (ha : Word.Unbroken (address r)) :
    (∃ s, parse o (emit e r) = .ok s) ↔ isHttp (address r) = true := by
  have hfound (us : List String) := found_legible (writable_of_parse h) hl us
  simp only [emitted_is_read_iff h e, ofLine_tail o.quoting hk ha, hfound, Except.ok.injEq,
    exists_and_left, exists_eq_left', found_settled hk, found_quoted]
  cases hh : isHttp (address r) with
  | true => simp [Text.nonBlank, Option.filter, blank_of_isHttp hh]
  | false => simp [Text.nonBlank]

/-- An emitted command makes a request exactly where an address is found in what it is cut into.
Where its options and what was kept are read as they are written, that is where its own address
starts like one. -/
theorem emitted_parses_iff (h : parse o c = .ok r) (e : EmitOptions) :
    ((∃ s, parse o (emit e r) = .ok s) ↔ ∃ us u,
      Word.ofLine o.quoting (Text.trimmed (tail e r)) = .ok us ∧
        Text.nonBlank (foundAddress (optionPieces o.quoting.single e r ++ us)) = some u) ∧
    (IsLegible e r → Settled o.quoting.single r.rawOptions → Word.Unbroken (address r) →
      ((∃ s, parse o (emit e r) = .ok s) ↔ isHttp (address r) = true)) :=
  ⟨emitted_is_read_iff h e, fun hl hk ha => legible_is_read_iff h hl hk ha⟩

/-- A request with an option that is kept. -/
def listed : Request :=
  (interpret {} ["curl", "-o", "out", "http://[::1]/"]).requestAt "http://[::1]/"

theorem parse_listed : parse {} "curl -o out http://[::1]/" = .ok listed :=
  parse_ok_iff.mpr ⟨["curl", "-o", "out", "http://[::1]/"], "http://[::1]/", by decide +kernel,
    rfl, by decide +kernel, rfl⟩

theorem settled_listed : Settled false listed.rawOptions :=
  .option (o := .inert) (isWord_of_isPlain false (show IsPlain "-o" by decide)) rfl (.inl rfl)
    (isWord_of_isPlain false (show IsPlain "out" by decide)) rfl .nil

theorem listed_is_read_again : parse {} "curl -o out http://[::1]/" = .ok listed ∧
    ∃ s, parse {} (emit {} listed) = .ok s := by
  have hl : ∀ text ∈ writtenValues {} listed, Word.HasPlainBlanks text := by decide +kernel
  have ha : Word.HasPlainBlanks (address listed) := by decide +kernel
  exact ⟨parse_listed, ((emitted_parses_iff parse_listed {}).2
    (fun text ht => Word.unbroken_of_plain_blanks (hl text ht)) settled_listed
    (Word.unbroken_of_plain_blanks ha)).mpr (by decide +kernel)⟩

/-- A request whose address is no argument when it stands alone. -/
def unschemed : Request :=
  (interpret {} ["curl", "--url", "example.com"]).requestAt "example.com"

/-- Not every emitted command makes a request. -/
theorem unschemed_is_not_read_again : parse {} "curl --url example.com" = .ok unschemed ∧
    ¬ ∃ s, parse {} (emit {} unschemed) = .ok s := by
  refine ⟨parse_ok_iff.mpr ⟨["curl", "--url", "example.com"], "example.com", by decide +kernel,
    rfl, by decide +kernel, rfl⟩, ?_⟩
  rintro ⟨s, hs⟩
  have hnone : (parse {} (emit {} unschemed)).toOption.isSome = false := by decide +kernel
  simp [hs, Except.toOption] at hnone

/-- The method of a command that was read again, without anything kept. -/
theorem method_reread (h : parse o c = .ok r) (hraw : r.rawOptions = []) (hl : IsLegible e r)
    (ha : Word.Unbroken (address r)) (hs : parse o (emit e r) = .ok s) :
    s.method = r.method ↔ KeepsMethod r := by
  have hw := writable_of_parse h
  have hk : Settled o.quoting.single r.rawOptions := hraw ▸ .nil
  have hh := (legible_is_read_iff h hl hk ha).mp ⟨s, hs⟩
  obtain ⟨us, u, hus, -, rfl⟩ := (parse_emit_iff (exists_of_tail e (exists_of_address h))).mp hs
  rw [ofLine_tail o.quoting hk ha, hraw, List.nil_append] at hus
  obtain rfl := Except.ok.inj hus
  have hurl : (front e r).url = none := rfl
  rw [follow_legible hw hl, follow_address o.repeatedHeaders hh hurl]
  exact method_eq_iff hw rfl rfl rfl (flag_front hw (by decide) (by decide))
    (flag_front hw (by decide) (by decide))

/-- A request with a body. -/
def sent : Request :=
  (interpret {} ["curl", "-d", "x", "http://[::1]/"]).requestAt "http://[::1]/"

theorem parse_sent : parse {} "curl -d x http://[::1]/" = .ok sent :=
  parse_ok_iff.mpr ⟨["curl", "-d", "x", "http://[::1]/"], "http://[::1]/", by decide +kernel, rfl,
    by decide +kernel, rfl⟩

theorem sent_keeps_its_method : ∃ s, parse {} (emit {} sent) = .ok s ∧ s.method = .post := by
  have hl : ∀ text ∈ writtenValues {} sent, Word.HasPlainBlanks text := by decide +kernel
  have hlegible : IsLegible {} sent := fun text ht => Word.unbroken_of_plain_blanks (hl text ht)
  have ha : Word.Unbroken (address sent) := Word.unbroken_of_plain_blanks (by decide +kernel)
  have hpost : sent.method = .post := by decide +kernel
  have hk : Settled false sent.rawOptions := .nil
  obtain ⟨s, hs⟩ := (legible_is_read_iff parse_sent hlegible hk ha).mpr (by decide +kernel)
  refine ⟨s, hs, ?_⟩
  rw [← hpost, method_reread parse_sent rfl hlegible ha hs]
  exact fun hget => by simp [hpost] at hget

/-- A request with method GET that asks for the head. -/
def headed : Request :=
  (interpret {} ["curl", "-X", "GET", "-I", "http://[::1]/"]).requestAt "http://[::1]/"

/-- Not every method is kept. -/
theorem headed_loses_its_method : ∃ s, parse {} "curl -X GET -I http://[::1]/" = .ok headed ∧
    headed.rawOptions = [] ∧ parse {} (emit {} headed) = .ok s ∧ s.method ≠ headed.method := by
  have hp : parse {} "curl -X GET -I http://[::1]/" = .ok headed :=
    parse_ok_iff.mpr ⟨["curl", "-X", "GET", "-I", "http://[::1]/"], "http://[::1]/",
      by decide +kernel, rfl, by decide +kernel, rfl⟩
  have hget : headed.method = .get := by decide +kernel
  have hhead : (parse {} (emit {} headed)).toOption.map Request.method = some .head := by
    decide +kernel
  cases hs : parse {} (emit {} headed) with
  | error err => simp [hs, Except.toOption] at hhead
  | ok s =>
    have hm : s.method = .head := by simpa [hs, Except.toOption] using hhead
    exact ⟨s, hp, rfl, rfl, by simp [hm, hget]⟩

end CurlScribe.Command
