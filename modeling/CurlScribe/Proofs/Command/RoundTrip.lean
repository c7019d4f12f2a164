import CurlScribe.Proofs.Command.Tail

/-! A request that is written as a command reads back. -/
namespace CurlScribe.Command

variable {o : CommandOptions} {e : EmitOptions} {policy : Repeated} {r : Request} {d : Draft}

theorem filter_finite {x : Option Binary64} (h : ∀ y, x = some y → y.isFinite = true) :
    x.filter Binary64.isFinite = x := by
  cases x with
  | none => rfl
  | some y => simp [Option.filter, h y rfl]

theorem spokenNetwork_eq (h : Writable policy r) (hd : d.network = r.network.getD {}) :
    d.spokenNetwork = r.network := by
  cases hn : r.network with
  | none =>
    have he : ({} : Network).tidied.isEmpty = true := rfl
    simp [Draft.spokenNetwork, hd, hn, he]
  | some n =>
    have hw := h.network n hn
    have hf := hw.finite
    have hc := filter_finite (x := n.connectTimeout) fun y hy => hf y (by simp [hy])
    have hm := filter_finite (x := n.maxTime) fun y hy => hf y (by simp [hy])
    have hr := filter_finite (x := n.retryDelay) fun y hy => hf y (by simp [hy])
    have ht := filter_finite (x := n.retryMaxTime) fun y hy => hf y (by simp [hy])
    have hn' : n.tidied = n := by
      rw [Network.tidied, hc, hm, hr, ht, hw.noTimeout, Option.filter_none, ← hw.noTimeout]
    simp [Draft.spokenNetwork, hd, hn, hn', hw.given]

theorem spokenTls_eq (h : Writable policy r) (hd : d.tls = r.tls.getD {}) :
    d.spokenTls = r.tls := by
  have hb : Text.nonBlank none = none := rfl
  cases ht : r.tls with
  | none =>
    have he : (Tls.merge {} {}).isEmpty = true := rfl
    simp [Draft.spokenTls, hd, ht, he]
  | some t =>
    have hw := h.tls t ht
    have hs := hw.spoken
    have hversion : ∀ v ∈ TlsVersion.all.map Prod.snd, Text.blank v = false := by decide +kernel
    have hm : Tls.merge t {} = t := by
      simp only [Tls.merge, hb, Option.or_none]
      rw [Text.nonBlank_of_spoken fun s hc => hs s (by simp [hc]),
        Text.nonBlank_of_spoken fun s hc => hs s (by simp [hc]),
        Text.nonBlank_of_spoken fun s hc => hs s (by simp [hc]),
        Text.nonBlank_of_spoken fun s hc => hs s (by simp [hc]),
        Text.nonBlank_of_spoken fun v hv => hversion v (hw.version v hv)]
    simp [Draft.spokenTls, hd, ht, hm, hw.given]

/-- The request that the options of a command make at its address. -/
theorem requestAt_front (h : Writable policy r) (hm : KeepsMethod r) (hraw : r.rawOptions = [])
    (a : String) : Draft.requestAt { front e r with url := some a } a =
      { r with
        url := a
        baseUrl := (Location.ofText a).baseUrl
        endpoint := (Location.ofText a).endpoint
        pathTemplate := (Template.ofEndpoint (Location.ofText a).endpoint).1
        pathParameters := (Template.ofEndpoint (Location.ofText a).endpoint).2
        queryParams := (Location.ofText a).queryParams
        flags := writtenFlags e r } := by
  have hget : Draft.flag { front e r with url := some a } "get" = r.flag "get" :=
    flag_front h (by decide) (by decide)
  have hhead : Draft.flag { front e r with url := some a } "head" = r.flag "head" :=
    flag_front h (by decide) (by decide)
  have hmethod := (method_eq_iff h rfl rfl rfl hhead hget).mpr hm
  have hproxy := Text.nonBlank_of_spoken fun s hs => h.spoken s (.inl hs)
  have hagent := Text.nonBlank_of_spoken fun s hs => h.spoken s (.inr (.inl hs))
  have hreferer := Text.nonBlank_of_spoken fun s hs => h.spoken s (.inr (.inr hs))
  rw [Draft.requestAt, hmethod, keptBody_eq h rfl hget, bodyPairs_eq h rfl hget,
    spokenNetwork_eq h rfl, spokenTls_eq h rfl]
  simp only [front, hproxy, hagent, hreferer, hraw, List.foldl_nil, List.filter_nil]

/-- An emitted command reads back as its request, at the address that was written. -/
theorem parse_emit (h : Writable o.repeatedHeaders r) (hm : KeepsMethod r)
    (hraw : r.rawOptions = []) (hl : IsLegible e r) (ha : Word.Unbroken (address r))
    (hh : isHttp (address r) = true) : parse o (emit e r) = .ok
      { r with
        url := address r
        baseUrl := (Location.ofText (address r)).baseUrl
        endpoint := (Location.ofText (address r)).endpoint
        pathTemplate := (Template.ofEndpoint (Location.ofText (address r)).endpoint).1
        pathParameters := (Template.ofEndpoint (Location.ofText (address r)).endpoint).2
        queryParams := (Location.ofText (address r)).queryParams
        flags := writtenFlags e r } := by
  have hs : Settled o.quoting.single r.rawOptions := hraw ▸ .nil
  have hn := exists_of_tail e (Text.exists_of_not_blank (blank_of_isHttp hh))
  have hw := ofLine_tail (e := e) o.quoting hs ha
  rw [hraw, List.nil_append] at hw
  have hf := follow_address o.repeatedHeaders hh (show (front e r).url = none from rfl)
  refine (parse_emit_iff hn).mpr ⟨_, address r, hw, ?_, ?_⟩
  · rw [follow_legible h hl, hf]
    simp [Text.nonBlank, Option.filter, blank_of_isHttp hh]
  · rw [follow_legible h hl, hf, requestAt_front h hm hraw]

/-- Parsing an emitted command gives the request back, with the parts of its address taken from the
address that was written and with its flags in the order of the switches. -/
theorem emitted_request_reads_back (o : CommandOptions) (hraw : r.rawOptions = [])
    (hblanks : ∀ text ∈ address r :: writtenValues e r, Word.HasPlainBlanks text)
    (hh : isHttp (address r) = true) (h : Writable o.repeatedHeaders r)
    (hm : r.method = .get →
      r.flag "head" = false ∧ (r.flag "get" = true → r.formData.entries = []))
    (hv : e.verbose = false) (hi : e.insecure = false) :
    ∃ flags : Flags, flags.same r.flags = true ∧ parse o (emit e r) = .ok
      { r with
        url := address r
        baseUrl := (Location.ofText (address r)).baseUrl
        endpoint := (Location.ofText (address r)).endpoint
        pathTemplate := (Template.ofEndpoint (Location.ofText (address r)).endpoint).1
        pathParameters := (Template.ofEndpoint (Location.ofText (address r)).endpoint).2
        queryParams := (Location.ofText (address r)).queryParams
        flags } := by
  have hkeeps : KeepsMethod r := by
    intro hget
    obtain ⟨hhead, hform⟩ := hm hget
    exact ⟨by simp [hhead], fun ⟨hg, hne⟩ => hne (hform hg)⟩
  have hl : IsLegible e r := fun text ht =>
    Word.unbroken_of_plain_blanks (hblanks text (List.mem_cons_of_mem _ ht))
  have ha : Word.Unbroken (address r) :=
    Word.unbroken_of_plain_blanks (hblanks _ List.mem_cons_self)
  refine ⟨writtenFlags e r, ?_, parse_emit h hkeeps hraw hl ha hh⟩
  refine Flags.same_of_isOn (allOn_writtenFlags e r) (allOn_flags h) fun name => ?_
  rw [isOn_writtenFlags h name]
  simp [isForced, hv, hi, Request.flag]

/-- A request with a header, a cookie, credentials, a body, a flag and a limit of time. -/
def posted : Request where
  method := .post
  url := "http://[::1]/a"
  baseUrl := "http://[::1]"
  endpoint := "/a"
  pathTemplate := "/a"
  headers := ⟨[⟨"Accept", "text/html", true⟩]⟩
  cookies := ⟨[⟨"id", "7", true⟩]⟩
  auth := some (.basic "me" "secret")
  body := some (.ofText "x=1")
  flags := Flags.empty.set "location" true
  network := some { maxTime := some .zero }

theorem writable_posted (policy : Repeated) : Writable policy posted where
  headers := by
    simp only [posted, List.forall_mem_singleton]
    exact ⟨rfl, by decide, by decide +kernel, by decide, by decide +kernel⟩
  headersDistinct := .inr (by decide)
  cookies := by
    simp only [posted, List.forall_mem_singleton]
    exact ⟨rfl, by decide +kernel, by decide, by decide, by decide +kernel⟩
  cookiesDistinct := by decide
  fields := by simp [posted, ParamList.empty]
  fieldsDistinct := List.nodup_nil
  auth a ha := by
    obtain rfl : Auth.basic "me" "secret" = a := Option.some.inj ha
    exact ⟨rfl, show ':' ∉ "me".toList by decide⟩
  flags := by decide
  body b hb := by
    obtain rfl : Body.ofText "x=1" = b := Option.some.inj hb
    exact ⟨by decide +kernel, rfl⟩
  bodyless hg := absurd hg (by decide)
  spoken := by simp [posted]
  network n hn := by
    obtain rfl : ({ maxTime := some .zero } : Network) = n := Option.some.inj hn
    refine ⟨rfl, rfl, ?_⟩
    simp only [reduceCtorEq, Option.some.injEq, false_or, or_false]
    rintro x rfl
    rfl
  tls := by simp [posted]

theorem posted_reads_back : ∃ flags : Flags, flags.same posted.flags = true ∧
    parse {} (emit {} posted) = .ok
      { posted with
        url := address posted
        baseUrl := (Location.ofText (address posted)).baseUrl
        endpoint := (Location.ofText (address posted)).endpoint
        pathTemplate := (Template.ofEndpoint (Location.ofText (address posted)).endpoint).1
        pathParameters := (Template.ofEndpoint (Location.ofText (address posted)).endpoint).2
        queryParams := (Location.ofText (address posted)).queryParams
        flags } :=
  emitted_request_reads_back {} rfl (by decide +kernel) (by decide +kernel)
    (writable_posted .lastWins) (fun h => nomatch h) rfl rfl

end CurlScribe.Command
