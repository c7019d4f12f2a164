import CurlScribe.Proofs.Command.Writable
import CurlScribe.Proofs.Request.Flags
import CurlScribe.Proofs.Request.Tidy

/-! The draft that the options of an emitted command are read as. -/
namespace CurlScribe.Command

variable {policy : Repeated} {options : EmitOptions} {r : Request} {d : Draft}

/-- The method that a command names. -/
def writtenMethod (r : Request) : Option Method :=
  if r.method ≠ .get ∨ ((r.spokenBody.isSome || !r.formData.enabled.isEmpty) ∧ !r.flag "get")
  then some r.method else none

/-- The flags that a command sets, in the order of its switches. -/
def writtenFlags (options : EmitOptions) (r : Request) : Flags :=
  Flags.empty.setAll ((Switch.all.filter (isWritten options r)).map Switch.flag)

/-- What the options of a command say. -/
def front (options : EmitOptions) (r : Request) : Draft where
  method := writtenMethod r
  headers := r.headers
  body := r.body
  formData := r.formData
  cookies := r.cookies
  auth := r.auth
  proxy := r.proxy
  userAgent := r.userAgent
  referer := r.referer
  flags := writtenFlags options r
  network := r.network.getD {}
  tls := r.tls.getD {}

/-! One group of options after the other. -/

theorem say_methodParts (hd : d.method = none) :
    (methodParts r).foldl (Part.say policy) d = { d with method := writtenMethod r } := by
  simp only [methodParts, writtenMethod]
  split
  · have ho : writtenOption "-X" = .request := rfl
    simp [Part.say, ho, apply, Method.ofText_name]
  · simp [← hd]

theorem say_header {p : Param} (hp : p.IsHeader) (d : Draft) :
    Part.say policy d (.option "-H" (p.key ++ ": " ++ p.value)) =
      { d with headers := d.headers.insertWith policy p.key p.value } := by
  have ho : writtenOption "-H" = .header := rfl
  have ht : (p.key ++ ": " ++ p.value).toList = p.key.toList ++ ':' :: ' ' :: p.value.toList := by
    simp
  have hk : Text.trim p.key.toList = p.key.toList := hp.key
  have hne : p.key.toList ≠ [] := by simpa using hp.named
  simp [Part.say, ho, apply, addHeader, ht, cutAt_append hp.noColon, hk, trim_blank hp.value, hne]

theorem say_headers {ps : List Param} (hp : ∀ p ∈ ps, p.IsHeader) (d : Draft) :
    (ps.map fun p => Part.option "-H" (p.key ++ ": " ++ p.value)).foldl (Part.say policy) d =
      { d with
        headers := ps.foldl (fun l p => l.insertWith policy p.key p.value) d.headers } := by
  induction ps generalizing d with
  | nil => rfl
  | cons p ps ih =>
    rw [List.map_cons, List.foldl_cons, say_header (hp p (by simp)),
      ih fun q hq => hp q (by simp [hq])]
    rfl

theorem say_headerParts (h : Writable policy r) (hd : d.headers = .empty) :
    (headerParts r).foldl (Part.say policy) d = { d with headers := r.headers } := by
  have he : ∀ p ∈ r.headers.entries, p.enabled = true := fun p hp => (h.headers p hp).enabled
  rw [headerParts, ParamList.enabled_eq he, say_headers h.headers, hd,
    ParamList.insertAll_empty policy r.headers he h.headersDistinct]

theorem say_field {p : Param} (hp : p.IsField) (d : Draft) :
    Part.say policy d (.option "-F" (p.key ++ "=" ++ p.value)) =
      { d with formData := d.formData.insert p.key p.value } := by
  have ho : writtenOption "-F" = .form := rfl
  have ht : (p.key ++ "=" ++ p.value).toList = p.key.toList ++ '=' :: p.value.toList := by simp
  have hk : Text.trim p.key.toList = p.key.toList := hp.key
  simp [Part.say, ho, apply, addFormField, ht, cutAt_append hp.noEquals, hk]

theorem say_fields {ps : List Param} (hp : ∀ p ∈ ps, p.IsField) (d : Draft) :
    (ps.map fun p => Part.option "-F" (p.key ++ "=" ++ p.value)).foldl (Part.say policy) d =
      { d with
        formData := ps.foldl (fun l p => l.insertWith .lastWins p.key p.value) d.formData } := by
  induction ps generalizing d with
  | nil => rfl
  | cons p ps ih =>
    rw [List.map_cons, List.foldl_cons, say_field (hp p (by simp)),
      ih fun q hq => hp q (by simp [hq])]
    rfl

theorem say_formParts (h : Writable policy r) (hd : d.formData = .empty) :
    (formParts r).foldl (Part.say policy) d = { d with formData := r.formData } := by
  have he : ∀ p ∈ r.formData.entries, p.enabled = true := fun p hp => (h.fields p hp).enabled
  rw [formParts, ParamList.enabled_eq he, say_fields h.fields, hd,
    ParamList.insertAll_empty .lastWins r.formData he (.inr h.fieldsDistinct)]

theorem say_cookieParts (h : Writable policy r) (hd : d.cookies = .empty) :
    (cookieParts r).foldl (Part.say policy) d = { d with cookies := r.cookies } := by
  have he : ∀ p ∈ r.cookies.entries, p.enabled = true := fun p hp => (h.cookies p hp).enabled
  have ho : writtenOption "-b" = .cookie := rfl
  rw [cookieParts, ParamList.enabled_eq he]
  cases hps : r.cookies.entries with
  | nil =>
    have hr : r.cookies = d.cookies := by
      rw [hd, ParamList.empty, ← hps]
    simp [hr]
  | cons p ps =>
    have hne : r.cookies.entries ≠ [] := by simp [hps]
    have hread := readCookies_joined hne h.cookies [] (.inl rfl)
    have hall := ParamList.insertAll_empty .lastWins r.cookies he (.inr h.cookiesDistinct)
    have hc : (("; ".intercalate ((p :: ps).map fun p =>
        p.key ++ "=" ++ p.value)).toList.contains '=') = true := by
      cases ps <;> simp [String.intercalate_cons_cons]
    rw [hps, List.nil_append] at hread
    rw [hps] at hall
    simp only [List.foldl_cons, List.foldl_nil, Part.say, ho, apply, addCookies, hc, if_true, hread,
      List.foldl_map, hd]
    exact congrArg (fun cookies => { d with cookies }) hall

theorem say_authParts (h : Writable policy r) (hd : d.auth = none) :
    (authParts r).foldl (Part.say policy) d = { d with auth := r.auth } := by
  have hbasic : writtenOption "-u" = .user := rfl
  have hbearer : writtenOption "--oauth2-bearer" = .bearer := rfl
  cases ha : r.auth with
  | none =>
    have hp : authParts r = [] := by simp [authParts, Request.enabledScheme, ha]
    rw [hp, ← hd]
    rfl
  | some a =>
    obtain ⟨scheme, enabled⟩ := a
    obtain ⟨he, hs⟩ := h.auth _ ha
    obtain rfl : enabled = true := he
    cases scheme with
    | none => exact hs.elim
    | basic username password =>
      have ht : (username ++ ":" ++ password).toList =
          username.toList ++ ':' :: password.toList := by simp
      simp [authParts, Request.enabledScheme, ha, Part.say, hbasic, apply, ht, readUser_append hs,
        Auth.basic, Option.filter]
    | bearer token =>
      simp [authParts, Request.enabledScheme, ha, Part.say, hbearer, apply, Auth.bearer,
        Option.filter]

theorem say_bodyParts (h : Writable policy r) (hd : d.body = none) :
    (bodyParts r).foldl (Part.say policy) d = { d with body := r.body } := by
  have ho : writtenOption "-d" = .data := rfl
  cases hb : r.body with
  | none =>
    have hp : bodyParts r = [] := by simp [bodyParts, optionalPart, Request.spokenBody, hb]
    rw [hp, ← hd]
    rfl
  | some b =>
    obtain ⟨hblank, hraw⟩ := h.body b hb
    simp [bodyParts, optionalPart, Request.spokenBody, hb, Option.filter, hblank, Part.say, ho,
      apply, ← hraw]

/-- An optional part says something where it has a value. -/
theorem say_mappedPart {α : Type} {name : String} (value : Option α) (text : α → String)
    {f : Option α → Draft} (hn : f none = d) (hs : ∀ a, value = some a →
      apply policy (writtenOption name) name (text a) d = f (some a)) :
    (optionalPart name (value.map text)).foldl (Part.say policy) d = f value := by
  cases value with
  | none => simp [optionalPart, hn]
  | some a => simpa [optionalPart, Part.say] using hs a rfl

theorem say_optionalPart {name : String} (value : Option String) {f : Option String → Draft}
    (hn : f none = d) (hs : ∀ v, apply policy (writtenOption name) name v d = f (some v)) :
    (optionalPart name value).foldl (Part.say policy) d = f value := by
  have h := say_mappedPart value id hn fun v _ => hs v
  rwa [Option.map_id] at h

theorem say_identityParts (hp : d.proxy = none) (ha : d.userAgent = none)
    (hr : d.referer = none) : (identityParts r).foldl (Part.say policy) d =
      { d with proxy := r.proxy, userAgent := r.userAgent, referer := r.referer } := by
  have hx : writtenOption "-x" = .proxy := rfl
  have hA : writtenOption "-A" = .userAgent := rfl
  have he : writtenOption "-e" = .referer := rfl
  rw [identityParts, List.foldl_append, List.foldl_append,
    say_optionalPart r.proxy (f := fun a => { d with proxy := a }) (by simp [← hp])
      (by simp [hx, apply]),
    say_optionalPart r.userAgent (f := fun a => { d with proxy := r.proxy, userAgent := a })
      (by simp [← ha]) (by simp [hA, apply]),
    say_optionalPart r.referer
      (f := fun a => { d with proxy := r.proxy, userAgent := r.userAgent, referer := a })
      (by simp [← hr]) (by simp [he, apply])]

theorem say_switches {ss : List Switch} (hs : ∀ s ∈ ss, s ∈ Switch.all) (d : Draft) :
    (ss.map fun s => Part.switch s.long).foldl (Part.say policy) d =
      { d with flags := d.flags.setAll (ss.map Switch.flag) } := by
  induction ss generalizing d with
  | nil => rfl
  | cons s ss ih =>
    rw [List.map_cons, List.foldl_cons, Part.say, read_switch s (hs s (by simp)),
      ih fun q hq => hs q (by simp [hq])]
    rfl

theorem say_switchParts (hd : d.flags = .empty) :
    (switchParts options r).foldl (Part.say policy) d =
      { d with flags := writtenFlags options r } := by
  rw [switchParts, say_switches (fun s hs => (List.mem_filter.mp hs).1), hd]
  rfl

/-! Numbers. -/

theorem real_realText {x : Binary64} (h : x.isFinite = true) :
    Argument.real? (Text.trim (realText x).toList) = some x := by
  rw [realText, String.toList_ofList, Text.trim_of_not_blank (Argument.not_blank_plainText h)]
  exact Argument.real_plainText h

theorem count_countText (n : UInt32) :
    Argument.count32? (Text.trim (countText n).toList) = some n := by
  have hb : ∀ c ∈ decimalDigits n.toNat, Text.isBlank c = false := fun c hc =>
    Argument.not_blank_of_digit (isDigit_of_mem_decimalDigits hc)
  rw [countText, String.toList_ofList, Text.trim_of_not_blank hb]
  exact Argument.count_decimalDigits n

theorem integer_integerText (n : Int32) :
    Argument.integer32? (Text.trim (integerText n).toList) = some n := by
  have ht : (integerText n).toList =
      (if n < 0 then ['-'] else []) ++ decimalDigits n.toInt.natAbs := by
    rw [integerText, String.toList_ofList]
    split <;> rfl
  have hb : ∀ c ∈ (if n < 0 then ['-'] else []) ++ decimalDigits n.toInt.natAbs,
      Text.isBlank c = false := by
    intro c hc
    rcases List.mem_append.mp hc with hc | hc
    · split at hc
      · rw [List.mem_singleton.mp hc]
        decide
      · simp at hc
    · exact Argument.not_blank_of_digit (isDigit_of_mem_decimalDigits hc)
  rw [ht, Text.trim_of_not_blank hb]
  exact Argument.integer_decimalDigits n

theorem say_networkParts {n : Network} (hn : n.IsWritable) (hd : d.network = {}) :
    (networkParts n).foldl (Part.say policy) d = { d with network := n } := by
  have h1 : writtenOption "--connect-timeout" = .connectTimeout := rfl
  have h2 : writtenOption "--max-time" = .maxTime := rfl
  have h3 : writtenOption "--retry" = .retry := rfl
  have h4 : writtenOption "--retry-delay" = .retryDelay := rfl
  have h5 : writtenOption "--retry-max-time" = .retryMaxTime := rfl
  have h6 : writtenOption "--max-redirs" = .maxRedirects := rfl
  have hf := hn.finite
  obtain ⟨timeout, connectTimeout, maxTime, retry, retryDelay, retryMaxTime, maxRedirects⟩ := n
  obtain rfl : timeout = none := hn.noTimeout
  rw [networkParts, List.foldl_append, List.foldl_append, List.foldl_append, List.foldl_append,
    List.foldl_append, Option.or_none,
    say_mappedPart connectTimeout realText
      (f := fun a => { d with network := ⟨none, a, none, none, none, none, none⟩ }) (by simp [← hd])
      fun x hx => by simp [h1, apply, hd, real_realText (hf x (by simp [hx]))],
    say_mappedPart maxTime realText
      (f := fun a => { d with network := ⟨none, connectTimeout, a, none, none, none, none⟩ }) rfl
      fun x hx => by simp [h2, apply, real_realText (hf x (by simp [hx]))],
    say_mappedPart retry countText
      (f := fun a => { d with network := ⟨none, connectTimeout, maxTime, a, none, none, none⟩ }) rfl
      fun n _ => by simp [h3, apply, count_countText],
    say_mappedPart retryDelay realText
      (f := fun a => { d with
        network := ⟨none, connectTimeout, maxTime, retry, a, none, none⟩ }) rfl
      fun x hx => by simp [h4, apply, real_realText (hf x (by simp [hx]))],
    say_mappedPart retryMaxTime realText
      (f := fun a => { d with
        network := ⟨none, connectTimeout, maxTime, retry, retryDelay, a, none⟩ }) rfl
      fun x hx => by simp [h5, apply, real_realText (hf x (by simp [hx]))],
    say_mappedPart maxRedirects integerText
      (f := fun a => { d with
        network := ⟨none, connectTimeout, maxTime, retry, retryDelay, retryMaxTime, a⟩ }) rfl
      fun n _ => by simp [h6, apply, integer_integerText]]

/-- The option of every known version names it. -/
theorem read_version {v : String} (h : v ∈ TlsVersion.all.map Prod.snd) :
    ∃ word, TlsVersion.option? v = some word ∧ read word = .tls v := by
  have ho : ∀ e ∈ TlsVersion.all, TlsVersion.option? e.2 = some e.1 := by decide +kernel
  obtain ⟨e, he, rfl⟩ := List.mem_map.mp h
  exact ⟨e.1, ho e he, read_tls e he⟩

theorem say_tlsParts {t : Tls} (ht : t.IsWritable) (hd : d.tls = {}) :
    (tlsParts t).foldl (Part.say policy) d = { d with tls := t } := by
  have h1 : writtenOption "--cert" = .cert := rfl
  have h2 : writtenOption "--key" = .key := rfl
  have h3 : writtenOption "--cacert" = .caCert := rfl
  have h4 : writtenOption "--capath" = .caPath := rfl
  have hv := ht.version
  obtain ⟨cert, key, caCert, caPath, version⟩ := t
  rw [tlsParts, List.foldl_append, List.foldl_append, List.foldl_append, List.foldl_append,
    say_optionalPart cert (f := fun a => { d with tls := { cert := a } }) (by simp [← hd])
      fun v => by simp [h1, apply, hd],
    say_optionalPart key (f := fun a => { d with tls := { cert, key := a } }) rfl
      fun v => by simp [h2, apply],
    say_optionalPart caCert (f := fun a => { d with tls := { cert, key, caCert := a } }) rfl
      fun v => by simp [h3, apply],
    say_optionalPart caPath (f := fun a => { d with tls := { cert, key, caCert, caPath := a } }) rfl
      fun v => by simp [h4, apply]]
  cases version with
  | none => simp
  | some v =>
    obtain ⟨word, ho, hr⟩ := read_version (hv v rfl)
    simp [ho, Part.say, hr]

theorem say_networkGroup (h : Writable policy r) (hd : d.network = {}) :
    ((r.network.map networkParts).getD []).foldl (Part.say policy) d =
      { d with network := r.network.getD {} } := by
  cases hn : r.network with
  | none => simp [← hd]
  | some n => exact say_networkParts (h.network n hn) hd

theorem say_tlsGroup (h : Writable policy r) (hd : d.tls = {}) :
    ((r.tls.map tlsParts).getD []).foldl (Part.say policy) d =
      { d with tls := r.tls.getD {} } := by
  cases ht : r.tls with
  | none => simp [← hd]
  | some t => exact say_tlsParts (h.tls t ht) hd

/-- The options of a command are read as the parts of its request. -/
theorem say_optionParts (h : Writable policy r) :
    (optionParts options r).foldl (Part.say policy) {} = front options r := by
  rw [optionParts]
  iterate 9 rw [List.foldl_append]
  rw [say_methodParts rfl, say_headerParts h rfl, say_cookieParts h rfl, say_authParts h rfl,
    say_formParts h rfl, say_bodyParts h rfl, say_identityParts rfl rfl rfl, say_switchParts,
    say_networkGroup h, say_tlsGroup h]
  · rfl
  · rfl
  · rfl
  · rfl

/-- What stands at the end of a command is read on top of its options. -/
theorem follow_front (h : Writable policy r) (rest : List String) :
    follow policy {} (optionWords options r ++ rest) = follow policy (front options r) rest := by
  rw [follow_optionWords, say_optionParts h]

end CurlScribe.Command
