import CurlScribe.Proofs.Command.Address
import CurlScribe.Proofs.Command.Spelling

/-! Options that set different things can change places. What an option says is read from the fields
that it sets and is seen in no others. -/
namespace CurlScribe

/-- The fields of a draft, the settings of its connection one by one. -/
inductive Draft.Field where
  | method | url | baseUrl | endpoint | pathTemplate | pathParameters | queryParams | headers
  | body | formData | cookies | auth | proxy | userAgent | referer | flags | rawOptions
  | timeout | connectTimeout | maxTime | retry | retryDelay | retryMaxTime | maxRedirects
  | networkGroup | cert | key | caCert | caPath | version | tlsGroup
deriving DecidableEq

/-- The draft that has some fields of one draft and all others of another. -/
def Draft.overlay (inside : Draft.Field → Bool) (d e : Draft) : Draft where
  method := bif inside .method then d.method else e.method
  url := bif inside .url then d.url else e.url
  baseUrl := bif inside .baseUrl then d.baseUrl else e.baseUrl
  endpoint := bif inside .endpoint then d.endpoint else e.endpoint
  pathTemplate := bif inside .pathTemplate then d.pathTemplate else e.pathTemplate
  pathParameters := bif inside .pathParameters then d.pathParameters else e.pathParameters
  queryParams := bif inside .queryParams then d.queryParams else e.queryParams
  headers := bif inside .headers then d.headers else e.headers
  body := bif inside .body then d.body else e.body
  formData := bif inside .formData then d.formData else e.formData
  cookies := bif inside .cookies then d.cookies else e.cookies
  auth := bif inside .auth then d.auth else e.auth
  proxy := bif inside .proxy then d.proxy else e.proxy
  userAgent := bif inside .userAgent then d.userAgent else e.userAgent
  referer := bif inside .referer then d.referer else e.referer
  flags := bif inside .flags then d.flags else e.flags
  rawOptions := bif inside .rawOptions then d.rawOptions else e.rawOptions
  network := {
    timeout := bif inside .timeout then d.network.timeout else e.network.timeout
    connectTimeout :=
      bif inside .connectTimeout then d.network.connectTimeout else e.network.connectTimeout
    maxTime := bif inside .maxTime then d.network.maxTime else e.network.maxTime
    retry := bif inside .retry then d.network.retry else e.network.retry
    retryDelay := bif inside .retryDelay then d.network.retryDelay else e.network.retryDelay
    retryMaxTime :=
      bif inside .retryMaxTime then d.network.retryMaxTime else e.network.retryMaxTime
    maxRedirects :=
      bif inside .maxRedirects then d.network.maxRedirects else e.network.maxRedirects }
  networkGroup := bif inside .networkGroup then d.networkGroup else e.networkGroup
  tls := {
    cert := bif inside .cert then d.tls.cert else e.tls.cert
    key := bif inside .key then d.tls.key else e.tls.key
    caCert := bif inside .caCert then d.tls.caCert else e.tls.caCert
    caPath := bif inside .caPath then d.tls.caPath else e.tls.caPath
    version := bif inside .version then d.tls.version else e.tls.version }
  tlsGroup := bif inside .tlsGroup then d.tlsGroup else e.tlsGroup

namespace Draft

variable {inside : Draft.Field → Bool} {d e : Draft}

@[simp] theorem overlay_self (inside : Draft.Field → Bool) (d : Draft) :
    overlay inside d d = d := by
  simp only [overlay, Bool.cond_self]

theorem overlay_not (inside : Draft.Field → Bool) (d e : Draft) :
    overlay (fun f => !inside f) d e = overlay inside e d := by
  simp only [overlay, Bool.cond_not]

end Draft

namespace Command

/-- What one option says, or one argument. -/
inductive Saying where
  | given (option : ValueOption) (name value : String)
  | switches (flags : List String)
  | tls (version : String)
  | argument (word : String)
  | unknown (word : String)

namespace Saying

/-- A draft after one more saying. -/
def add (policy : Repeated) (d : Draft) : Saying → Draft
  | given option name value => apply policy option name value d
  | switches flags => setFlags flags d
  | tls version => { d with tls := { d.tls with version := some version } }
  | argument word => addArgument word d
  | unknown word => keep [word] d

/-- The fields that a saying may set. -/
def fields : Saying → List Draft.Field
  | given option _ _ =>
    match option with
    | .request => [.method]
    | .header => [.headers]
    | .data => [.body]
    | .user => [.auth]
    | .bearer => [.auth]
    | .form => [.formData]
    | .cookie => [.cookies, .rawOptions]
    | .userAgent => [.userAgent]
    | .referer => [.referer]
    | .proxy => [.proxy]
    | .url => [.url, .rawOptions]
    | .maxTime => [.maxTime]
    | .connectTimeout => [.connectTimeout]
    | .retry => [.retry]
    | .retryDelay => [.retryDelay]
    | .retryMaxTime => [.retryMaxTime]
    | .maxRedirects => [.maxRedirects]
    | .cert => [.cert]
    | .key => [.key]
    | .caCert => [.caCert]
    | .caPath => [.caPath]
    | .inert => [.rawOptions]
  | switches _ => [.flags]
  | tls _ => [.version]
  | argument word => if isHttp (Word.unquoted word) then [.url, .rawOptions] else [.rawOptions]
  | unknown _ => [.rawOptions]

end Saying

/-- These words are one option with all that belongs to it, or one argument, and say this. -/
inductive Says : List String → Saying → Prop
  | apart {word : String} {option : ValueOption} (h : read word = .option option)
    (value : String) : Says [word, value] (.given option word (Word.unquoted value))
  | inline {word name value : String} {option : ValueOption}
    (h : read word = .inline option name value) : Says [word] (.given option name value)
  | switches {word : String} {flags : List String} (h : read word = .switches flags) :
    Says [word] (.switches flags)
  | tls {word version : String} (h : read word = .tls version) : Says [word] (.tls version)
  | argument {word : String} (h : read word = .argument) : Says [word] (.argument word)
  | unknown {word : String} (h : read word = .unknown) : Says [word] (.unknown word)

variable {o : CommandOptions} {policy : Repeated} {d t : Draft} {option : ValueOption}
  {name value word : String} {ps us vs : List String} {x y : Saying} {inside : Draft.Field → Bool}

theorem follow_says (h : Says us x) (d : Draft) (qs : List String) :
    follow policy d (us ++ qs) = follow policy (x.add policy d) qs := by
  cases h with
  | apart h value => exact follow_option h value qs
  | inline h => exact follow_inline h qs
  | switches h => exact follow_switches h qs
  | tls h => exact follow_tls h qs
  | argument h => exact follow_argument h qs
  | unknown h => exact follow_unknown h qs

/-! What is said depends on the fields that it sets, and on no others. -/

theorem addHeader_overlay (h : inside .headers = true) (value : List Char) (d e : Draft) :
    addHeader policy value (Draft.overlay inside d e) =
      Draft.overlay inside (addHeader policy value d) e := by
  unfold addHeader
  split
  · dsimp only
    split
    · rfl
    · simp only [Draft.overlay, h, cond_true]
  · rfl

theorem keep_overlay (h : inside .rawOptions = true) (words : List String) (d e : Draft) :
    keep words (Draft.overlay inside d e) = Draft.overlay inside (keep words d) e := by
  simp only [keep, Draft.overlay, h, cond_true]

theorem addCookies_overlay (hc : inside .cookies = true) (hr : inside .rawOptions = true)
    (name value : String) (d e : Draft) : addCookies name value (Draft.overlay inside d e) =
      Draft.overlay inside (addCookies name value d) e := by
  unfold addCookies
  split
  · simp only [Draft.overlay, hc, cond_true]
  · exact keep_overlay hr _ d e

theorem url_overlay (h : inside .url = true) (d e : Draft) :
    (Draft.overlay inside d e).url = d.url := by
  simp only [Draft.overlay, h, cond_true]

theorem setUrl_overlay (h : inside .url = true) (u : String) (d e : Draft) :
    { Draft.overlay inside d e with url := some u } =
      Draft.overlay inside { d with url := some u } e := by
  simp only [Draft.overlay, h, cond_true]

theorem addArgument_overlay (h : ∀ f ∈ (Saying.argument word).fields, inside f = true)
    (d e : Draft) : addArgument word (Draft.overlay inside d e) =
      Draft.overlay inside (addArgument word d) e := by
  rw [addArgument_eq, addArgument_eq]
  cases hh : isHttp (Word.unquoted word) with
  | false =>
    exact keep_overlay (h _ (by simp [Saying.fields, hh])) _ d e
  | true =>
    have hu : inside .url = true := h _ (by simp [Saying.fields, hh])
    have hr : inside .rawOptions = true := h _ (by simp [Saying.fields, hh])
    rw [url_overlay hu]
    split
    · exact setUrl_overlay hu _ d e
    · exact keep_overlay hr _ d e

theorem apply_overlay (h : ∀ f ∈ (Saying.given option name value).fields, inside f = true)
    (d e : Draft) : apply policy option name value (Draft.overlay inside d e) =
      Draft.overlay inside (apply policy option name value d) e := by
  unfold apply
  dsimp only
  generalize Argument.real? (Text.trim value.toList) = x
  generalize Argument.count32? (Text.trim value.toList) = y
  generalize Argument.integer32? (Text.trim value.toList) = z
  cases option with
  | request =>
    dsimp only
    split
    · have hm : inside .method = true := h _ (by simp [Saying.fields])
      simp only [Draft.overlay, hm, cond_true]
    · rfl
  | header => exact addHeader_overlay (h _ (by simp [Saying.fields])) _ d e
  | cookie =>
    exact addCookies_overlay (h _ (by simp [Saying.fields])) (h _ (by simp [Saying.fields])) _ _ d e
  | url =>
    have hu : inside .url = true := h _ (by simp [Saying.fields])
    have hr : inside .rawOptions = true := h _ (by simp [Saying.fields])
    dsimp only
    rw [url_overlay hu]
    split
    · exact setUrl_overlay hu _ d e
    · exact keep_overlay hr _ d e
  | inert => exact keep_overlay (h _ (by simp [Saying.fields])) _ d e
  | _ =>
    simp only [Saying.fields, List.forall_mem_singleton] at h
    simp only [addFormField, Draft.overlay, h, cond_true]

/-- A saying does to some fields of a draft what it does to them in any other, if all that it sets
are among them. -/
theorem add_overlay (h : ∀ f ∈ x.fields, inside f = true) (d e : Draft) :
    x.add policy (Draft.overlay inside d e) = Draft.overlay inside (x.add policy d) e := by
  cases x with
  | given option name value => exact apply_overlay h d e
  | switches flags =>
    have hf : inside .flags = true := h _ (by simp [Saying.fields])
    simp only [Saying.add, setFlags, Draft.overlay, hf, cond_true]
  | tls version =>
    have hv : inside .version = true := h _ (by simp [Saying.fields])
    simp only [Saying.add, Draft.overlay, hv, cond_true]
  | argument word => exact addArgument_overlay h d e
  | unknown word => exact keep_overlay (h _ (by simp [Saying.fields])) _ d e

/-- Nothing but its own fields shows that something was said. -/
theorem overlay_add (h : ∀ f ∈ x.fields, inside f = true) (policy : Repeated) (d : Draft) :
    Draft.overlay inside (x.add policy d) d = x.add policy d := by
  rw [← add_overlay h, Draft.overlay_self]

theorem add_comm (h : ∀ f ∈ x.fields, f ∉ y.fields) (policy : Repeated) (d : Draft) :
    y.add policy (x.add policy d) = x.add policy (y.add policy d) := by
  let own : Draft.Field → Bool := fun f => decide (f ∈ x.fields)
  let others : Draft.Field → Bool := fun f => !own f
  have hx : ∀ f ∈ x.fields, own f = true := fun f hf => decide_eq_true hf
  have hy : ∀ f ∈ y.fields, others f = true := fun f hf => by
    have hn : own f = false := decide_eq_false fun hf' => h f hf' hf
    simp only [others, hn, Bool.not_false]
  have hswap (d e : Draft) : Draft.overlay others d e = Draft.overlay own e d :=
    Draft.overlay_not own d e
  calc y.add policy (x.add policy d)
      = y.add policy (Draft.overlay others d (x.add policy d)) := by
        rw [hswap, overlay_add hx]
    _ = Draft.overlay others (y.add policy d) (x.add policy d) := add_overlay hy _ _
    _ = Draft.overlay own (x.add policy d) (y.add policy d) := hswap _ _
    _ = x.add policy (Draft.overlay own d (y.add policy d)) := (add_overlay hx _ _).symm
    _ = x.add policy (y.add policy d) := by
        rw [← hswap, overlay_add hy]

/-! Flags are set in any order. -/

/-- The same draft, but for the order of its flags. -/
def Alike (d t : Draft) : Prop :=
  ∃ flags : Flags, t = { d with flags } ∧ ∀ name, d.flags.isOn name = flags.isOn name

theorem Alike.refl (d : Draft) : Alike d d := ⟨d.flags, rfl, fun _ => rfl⟩

theorem eq_switches (h : .flags ∈ x.fields) : ∃ names, x = .switches names := by
  cases x with
  | switches names => exact ⟨names, rfl⟩
  | given option name value => cases option <;> simp [Saying.fields] at h
  | tls version => simp [Saying.fields] at h
  | argument word =>
    rw [Saying.fields] at h
    split at h <;> simp at h
  | unknown word => simp [Saying.fields] at h

theorem isOn_setFlags (names : List String) (d : Draft) (name : String) :
    (setFlags names d).flags.isOn name = (names.contains name || d.flags.isOn name) :=
  Flags.isOn_setAll d.flags names name

/-- What is no switch leaves the flags alone, whatever they are. -/
theorem add_flags (h : .flags ∉ x.fields) (policy : Repeated) (d : Draft) (flags : Flags) :
    x.add policy { d with flags } = { x.add policy d with flags } := by
  have hx : ∀ f ∈ x.fields, (f != .flags) = true := fun f hf =>
    bne_iff_ne.mpr fun heq => h (heq ▸ hf)
  exact add_overlay hx d { d with flags }

theorem Alike.add (h : Alike d t) (x : Saying) (policy : Repeated) :
    Alike (x.add policy d) (x.add policy t) := by
  obtain ⟨flags, rfl, hon⟩ := h
  by_cases hf : .flags ∈ x.fields
  · obtain ⟨names, rfl⟩ := eq_switches hf
    refine ⟨(setFlags names { d with flags }).flags, rfl, fun name => ?_⟩
    simp only [Saying.add, isOn_setFlags, hon]
  · have hkept := congrArg Draft.flags (add_flags hf policy d d.flags)
    have hsame : (x.add policy d).flags = d.flags := hkept
    refine ⟨flags, add_flags hf policy d flags, fun name => ?_⟩
    rw [hsame, hon]

/-- Words that follow add the same to both drafts. -/
theorem Alike.follow (h : Alike d t) (words : List String) :
    Alike (follow policy d words) (follow policy t words) := by
  fun_induction Command.follow policy d words generalizing t with
  | case1 d => exact h
  | case2 d word o hr =>
    have hlast : Command.follow policy t [word] = t := by rw [follow_cons, hr]
    rw [hlast]
    exact h
  | case3 d word o value rest hr ih =>
    rw [follow_option hr]
    exact ih (h.add (.given o word (Word.unquoted value)) policy)
  | case4 d word rest hr ih =>
    rw [follow_argument hr]
    exact ih (h.add (.argument word) policy)
  | case5 d word flags rest hr ih =>
    rw [follow_switches hr]
    exact ih (h.add (.switches flags) policy)
  | case6 d word version rest hr ih =>
    rw [follow_tls hr]
    exact ih (h.add (.tls version) policy)
  | case7 d word o name value rest hr ih =>
    rw [follow_inline hr]
    exact ih (h.add (.given o name value) policy)
  | case8 d word rest hr ih =>
    rw [follow_unknown hr]
    exact ih (h.add (.unknown word) policy)

/-- Sayings that set nothing in common but flags can be added in either order. -/
theorem alike_add_add (h : ∀ f ∈ x.fields, f ∈ y.fields → f = .flags) (policy : Repeated)
    (d : Draft) : Alike (y.add policy (x.add policy d)) (x.add policy (y.add policy d)) := by
  by_cases hf : .flags ∈ x.fields ∧ .flags ∈ y.fields
  · obtain ⟨names, rfl⟩ := eq_switches hf.1
    obtain ⟨others, rfl⟩ := eq_switches hf.2
    refine ⟨(setFlags names (setFlags others d)).flags, rfl, fun name => ?_⟩
    simp only [Saying.add, isOn_setFlags, Bool.or_left_comm]
  · have hd : ∀ f ∈ x.fields, f ∉ y.fields := fun f hx hy => by
      obtain rfl := h f hx hy
      exact hf ⟨hx, hy⟩
    rw [add_comm hd]
    exact .refl _

theorem allOn_interpret (words : List String) : (interpret o words).flags.AllOn :=
  fun e he => ((isRead_interpret words).flags e he).1

/-- Two options or arguments next to each other that set nothing in common but flags can change
places. The flags of both commands are the same, in some order, and so is everything else. -/
theorem independent_options_change_places (h : ExpectsOption ps) (hx : Says us x) (hy : Says vs y)
    (hd : ∀ f ∈ x.fields, f ∈ y.fields → f = .flags) (qs : List String) :
    ∃ flags : Flags, flags.same (interpret o (ps ++ us ++ vs ++ qs)).flags = true ∧
      interpret o (ps ++ vs ++ us ++ qs) = { interpret o (ps ++ us ++ vs ++ qs) with flags } := by
  have hleft : interpret o (ps ++ us ++ vs ++ qs) = follow o.repeatedHeaders
      (y.add o.repeatedHeaders (x.add o.repeatedHeaders (interpret o ps))) qs := by
    rw [List.append_assoc, List.append_assoc, interpret_append h, follow_says hx, follow_says hy]
  have hright : interpret o (ps ++ vs ++ us ++ qs) = follow o.repeatedHeaders
      (x.add o.repeatedHeaders (y.add o.repeatedHeaders (interpret o ps))) qs := by
    rw [List.append_assoc, List.append_assoc, interpret_append h, follow_says hy, follow_says hx]
  have hswap : Alike (interpret o (ps ++ us ++ vs ++ qs)) (interpret o (ps ++ vs ++ us ++ qs)) := by
    rw [hleft, hright]
    exact (alike_add_add hd o.repeatedHeaders (interpret o ps)).follow qs
  obtain ⟨flags, heq, hon⟩ := hswap
  have hflags : flags.AllOn := by
    have hall := allOn_interpret (o := o) (ps ++ vs ++ us ++ qs)
    rwa [heq] at hall
  exact ⟨flags, Flags.same_of_isOn hflags (allOn_interpret _) fun name => (hon name).symm, heq⟩

/-- A file of cookies that looks like an address, and a time in the same word as its option. -/
theorem cookie_file_and_time_change_places : ExpectsOption ["'CURL'", "-d", "-m"] ∧
    Says ["-b", "http://[::1]/"] (.given .cookie "-b" (Word.unquoted "http://[::1]/")) ∧
    Says ["-m2.5"] (.given .maxTime "-m" (Word.unquoted "2.5")) ∧
    (∀ f ∈ (Saying.given .cookie "-b" (Word.unquoted "http://[::1]/")).fields,
      f ∈ (Saying.given .maxTime "-m" (Word.unquoted "2.5")).fields → f = .flags) ∧
    ∃ flags : Flags,
      flags.same (interpret {} (["'CURL'", "-d", "-m"] ++ ["-b", "http://[::1]/"] ++ ["-m2.5"] ++
        ["-kI", "http://[::2]/"])).flags = true ∧
      interpret {} (["'CURL'", "-d", "-m"] ++ ["-m2.5"] ++ ["-b", "http://[::1]/"] ++
        ["-kI", "http://[::2]/"]) =
        { interpret {} (["'CURL'", "-d", "-m"] ++ ["-b", "http://[::1]/"] ++ ["-m2.5"] ++
          ["-kI", "http://[::2]/"]) with flags } := by
  have hp : ExpectsOption ["'CURL'", "-d", "-m"] :=
    ⟨⟨"'CURL'", rfl, by decide +kernel⟩, by decide +kernel⟩
  have hx : Says ["-b", "http://[::1]/"]
      (.given .cookie "-b" (Word.unquoted "http://[::1]/")) := .apart rfl _
  have hy : Says ["-m2.5"] (.given .maxTime "-m" (Word.unquoted "2.5")) :=
    .inline (read_joined (by decide) (by decide) (by decide) : read ("-m" ++ "2.5") = _)
  have hd : ∀ f ∈ (Saying.given .cookie "-b" (Word.unquoted "http://[::1]/")).fields,
      f ∈ (Saying.given .maxTime "-m" (Word.unquoted "2.5")).fields → f = .flags := by decide
  exact ⟨hp, hx, hy, hd, independent_options_change_places hp hx hy hd _⟩

end Command

end CurlScribe
