import CurlScribe.Proofs.Command.Reread
import CurlScribe.Proofs.Request.Joins

/-! What becomes of kept options when an emitted command is read again. -/
namespace CurlScribe.Command

variable {o : CommandOptions} {e : EmitOptions} {policy : Repeated} {c : String} {r s : Request}
  {d t : Draft}

/-- A draft that says what a request says and what another draft says on top of it. -/
structure Beside (policy : Repeated) (r : Request) (d t : Draft) : Prop where
  url : d.url = t.url
  rawOptions : d.rawOptions = t.rawOptions
  headers : ParamList.Joins policy r.headers t.headers d.headers
  cookies : ParamList.Joins .lastWins r.cookies t.cookies d.cookies
  fields : ParamList.Joins .lastWins r.formData t.formData d.formData
  flags : ∀ name, d.flags.isOn name = (r.flag name || t.flags.isOn name)

theorem beside_front (h : Writable policy r) (hv : e.verbose = false) (hi : e.insecure = false) :
    Beside policy r (front e r) {} where
  url := rfl
  rawOptions := rfl
  headers := ParamList.joins_empty h.headersDistinct
  cookies := ParamList.joins_empty (.inr h.cookiesDistinct)
  fields := ParamList.joins_empty (.inr h.fieldsDistinct)
  flags name := by
    have hon : (front e r).flags.isOn name = (r.flag name || isForced e name) :=
      isOn_writtenFlags h name
    have hoff : ({} : Draft).flags.isOn name = false := rfl
    rw [hon, hoff, isForced, hv, hi]
    simp

theorem beside_keep (h : Beside policy r d t) (words : List String) :
    Beside policy r (keep words d) (keep words t) :=
  { h with rawOptions := by rw [keep, keep, h.rawOptions] }

theorem beside_addHeader (h : Beside policy r d t) (value : List Char) :
    Beside policy r (addHeader policy value d) (addHeader policy value t) := by
  unfold addHeader
  split
  · dsimp only
    split
    · exact h
    · exact { h with headers := ParamList.joins_insertWith h.headers _ _ }
  · exact h

theorem beside_addFormField (h : Beside policy r d t) (value : List Char) :
    Beside policy r (addFormField value d) (addFormField value t) :=
  { h with fields := ParamList.joins_insertWith h.fields _ _ }

theorem joins_insertAll {l added joined : ParamList}
    (h : ParamList.Joins .lastWins l added joined) (pairs : List (String × String)) :
    ParamList.Joins .lastWins l (pairs.foldl (fun l (k, v) => l.insert k v) added)
      (pairs.foldl (fun l (k, v) => l.insert k v) joined) := by
  induction pairs generalizing added joined with
  | nil => exact h
  | cons pair pairs ih => exact ih (ParamList.joins_insertWith h pair.1 pair.2)

theorem beside_addCookies (h : Beside policy r d t) (name value : String) :
    Beside policy r (addCookies name value d) (addCookies name value t) := by
  unfold addCookies
  split
  · exact { h with cookies := joins_insertAll h.cookies _ }
  · exact beside_keep h _

theorem beside_apply (h : Beside policy r d t) (o : ValueOption) (name value : String) :
    Beside policy r (apply policy o name value d) (apply policy o name value t) := by
  unfold apply
  dsimp only
  generalize Argument.real? (Text.trim value.toList) = x
  cases o with
  | request =>
    dsimp only
    split
    · exact { h with }
    · exact h
  | header => exact beside_addHeader h _
  | form => exact beside_addFormField h _
  | cookie => exact beside_addCookies h _ _
  | url =>
    dsimp only
    rw [h.url]
    split
    · exact { h with url := rfl }
    · exact beside_keep h _
  | inert => exact beside_keep h _
  | _ => exact { h with }

theorem beside_addArgument (h : Beside policy r d t) (word : String) :
    Beside policy r (addArgument word d) (addArgument word t) := by
  rw [addArgument_eq, addArgument_eq, h.url]
  split
  · exact { h with url := rfl }
  · exact beside_keep h _

theorem beside_setFlags (h : Beside policy r d t) (flags : List String) :
    Beside policy r (setFlags flags d) (setFlags flags t) :=
  { h with
    flags := fun name => by
      have hd : (setFlags flags d).flags.isOn name = (flags.contains name || d.flags.isOn name) :=
        Flags.isOn_setAll d.flags flags name
      have ht : (setFlags flags t).flags.isOn name = (flags.contains name || t.flags.isOn name) :=
        Flags.isOn_setAll t.flags flags name
      rw [hd, ht, h.flags name, Bool.or_left_comm] }

/-- Read from two drafts beside each other, the same words give drafts beside each other. -/
theorem beside_follow (h : Beside policy r d t) (words : List String) :
    Beside policy r (follow policy d words) (follow policy t words) := by
  fun_induction follow policy d words generalizing t with
  | case1 d => exact h
  | case2 d word o hr =>
    have hlast : follow policy t [word] = t := by rw [follow_cons, hr]
    rw [hlast]
    exact h
  | case3 d word o value rest hr ih =>
    rw [follow_option hr]
    exact ih (beside_apply h o _ _)
  | case4 d word rest hr ih =>
    rw [follow_argument hr]
    exact ih (beside_addArgument h word)
  | case5 d word flags rest hr ih =>
    rw [follow_switches hr]
    exact ih (beside_setFlags h flags)
  | case6 d word version rest hr ih =>
    rw [follow_tls hr]
    exact ih { h with }
  | case7 d word o name value rest hr ih =>
    rw [follow_inline hr]
    exact ih (beside_apply h o name value)
  | case8 d word rest hr ih =>
    rw [follow_unknown hr]
    exact ih (beside_keep h _)

/-- What was kept is kept again, the base of the address stays, and nothing is added. -/
structure Survives (r s : Request) : Prop where
  rawOptions : s.rawOptions = r.rawOptions
  baseUrl : s.baseUrl = r.baseUrl
  headers : ∀ p ∈ s.headers.entries, p ∈ r.headers.entries
  cookies : ∀ p ∈ s.cookies.entries, p ∈ r.cookies.entries
  fields : ∀ p ∈ s.formData.entries, p ∈ r.formData.entries
  flags : ∀ name, s.flag name = true → r.flag name = true

/-- A draft that keeps what a request keeps, has an address of the same base, and says nothing that
the request does not say, unless it is a header that comes too late. -/
structure Echoes (policy : Repeated) (t : Draft) (r : Request) : Prop where
  rawOptions : t.rawOptions.filter (· != "") = r.rawOptions
  baseUrl : ∀ u, t.url = some u → (Location.ofText u).baseUrl = r.baseUrl
  headers : ∀ p ∈ t.headers.entries, p ∈ r.headers.entries ∨
    (policy = .firstWins ∧ r.headers.contains p.key = true)
  cookies : ∀ p ∈ t.cookies.entries, p ∈ r.cookies.entries
  fields : ∀ p ∈ t.formData.entries, p ∈ r.formData.entries
  flags : ∀ name, t.flag name = true → r.flag name = true

theorem survives_iff_echoes {u : String} (h : Beside policy r d t) (hu : d.url = some u) :
    Survives r (d.requestAt u) ↔ Echoes policy t r := by
  have hheaders := h.headers.forall_mem_iff
  have hcookies := h.cookies.forall_mem_iff
  have hfields := h.fields.forall_mem_iff
  simp only [reduceCtorEq, false_and, or_false] at hcookies hfields
  have hflags : (∀ name, (d.requestAt u).flag name = true → r.flag name = true) ↔
      ∀ name, t.flag name = true → r.flag name = true := by
    refine forall_congr' fun name => ?_
    have hd : (d.requestAt u).flag name = (r.flag name || t.flag name) := h.flags name
    rw [hd, Bool.or_eq_true]
    exact ⟨fun hall ht => hall (.inr ht), fun ht hor => hor.elim id ht⟩
  have hbase : (d.requestAt u).baseUrl = r.baseUrl ↔
      ∀ v, t.url = some v → (Location.ofText v).baseUrl = r.baseUrl := by
    rw [← h.url, hu]
    simp [Draft.requestAt]
  constructor
  · intro hs
    exact {
      rawOptions := h.rawOptions ▸ hs.rawOptions
      baseUrl := hbase.mp hs.baseUrl
      headers := hheaders.mp hs.headers
      cookies := hcookies.mp hs.cookies
      fields := hfields.mp hs.fields
      flags := hflags.mp hs.flags }
  · intro ht
    have hraw : (d.requestAt u).rawOptions = t.rawOptions.filter (· != "") := by
      rw [← h.rawOptions]
      rfl
    exact {
      rawOptions := hraw.trans ht.rawOptions
      baseUrl := hbase.mpr ht.baseUrl
      headers := hheaders.mpr ht.headers
      cookies := hcookies.mpr ht.cookies
      fields := hfields.mpr ht.fields
      flags := hflags.mpr ht.flags }

theorem kept_of_parse (h : parse o c = .ok r) : r.rawOptions.filter (· != "") = r.rawOptions := by
  obtain ⟨ws, u, -, -, -, rfl⟩ := parse_ok_iff.mp h
  simp [Draft.requestAt]

/-- The end of a command whose kept options are settled repeats them and adds nothing. -/
theorem echoes_settled {single : Bool} (h : parse o c = .ok r)
    (hk : Settled single r.rawOptions) (hh : isHttp (address r) = true) :
    Echoes policy (follow policy {} (r.rawOptions ++ [Word.quoted (address r)])) r ↔
      (Location.ofText (address r)).baseUrl = r.baseUrl := by
  have hurl : (keep r.rawOptions {}).url = none := rfl
  have hraw : (keep r.rawOptions {}).rawOptions = r.rawOptions := List.nil_append _
  have hheaders : (keep r.rawOptions {}).headers.entries = [] := rfl
  have hcookies : (keep r.rawOptions {}).cookies.entries = [] := rfl
  have hfields : (keep r.rawOptions {}).formData.entries = [] := rfl
  have hflags : ∀ name, (keep r.rawOptions {}).flag name = false := fun _ => rfl
  rw [follow_settled policy hk]
  generalize keep r.rawOptions {} = kept at *
  rw [follow_address policy hh hurl]
  constructor
  · exact fun ht => ht.baseUrl (address r) rfl
  · intro hb
    exact {
      rawOptions := by rw [hraw, kept_of_parse h]
      baseUrl := by
        intro u hu
        obtain rfl : address r = u := Option.some.inj hu
        exact hb
      headers := by simp [hheaders]
      cookies := by simp [hcookies]
      fields := by simp [hfields]
      flags := fun name hon => by
        have hoff : kept.flag name = true := hon
        simp [hflags] at hoff }

/-- Kept options survive exactly where the end of the emitted command, read by itself, repeats what
the request says. Where they are read as they are written, that is where the emitted address has
the base of the request. -/
theorem kept_options_survive_iff (h : parse o c = .ok r) (hl : IsLegible e r)
    (hv : e.verbose = false) (hi : e.insecure = false) (hs : parse o (emit e r) = .ok s) :
    (∃ us, Word.ofLine o.quoting (Text.trimmed (tail e r)) = .ok us ∧
      (Survives r s ↔ Echoes o.repeatedHeaders (follow o.repeatedHeaders {} us) r)) ∧
    (Settled o.quoting.single r.rawOptions → Word.Unbroken (address r) →
      (Survives r s ↔ (Location.ofText (address r)).baseUrl = r.baseUrl)) := by
  have hw := writable_of_parse h
  obtain ⟨us, u, hus, hu, rfl⟩ := (parse_emit_iff (exists_of_tail e (exists_of_address h))).mp hs
  rw [follow_legible hw hl] at hu ⊢
  have hiff := survives_iff_echoes (beside_follow (beside_front hw hv hi) us)
    (Text.nonBlank_eq_some.mp hu).1
  refine ⟨⟨us, hus, hiff⟩, fun hk ha => ?_⟩
  have hh := (legible_is_read_iff h hl hk ha).mp ⟨_, hs⟩
  rw [ofLine_tail o.quoting hk ha] at hus
  rw [hiff, ← Except.ok.inj hus, echoes_settled h hk hh]

theorem listed_survives : ∃ s, parse {} (emit {} listed) = .ok s ∧ Survives listed s := by
  have hl : ∀ text ∈ writtenValues {} listed, Word.HasPlainBlanks text := by decide +kernel
  have hlegible : IsLegible {} listed := fun text ht => Word.unbroken_of_plain_blanks (hl text ht)
  have ha : Word.Unbroken (address listed) := Word.unbroken_of_plain_blanks (by decide +kernel)
  obtain ⟨s, hs⟩ :=
    (legible_is_read_iff parse_listed hlegible settled_listed ha).mpr (by decide +kernel)
  refine ⟨s, hs, ?_⟩
  rw [(kept_options_survive_iff parse_listed hlegible rfl rfl hs).2 settled_listed ha]
  decide +kernel

/-- A request whose command names two addresses. -/
def doubled : Request :=
  (interpret {} ["curl", "http://[::1]/", "http://[::2]/"]).requestAt "http://[::1]/"

/-- The second address becomes the first. -/
theorem doubled_does_not_survive : parse {} "curl http://[::1]/ http://[::2]/" = .ok doubled ∧
    ∃ s, parse {} (emit {} doubled) = .ok s ∧ ¬ Survives doubled s := by
  refine ⟨parse_ok_iff.mpr ⟨["curl", "http://[::1]/", "http://[::2]/"], "http://[::1]/",
    by decide +kernel, rfl, by decide +kernel, rfl⟩, ?_⟩
  have hbase : doubled.baseUrl = "http://[::1]" := by decide +kernel
  have hother : (parse {} (emit {} doubled)).toOption.map Request.baseUrl =
      some "http://[::2]" := by
    decide +kernel
  cases hs : parse {} (emit {} doubled) with
  | error err => simp [hs, Except.toOption] at hother
  | ok s =>
    have hb : s.baseUrl = "http://[::2]" := by simpa [hs, Except.toOption] using hother
    refine ⟨s, rfl, fun hsurvives => ?_⟩
    have heq := hsurvives.baseUrl
    rw [hb, hbase] at heq
    exact absurd heq (by decide)

end CurlScribe.Command
