import CurlScribe.Proofs.Json.Given
import CurlScribe.Proofs.Number.Nearest
import CurlScribe.Proofs.Request.Normal

/-! Settings given one by one and in groups, and which of them a request ends up with. -/
namespace CurlScribe

open Json

variable {α β : Type} {name : String} {es : List (String × Json)} {p : Json} {r : Request}

/-- Nothing is filtered out of a choice between two values that both pass. -/
theorem filter_or {q : α → Bool} {x y : Option α} (hx : x.filter q = x) (hy : y.filter q = y) :
    (x.or y).filter q = x.or y := by
  cases x with
  | none => exact hy
  | some a => exact hx

namespace Json

theorem finite_of_read {v : Json} {x : Binary64} (h : Codec.real.read v = .ok x) :
    x.isFinite = true := by
  cases v with
  | num n =>
    obtain rfl := Except.ok.inj h
    cases n with
    | whole n low high => exact Binary64.isFinite_ofInt (by omega)
    | real x finite => exact finite
  | _ => simp [Codec.real] at h

theorem filter_supplied_real (es : List (String × Json)) (name : String) :
    (supplied .real es name).filter Binary64.isFinite = supplied .real es name := by
  rw [supplied]
  cases given? es name with
  | none => rfl
  | some v =>
    cases hv : Codec.real.read v with
    | error e => simp [hv, Except.toOption]
    | ok x => simp [hv, Except.toOption, Option.filter, finite_of_read hv]

/-- The group of settings that is given under a name, read as a record. -/
theorem group_eq {e : Record α} {ofEntries : List (String × Json) → α} {o : Option α}
    (hn : e.names.Nodup) (he : ∀ es a, e.readFields e.start es = .ok a → a = ofEntries es)
    (h : (given? es name).map e.codec.read = o.map Except.ok) :
    o = (given? es name).map fun g => ofEntries (g.labelled e.names) := by
  cases hg : given? es name with
  | none => simpa [hg, eq_comm] using h
  | some g =>
    obtain ⟨a, rfl, ha⟩ : ∃ a, o = some a ∧ e.codec.read g = .ok a := by
      simpa [hg, eq_comm, Option.map_eq_some_iff] using h
    simpa using he _ a (Record.readFields_labelled hn ha)

end Json

namespace Network

variable {m n : Network}

/-- The settings that named values give. -/
def ofEntries (es : List (String × Json)) : Network where
  timeout := supplied .real es "timeout"
  connectTimeout := supplied .real es "connectTimeout"
  maxTime := supplied .real es "maxTime"
  retry := supplied .count32 es "retry"
  retryDelay := supplied .real es "retryDelay"
  retryMaxTime := supplied .real es "retryMaxTime"
  maxRedirects := supplied .integer32 es "maxRedirects"

theorem eq_ofEntries (h : record.readFields {} es = .ok n) : n = ofEntries es := by
  have htimeout : n.timeout = supplied .real es "timeout" :=
    Record.get_eq_supplied rfl (Field.gives_optional fun _ _ => rfl)
      (by simp [record, fieldsIn, Field.keeps_optional]) rfl h
  have hconnect : n.connectTimeout = supplied .real es "connectTimeout" :=
    Record.get_eq_supplied rfl (Field.gives_optional fun _ _ => rfl)
      (by simp [record, fieldsIn, Field.keeps_optional]) rfl h
  have hmax : n.maxTime = supplied .real es "maxTime" :=
    Record.get_eq_supplied rfl (Field.gives_optional fun _ _ => rfl)
      (by simp [record, fieldsIn, Field.keeps_optional]) rfl h
  have hretry : n.retry = supplied .count32 es "retry" :=
    Record.get_eq_supplied rfl (Field.gives_optional fun _ _ => rfl)
      (by simp [record, fieldsIn, Field.keeps_optional]) rfl h
  have hdelay : n.retryDelay = supplied .real es "retryDelay" :=
    Record.get_eq_supplied rfl (Field.gives_optional fun _ _ => rfl)
      (by simp [record, fieldsIn, Field.keeps_optional]) rfl h
  have hretryMax : n.retryMaxTime = supplied .real es "retryMaxTime" :=
    Record.get_eq_supplied rfl (Field.gives_optional fun _ _ => rfl)
      (by simp [record, fieldsIn, Field.keeps_optional]) rfl h
  have hredirects : n.maxRedirects = supplied .integer32 es "maxRedirects" :=
    Record.get_eq_supplied rfl (Field.gives_optional fun _ _ => rfl)
      (by simp [record, fieldsIn, Field.keeps_optional]) rfl h
  rw [ofEntries, ← htimeout, ← hconnect, ← hmax, ← hretry, ← hdelay, ← hretryMax, ← hredirects]

theorem tidied_ofEntries (es : List (String × Json)) : (ofEntries es).tidied = ofEntries es := by
  simp only [ofEntries, tidied, filter_supplied_real]

theorem tidied_merge (hm : m.tidied = m) (hn : n.tidied = n) : (merge m n).tidied = merge m n := by
  simp only [merge, tidied, filter_or (congrArg timeout hm) (congrArg timeout hn),
    filter_or (congrArg connectTimeout hm) (congrArg connectTimeout hn),
    filter_or (congrArg maxTime hm) (congrArg maxTime hn),
    filter_or (congrArg retryDelay hm) (congrArg retryDelay hn),
    filter_or (congrArg retryMaxTime hm) (congrArg retryMaxTime hn)]

end Network

namespace Tls

variable {t : Tls}

/-- The settings that named values give. -/
def ofEntries (es : List (String × Json)) : Tls where
  cert := supplied .text es "cert"
  key := supplied .text es "key"
  caCert := supplied .text es "caCert"
  caPath := supplied .text es "caPath"
  version := supplied .text es "sslVersion"

theorem eq_ofEntries (h : record.readFields {} es = .ok t) : t = ofEntries es := by
  have hcert : t.cert = supplied .text es "cert" :=
    Record.get_eq_supplied rfl (Field.gives_optional fun _ _ => rfl)
      (by simp [record, fieldsIn, Field.keeps_optional]) rfl h
  have hkey : t.key = supplied .text es "key" :=
    Record.get_eq_supplied rfl (Field.gives_optional fun _ _ => rfl)
      (by simp [record, fieldsIn, Field.keeps_optional]) rfl h
  have hcaCert : t.caCert = supplied .text es "caCert" :=
    Record.get_eq_supplied rfl (Field.gives_optional fun _ _ => rfl)
      (by simp [record, fieldsIn, Field.keeps_optional]) rfl h
  have hcaPath : t.caPath = supplied .text es "caPath" :=
    Record.get_eq_supplied rfl (Field.gives_optional fun _ _ => rfl)
      (by simp [record, fieldsIn, Field.keeps_optional]) rfl h
  have hversion : t.version = supplied .text es "sslVersion" :=
    Record.get_eq_supplied rfl (Field.gives_optional fun _ _ => rfl)
      (by simp [record, fieldsIn, Field.keeps_optional]) rfl h
  rw [ofEntries, ← hcert, ← hkey, ← hcaCert, ← hcaPath, ← hversion]

theorem tidied_merge (flat grouped : Tls) : (merge flat grouped).tidied = merge flat grouped := by
  simp only [merge, tidied, filter_or (Text.filter_nonBlank _) (Text.filter_nonBlank _)]

end Tls

namespace Draft

variable {d : Draft}

theorem network_of_readFields {s : Draft} (h : record.readFields s es = .ok d) :
    Network.record.readFields s.network es = .ok d.network := by
  refine Record.readFields_view (e := Network.record) ?_ (by decide) h
  simp [record, Network.record, Network.fieldsIn, Tls.fieldsIn, Field.keeps_always,
    Field.mirrors_optional]

theorem tls_of_readFields {s : Draft} (h : record.readFields s es = .ok d) :
    Tls.record.readFields s.tls es = .ok d.tls := by
  refine Record.readFields_view (e := Tls.record) ?_ (by decide) h
  simp [record, Tls.record, Network.fieldsIn, Tls.fieldsIn, Field.keeps_always,
    Field.mirrors_optional]

theorem networkGroup_of_readFields (h : record.readFields {} es = .ok d) :
    d.networkGroup = (given? es "networkConfig").map fun g =>
      Network.ofEntries (g.labelled Network.record.names) := by
  refine group_eq (e := Network.record) (by decide) (fun _ _ => Network.eq_ofEntries) ?_
  refine Record.map_given rfl (Field.gives_always fun _ _ => rfl) ?_ rfl h
  simp [record, Network.fieldsIn, Tls.fieldsIn, Field.keeps_always]

theorem tlsGroup_of_readFields (h : record.readFields {} es = .ok d) :
    d.tlsGroup = (given? es "sslConfig").map fun g =>
      Tls.ofEntries (g.labelled Tls.record.names) := by
  refine group_eq (e := Tls.record) (by decide) (fun _ _ => Tls.eq_ofEntries) ?_
  refine Record.map_given rfl (Field.gives_always fun _ _ => rfl) ?_ rfl h
  simp [record, Network.fieldsIn, Tls.fieldsIn, Field.keeps_always]

end Draft

namespace Request

/-- A group that cleaning does not change is there unless it is empty. -/
theorem group_kept {m : α} {tidied : α → α} {isEmpty : α → Bool} (h : tidied m = m) :
    ((if isEmpty m then none else some m).map tidied).filter (fun a => !isEmpty a) =
      if isEmpty m then none else some m := by
  cases he : isEmpty m <;> simp [he, h, Option.filter]

/-- What is empty has no setting, so a group may as well be missing. -/
theorem bind_group_kept {m : α} {isEmpty : α → Bool} {get : α → Option β}
    (h : isEmpty m = true → get m = none) :
    (if isEmpty m then none else some m).bind get = get m := by
  cases he : isEmpty m with
  | false => simp
  | true => simp [h he]

theorem group_absent_iff {m empty : α} {isEmpty : α → Bool} (h : isEmpty m = true ↔ m = empty) :
    (if isEmpty m then none else some m) = none ↔
      (if isEmpty m then none else some m).getD empty = empty := by
  cases he : isEmpty m with
  | false =>
    have hne : m ≠ empty := fun hm => by simp [h.mpr hm] at he
    simpa using hne
  | true => simp

end Request

namespace Payload

/-- What a payload gives on its own. -/
def flat (c : Codec α) (p : Json) (name : String) : Option α :=
  supplied c (p.labelled Draft.record.names) name

/-- What a payload gives inside its network settings. -/
def inNetwork (c : Codec α) (p : Json) (name : String) : Option α :=
  (given? (p.labelled Draft.record.names) "networkConfig").bind fun g =>
    supplied c (g.labelled Network.record.names) name

/-- What a payload gives inside its TLS settings. -/
def inTls (p : Json) (name : String) : Option String :=
  (given? (p.labelled Draft.record.names) "sslConfig").bind fun g =>
    supplied .text (g.labelled Tls.record.names) name

/-- The settings of a request as its payload decides them: on its own before in a group, and for TLS
only what says something. A group without settings is missing, and parts of the address that say
something stay as they were given. -/
structure Settles (p : Json) (r : Request) : Prop where
  timeout : r.network.bind Network.timeout =
    (flat .real p "timeout").or (inNetwork .real p "timeout")
  connectTimeout : r.network.bind Network.connectTimeout =
    (flat .real p "connectTimeout").or (inNetwork .real p "connectTimeout")
  maxTime : r.network.bind Network.maxTime =
    (flat .real p "maxTime").or (inNetwork .real p "maxTime")
  retry : r.network.bind Network.retry =
    (flat .count32 p "retry").or (inNetwork .count32 p "retry")
  retryDelay : r.network.bind Network.retryDelay =
    (flat .real p "retryDelay").or (inNetwork .real p "retryDelay")
  retryMaxTime : r.network.bind Network.retryMaxTime =
    (flat .real p "retryMaxTime").or (inNetwork .real p "retryMaxTime")
  maxRedirects : r.network.bind Network.maxRedirects =
    (flat .integer32 p "maxRedirects").or (inNetwork .integer32 p "maxRedirects")
  cert : r.tls.bind Tls.cert =
    (Text.nonBlank (flat .text p "cert")).or (Text.nonBlank (inTls p "cert"))
  key : r.tls.bind Tls.key =
    (Text.nonBlank (flat .text p "key")).or (Text.nonBlank (inTls p "key"))
  caCert : r.tls.bind Tls.caCert =
    (Text.nonBlank (flat .text p "caCert")).or (Text.nonBlank (inTls p "caCert"))
  caPath : r.tls.bind Tls.caPath =
    (Text.nonBlank (flat .text p "caPath")).or (Text.nonBlank (inTls p "caPath"))
  version : r.tls.bind Tls.version =
    (Text.nonBlank (flat .text p "sslVersion")).or (Text.nonBlank (inTls p "sslVersion"))
  network_absent : r.network = none ↔ r.network.getD {} = {}
  tls_absent : r.tls = none ↔ r.tls.getD {} = {}
  baseUrl : ∀ s, flat .text p "baseUrl" = some s → Text.blank s = false → r.baseUrl = s
  endpoint : ∀ s, flat .text p "endpoint" = some s → Text.blank s = false → r.endpoint = s
  pathTemplate : ∀ s, flat .text p "pathTemplate" = some s → Text.blank s = false →
    r.pathTemplate = s

/-- A request is made from a draft that is read field by field. -/
theorem exists_of_ofPayload (h : Request.ofPayload p = .ok r) : ∃ d s,
    Draft.record.readFields {} (p.labelled Draft.record.names) = .ok d ∧ d.assemble = .ok s ∧
      r = s.tidied := by
  rw [Request.ofPayload] at h
  split at h
  · rename_i d hd
    obtain ⟨s, hs, hr⟩ := Draft.exists_of_normalize h
    exact ⟨d, s, Record.readFields_labelled (by decide) hd, hs, hr⟩
  · simp at h

theorem network_eq (h : Request.ofPayload p = .ok r) : ∃ n : Network,
    r.network = (if n.isEmpty then none else some n) ∧
      n = .merge (.ofEntries (p.labelled Draft.record.names))
        (((given? (p.labelled Draft.record.names) "networkConfig").map fun g =>
          .ofEntries (g.labelled Network.record.names)).getD {}) := by
  obtain ⟨d, s, hd, hs, rfl⟩ := exists_of_ofPayload h
  have hflat : d.network = .ofEntries (p.labelled Draft.record.names) :=
    Network.eq_ofEntries (Draft.network_of_readFields hd)
  have hgroup := Draft.networkGroup_of_readFields hd
  have hgroup_tidied : (d.networkGroup.getD {}).tidied = d.networkGroup.getD {} := by
    rw [hgroup]
    cases given? (p.labelled Draft.record.names) "networkConfig" with
    | none => rfl
    | some g => exact Network.tidied_ofEntries _
  have htidied : d.allNetwork.tidied = d.allNetwork :=
    Network.tidied_merge (by rw [hflat, Network.tidied_ofEntries]) hgroup_tidied
  refine ⟨d.allNetwork, ?_, ?_⟩
  · rw [Request.tidied, (Draft.assembles hs).network]
    exact Request.group_kept htidied
  · rw [Draft.allNetwork, hflat, hgroup]

theorem tls_eq (h : Request.ofPayload p = .ok r) : ∃ t : Tls,
    r.tls = (if t.isEmpty then none else some t) ∧
      t = .merge (.ofEntries (p.labelled Draft.record.names))
        (((given? (p.labelled Draft.record.names) "sslConfig").map fun g =>
          .ofEntries (g.labelled Tls.record.names)).getD {}) := by
  obtain ⟨d, s, hd, hs, rfl⟩ := exists_of_ofPayload h
  have hflat : d.tls = .ofEntries (p.labelled Draft.record.names) :=
    Tls.eq_ofEntries (Draft.tls_of_readFields hd)
  refine ⟨d.allTls, ?_, ?_⟩
  · rw [Request.tidied, (Draft.assembles hs).tls]
    exact Request.group_kept (Tls.tidied_merge _ _)
  · rw [Draft.allTls, hflat, Draft.tlsGroup_of_readFields hd]

theorem network_setting {get : Network → Option α} (h0 : get {} = none)
    (hmerge : ∀ m n, get (.merge m n) = (get m).or (get n)) (h : Request.ofPayload p = .ok r) :
    r.network.bind get = (get (.ofEntries (p.labelled Draft.record.names))).or
      ((given? (p.labelled Draft.record.names) "networkConfig").bind fun g =>
        get (.ofEntries (g.labelled Network.record.names))) := by
  obtain ⟨n, hr, rfl⟩ := network_eq h
  rw [hr, Request.bind_group_kept (fun he => by rw [eq_of_beq he, h0]), hmerge]
  cases given? (p.labelled Draft.record.names) "networkConfig" with
  | none => simp [h0]
  | some g => rfl

theorem tls_setting {get : Tls → Option String} (h0 : get {} = none)
    (hmerge : ∀ t u, get (.merge t u) = (Text.nonBlank (get t)).or (Text.nonBlank (get u)))
    (h : Request.ofPayload p = .ok r) :
    r.tls.bind get = (Text.nonBlank (get (.ofEntries (p.labelled Draft.record.names)))).or
      (Text.nonBlank ((given? (p.labelled Draft.record.names) "sslConfig").bind fun g =>
        get (.ofEntries (g.labelled Tls.record.names)))) := by
  obtain ⟨t, hr, rfl⟩ := tls_eq h
  rw [hr, Request.bind_group_kept (fun he => by rw [eq_of_beq he, h0]), hmerge]
  cases given? (p.labelled Draft.record.names) "sslConfig" with
  | none => simp [h0]
  | some g => rfl

/-- The place of a request is the one its payload gives, where that says something. -/
theorem place_eq (h : Request.ofPayload p = .ok r) :
    (∀ s, flat .text p "baseUrl" = some s → Text.blank s = false → r.baseUrl = s) ∧
    (∀ s, flat .text p "endpoint" = some s → Text.blank s = false → r.endpoint = s) ∧
    (∀ s, flat .text p "pathTemplate" = some s → Text.blank s = false → r.pathTemplate = s) := by
  obtain ⟨d, q, hd, hq, rfl⟩ := exists_of_ofPayload h
  have hbase : d.baseUrl = flat .text p "baseUrl" := by
    refine Record.get_eq_supplied rfl (Field.gives_always fun _ _ => rfl) ?_ rfl hd
    simp [Draft.record, Network.fieldsIn, Tls.fieldsIn, Field.keeps_always]
  have hendpoint : d.endpoint = flat .text p "endpoint" := by
    refine Record.get_eq_supplied rfl (Field.gives_always fun _ _ => rfl) ?_ rfl hd
    simp [Draft.record, Network.fieldsIn, Tls.fieldsIn, Field.keeps_always]
  have htemplate : d.pathTemplate = flat .text p "pathTemplate" := by
    refine Record.get_eq_supplied rfl (Field.gives_always fun _ _ => rfl) ?_ rfl hd
    simp [Draft.record, Network.fieldsIn, Tls.fieldsIn, Field.keeps_always]
  have hassembles := Draft.assembles hq
  have hplace := hassembles.baseUrl
  refine ⟨fun s hs hb => ?_, fun s hs hb => ?_, fun s hs hb => ?_⟩
  · have hsome := Text.nonBlank_eq_some.mpr ⟨hbase.trans hs, hb⟩
    rw [Draft.base?, hsome, Option.some_or] at hplace
    exact (Option.some.inj hplace).symm
  · have hsome := Text.nonBlank_eq_some.mpr ⟨hendpoint.trans hs, hb⟩
    refine hassembles.endpoint.trans ?_
    rw [Draft.path, hsome, Option.some_or, Option.getD_some]
  · have hsome := Text.nonBlank_eq_some.mpr ⟨htemplate.trans hs, hb⟩
    exact hassembles.pathTemplate.trans (by rw [hsome, Option.getD_some])

theorem ofPayload_settles (h : Request.ofPayload p = .ok r) : Settles p r where
  timeout := network_setting rfl (fun _ _ => rfl) h
  connectTimeout := network_setting rfl (fun _ _ => rfl) h
  maxTime := network_setting rfl (fun _ _ => rfl) h
  retry := network_setting rfl (fun _ _ => rfl) h
  retryDelay := network_setting rfl (fun _ _ => rfl) h
  retryMaxTime := network_setting rfl (fun _ _ => rfl) h
  maxRedirects := network_setting rfl (fun _ _ => rfl) h
  cert := tls_setting rfl (fun _ _ => rfl) h
  key := tls_setting rfl (fun _ _ => rfl) h
  caCert := tls_setting rfl (fun _ _ => rfl) h
  caPath := tls_setting rfl (fun _ _ => rfl) h
  version := tls_setting rfl (fun _ _ => rfl) h
  network_absent := by
    obtain ⟨n, hr, -⟩ := network_eq h
    rw [hr]
    exact Request.group_absent_iff (beq_iff_eq (a := n))
  tls_absent := by
    obtain ⟨t, hr, -⟩ := tls_eq h
    rw [hr]
    exact Request.group_absent_iff (beq_iff_eq (a := t))
  baseUrl := (place_eq h).1
  endpoint := (place_eq h).2.1
  pathTemplate := (place_eq h).2.2

/-- A time of zero given twice, a blank file name before one that says something, and a TLS group
with nothing but a blank. -/
def givenTwice : Json := .obj [
  ("url", .str "http://[::1]/a?b=c"), ("endpoint", .str "/v1/{id}"),
  ("timeout", .num (.whole 0 (by decide) (by decide))), ("cert", .str " "),
  ("networkConfig", .obj [
    ("timeout", .num (.whole 30 (by decide) (by decide))),
    ("retry", .num (.whole 2 (by decide) (by decide)))]),
  ("sslConfig", .arr [.str "a.pem", .str " "])]

theorem settles_givenTwice : ∃ r, Request.ofPayload givenTwice = .ok r ∧ Settles givenTwice r ∧
    r.network.bind Network.timeout = some .zero ∧ r.network.bind Network.retry = some 2 ∧
    r.tls.bind Tls.cert = some "a.pem" ∧ r.tls.bind Tls.key = none := by
  obtain ⟨d, hd, ha⟩ : ∃ d, Draft.codec.read givenTwice = .ok d ∧ d.lacksAddress = false :=
    ⟨_, rfl, by decide⟩
  obtain ⟨s, hs⟩ := Draft.exists_assemble ha
  have hr : Request.ofPayload givenTwice = .ok s.tidied := by
    rw [Request.ofPayload, hd]
    exact Draft.normalize_of_assemble hs
  have hsettles := ofPayload_settles hr
  exact ⟨_, hr, hsettles, hsettles.timeout.trans (by decide +kernel),
    hsettles.retry.trans (by decide +kernel), hsettles.cert.trans (by decide +kernel),
    hsettles.key.trans (by decide +kernel)⟩

end Payload

end CurlScribe
