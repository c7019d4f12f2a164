import CurlScribe.Proofs.Request.Cleaning
import CurlScribe.Proofs.Request.Flags
import CurlScribe.Proofs.Web.Address
import CurlScribe.Proofs.Web.Template
import CurlScribe.Request.Normalize

/-! What every request that was made from a draft satisfies, and which drafts make none. -/
namespace CurlScribe

namespace Flags

theorem isOn_of_mem {f : Flags} {e : String × Bool} (h : e ∈ f.entries) : f.isOn e.1 = e.2 := by
  rw [isOn, lookup_of_mem f.distinct h]
  rfl

/-- Switches that are off may as well be missing. -/
theorem isOn_tidied (f : Flags) (name : String) : f.tidied.isOn name = f.isOn name := by
  cases ht : f.tidied.entries.lookup name with
  | some on =>
    have hm : (name, on) ∈ f.tidied.entries := mem_of_lookup ht
    rw [isOn_of_mem hm, isOn_of_mem (List.mem_filter.mp hm).1]
  | none =>
    have hoff : f.tidied.isOn name = false := by simp [isOn, ht]
    rw [hoff]
    cases hf : f.entries.lookup name with
    | none => simp [isOn, hf]
    | some on =>
      have hm : (name, on) ∈ f.entries := mem_of_lookup hf
      cases on with
      | false => exact (isOn_of_mem hm).symm
      | true =>
        have hk : (name, true) ∈ f.tidied.entries := List.mem_filter.mpr ⟨hm, rfl⟩
        rw [lookup_of_mem f.tidied.distinct hk] at ht
        simp at ht

end Flags

namespace Tls

/-- No setting is there without saying something. -/
def IsSpoken (t : Tls) : Prop :=
  ∀ s, t.cert = some s ∨ t.key = some s ∨ t.caCert = some s ∨ t.caPath = some s ∨
    t.version = some s → Text.blank s = false

theorem isSpoken_tidied {t : Tls} (h : t.IsSpoken) : t.tidied.IsSpoken := by
  intro s hs
  apply h s
  simp only [tidied, Option.filter_eq_some_iff] at hs
  rcases hs with hs | hs | hs | hs | hs <;> simp [hs.1]

theorem blank_of_or {flat grouped : Option String} {s : String}
    (h : (Text.nonBlank flat).or (Text.nonBlank grouped) = some s) : Text.blank s = false := by
  rcases Option.or_eq_some_iff.mp h with h | ⟨-, h⟩ <;> exact (Text.nonBlank_eq_some.mp h).2

theorem isSpoken_merge (flat grouped : Tls) : (merge flat grouped).IsSpoken := by
  rintro s (h | h | h | h | h) <;> exact blank_of_or h

end Tls

namespace Request

variable {r : Request}

/-- Every part of a request that is there says something. -/
structure IsSpoken (r : Request) : Prop where
  url : Text.blank r.url = false
  baseUrl : Text.blank r.baseUrl = false
  endpoint : Text.blank r.endpoint = false
  pathTemplate : Text.blank r.pathTemplate = false
  body : ∀ b, r.body = some b → b.isBlank = false
  bodyless : r.flag "get" = true → r.body = none
  proxy : ∀ s, r.proxy = some s → Text.blank s = false
  userAgent : ∀ s, r.userAgent = some s → Text.blank s = false
  referer : ∀ s, r.referer = some s → Text.blank s = false
  tlsTexts : ∀ t, r.tls = some t → t.IsSpoken

/-- A request whose parts all say something, whose groups hold something, and which has nothing
for a cleaning to drop. -/
structure IsNormal (r : Request) : Prop extends IsSpoken r where
  network : r.network ≠ some {}
  tls : r.tls ≠ some {}
  clean : r.clean = .ok r

theorem body_of_tidied {b : Body} (h : r.tidied.body = some b) :
    ∃ a, r.body = some a ∧ b.raw = a.raw := by
  obtain ⟨a, ha, -, rfl⟩ := body_tidied_eq_some_iff.mp h
  exact ⟨a, ha, rfl⟩

theorem text_of_tidied {o : Option String} {s : String} (h : o.filter (· != "") = some s) :
    o = some s := (Option.filter_eq_some_iff.mp h).1

/-- Cleaning drops no part that says something. -/
theorem isSpoken_tidied (h : r.IsSpoken) : r.tidied.IsSpoken where
  url := h.url
  baseUrl := h.baseUrl
  endpoint := h.endpoint
  pathTemplate := h.pathTemplate
  body b hb := by
    obtain ⟨a, ha, hraw⟩ := body_of_tidied hb
    rw [Body.isBlank, hraw]
    exact h.body a ha
  bodyless hget := by
    have hg : r.flag "get" = true := (Flags.isOn_tidied r.flags "get").symm.trans hget
    simp [tidied, h.bodyless hg]
  proxy s hs := h.proxy s (text_of_tidied hs)
  userAgent s hs := h.userAgent s (text_of_tidied hs)
  referer s hs := h.referer s (text_of_tidied hs)
  tlsTexts t ht := by
    obtain ⟨u, hu, rfl, -⟩ := ((cleaned_tidied r).tls t).mp ht
    exact Tls.isSpoken_tidied (h.tlsTexts u hu)

theorem isNormal_tidied (h : r.IsSpoken) : r.tidied.IsNormal where
  toIsSpoken := isSpoken_tidied h
  network hn := by
    obtain ⟨_, -, -, hne⟩ := ((cleaned_tidied r).network {}).mp hn
    exact hne rfl
  tls ht := by
    obtain ⟨_, -, -, hne⟩ := ((cleaned_tidied r).tls {}).mp ht
    exact hne rfl
  clean := by rw [clean_eq, tidied_tidied]

end Request

namespace Draft

variable {d : Draft} {r : Request}

/-- Neither an address nor a base is given, or both are blank. -/
def lacksAddress (d : Draft) : Bool := d.url.all Text.blank && d.baseUrl.all Text.blank

theorem nonBlank_eq_none_iff {o : Option String} :
    Text.nonBlank o = none ↔ o.all Text.blank = true := by
  cases o with
  | none => simp [Text.nonBlank]
  | some s => cases h : Text.blank s <;> simp [Text.nonBlank, Option.filter, h]

/-- The base of a request, given or taken from its address. -/
def base? (d : Draft) : Option String :=
  (Text.nonBlank d.baseUrl).or (((Text.nonBlank d.url).map Location.ofText).map Location.baseUrl)

theorem base_eq_none_iff : d.base? = none ↔ d.lacksAddress = true := by
  rw [base?, Option.or_eq_none_iff, Option.map_eq_none_iff, Option.map_eq_none_iff,
    nonBlank_eq_none_iff, nonBlank_eq_none_iff, lacksAddress, Bool.and_eq_true, and_comm]

theorem blank_of_base {b : String} (h : d.base? = some b) : Text.blank b = false := by
  rcases Option.or_eq_some_iff.mp h with hb | ⟨-, hl⟩
  · exact (Text.nonBlank_eq_some.mp hb).2
  · rw [Option.map_map, Option.map_eq_some_iff] at hl
    obtain ⟨u, hu, rfl⟩ := hl
    exact Location.blank_baseUrl (Text.nonBlank_eq_some.mp hu).2

/-- The endpoint of a request, given or taken from its address. -/
def path (d : Draft) : String :=
  ((Text.nonBlank d.endpoint).or
    (((Text.nonBlank d.url).map Location.ofText).map Location.endpoint)).getD "/"

theorem blank_path (d : Draft) : Text.blank d.path = false := by
  have hslash : Text.blank "/" = false := Text.blank_of_mem (c := '/') (by simp) (by decide)
  rw [path]
  cases he : Text.nonBlank d.endpoint with
  | some e => simpa using (Text.nonBlank_eq_some.mp he).2
  | none =>
    cases Text.nonBlank d.url with
    | none => simpa using hslash
    | some u => simpa using Location.blank_endpoint u

/-- A text that is given counts where it says something. -/
theorem blank_getD {o : Option String} {other : String} (h : Text.blank other = false) :
    Text.blank ((Text.nonBlank o).getD other) = false := by
  cases ho : Text.nonBlank o with
  | none => exact h
  | some s => exact (Text.nonBlank_eq_some.mp ho).2

theorem assemble_of_lacks (h : d.lacksAddress = true) : d.assemble = .error .missingUrl := by
  have hb : (Text.nonBlank d.baseUrl).or
      (((Text.nonBlank d.url).map Location.ofText).map Location.baseUrl) = none :=
    base_eq_none_iff.mpr h
  rw [assemble, hb]

theorem body_of_kept {b : Body} (h : d.keptBody = some b) : b.isBlank = false := by
  rw [keptBody] at h
  split at h
  · simp at h
  · simpa using (Option.filter_eq_some_iff.mp h).2

theorem eq_of_group {α : Type} {isEmpty : Bool} {a b : α}
    (h : (if isEmpty then none else some a) = some b) : b = a := by
  cases isEmpty with
  | true => simp at h
  | false => exact (Option.some.inj h).symm

/-- The network settings of a draft, merged. -/
def allNetwork (d : Draft) : Network := .merge d.network (d.networkGroup.getD {})

def allTls (d : Draft) : Tls := .merge d.tls (d.tlsGroup.getD {})

/-- The parts of an assembled draft that are a choice between what is given and what is derived. -/
structure Assembles (d : Draft) (r : Request) : Prop where
  method : r.method = d.method.getD d.impliedMethod
  url : r.url = (Text.nonBlank d.url).getD (Location.join r.baseUrl r.endpoint)
  baseUrl : d.base? = some r.baseUrl
  endpoint : r.endpoint = d.path
  pathTemplate :
    r.pathTemplate = (Text.nonBlank d.pathTemplate).getD (Template.ofEndpoint d.path).1
  pathParameters : r.pathParameters =
    (d.pathParameters.filter fun ps => !ps.isEmpty).getD (Template.ofEndpoint d.path).2
  body : r.body = d.keptBody
  proxy : r.proxy = Text.nonBlank d.proxy
  userAgent : r.userAgent = Text.nonBlank d.userAgent
  referer : r.referer = Text.nonBlank d.referer
  flags : r.flags = d.flags
  network : r.network = if d.allNetwork.isEmpty then none else some d.allNetwork
  tls : r.tls = if d.allTls.isEmpty then none else some d.allTls

theorem assembles (h : d.assemble = .ok r) : d.Assembles r := by
  rw [assemble] at h
  dsimp only at h
  split at h
  · simp at h
  · rename_i base hbase
    obtain rfl := Except.ok.inj h
    exact ⟨rfl, rfl, hbase, rfl, rfl, rfl, rfl, rfl, rfl, rfl, rfl, rfl, rfl⟩

/-- Every choice between what is given and what is derived falls on something that is said. -/
theorem isSpoken_of_assembles (h : d.Assembles r) : r.IsSpoken where
  url := by
    rw [h.url, h.endpoint]
    exact blank_getD (Location.blank_join (blank_of_base h.baseUrl) d.path)
  baseUrl := blank_of_base h.baseUrl
  endpoint := by
    rw [h.endpoint]
    exact blank_path d
  pathTemplate := by
    rw [h.pathTemplate]
    exact blank_getD (Template.blank_ofEndpoint (blank_path d))
  body b hb := body_of_kept (h.body.symm.trans hb)
  bodyless hget := by
    have hg : d.flag "get" = true := by rwa [flag, ← h.flags]
    rw [h.body]
    exact if_pos hg
  proxy s hs := (Text.nonBlank_eq_some.mp (h.proxy.symm.trans hs)).2
  userAgent s hs := (Text.nonBlank_eq_some.mp (h.userAgent.symm.trans hs)).2
  referer s hs := (Text.nonBlank_eq_some.mp (h.referer.symm.trans hs)).2
  tlsTexts t ht := by
    rw [eq_of_group (h.tls.symm.trans ht)]
    exact Tls.isSpoken_merge _ _

theorem exists_assemble (h : d.lacksAddress = false) : ∃ r, d.assemble = .ok r := by
  rw [assemble]
  dsimp only
  split
  · rename_i hbase
    have hl : d.lacksAddress = true := base_eq_none_iff.mp hbase
    simp [h] at hl
  · exact ⟨_, rfl⟩

theorem normalize_of_assemble (h : d.assemble = .ok r) : d.normalize = .ok r.tidied := by
  rw [normalize, h]
  simp only [Request.clean_eq]

/-- A request is what cleaning leaves of an assembled draft. -/
theorem exists_of_normalize (h : d.normalize = .ok r) :
    ∃ s, d.assemble = .ok s ∧ r = s.tidied := by
  rw [normalize] at h
  split at h
  · simp at h
  · rename_i s hs
    rw [Request.clean_eq] at h
    exact ⟨s, hs, (Except.ok.inj h).symm⟩

theorem normalize_of_lacks (h : d.lacksAddress = true) : d.normalize = .error .missingUrl := by
  rw [normalize, assemble_of_lacks h]

/-- A draft makes no request exactly where it lacks an address, and every request that is made is
normal. -/
theorem normalize_establishes_invariant (d : Draft) :
    if d.url.all Text.blank && d.baseUrl.all Text.blank then d.normalize = .error .missingUrl
    else ∃ r, d.normalize = .ok r ∧ r.IsNormal := by
  cases hl : d.lacksAddress with
  | true =>
    rw [lacksAddress] at hl
    rw [if_pos hl]
    exact normalize_of_lacks hl
  | false =>
    obtain ⟨r, hr⟩ := exists_assemble hl
    rw [lacksAddress] at hl
    rw [if_neg (Bool.eq_false_iff.mp hl)]
    have hspoken := isSpoken_of_assembles (assembles hr)
    exact ⟨r.tidied, normalize_of_assemble hr, Request.isNormal_tidied hspoken⟩

end Draft

end CurlScribe
