import CurlScribe.Command.Parse
import CurlScribe.Proofs.Command.Invariant
import CurlScribe.Proofs.Web.Address
import CurlScribe.Proofs.Web.Template

/-! The request of a draft that was read from a command line. -/
namespace CurlScribe

variable {policy : Repeated} {d : Draft} {u : String}

namespace Draft

/-- The network settings that are finite, if there are any. -/
def spokenNetwork (d : Draft) : Option Network :=
  if d.network.tidied.isEmpty then none else some d.network.tidied

/-- The TLS settings that are not blank, if there are any. -/
def spokenTls (d : Draft) : Option Tls :=
  if (Tls.merge d.tls {}).isEmpty then none else some (Tls.merge d.tls {})

/-- The request that a draft makes at an address. -/
def requestAt (d : Draft) (u : String) : Request where
  method := d.method.getD d.impliedMethod
  url := u
  baseUrl := (Location.ofText u).baseUrl
  endpoint := (Location.ofText u).endpoint
  pathTemplate := (Template.ofEndpoint (Location.ofText u).endpoint).1
  pathParameters := (Template.ofEndpoint (Location.ofText u).endpoint).2
  queryParams := d.bodyPairs.foldl (fun l (name, value) => l.insert name value)
    (Location.ofText u).queryParams
  headers := d.headers
  body := d.keptBody
  formData := d.formData
  cookies := d.cookies
  auth := d.auth
  proxy := Text.nonBlank d.proxy
  userAgent := Text.nonBlank d.userAgent
  referer := Text.nonBlank d.referer
  flags := d.flags
  network := d.spokenNetwork
  tls := d.spokenTls
  rawOptions := d.rawOptions.filter (· != "")

end Draft

namespace Command

theorem body_of_keptBody {b : Body} (h : d.keptBody = some b) :
    d.body = some b ∧ b.isBlank = false := by
  have hs : d.spokenBody = some b := by
    rw [Draft.keptBody] at h
    split at h
    · simp at h
    · exact h
  simpa [Draft.spokenBody, Option.filter_eq_some_iff] using hs

theorem tidied_body (hd : IsRead policy d) :
    ((d.keptBody.filter fun b => b.raw != "").map fun b => .ofText b.raw) = d.keptBody := by
  cases hk : d.keptBody with
  | none => rfl
  | some b =>
    obtain ⟨hb, hblank⟩ := body_of_keptBody hk
    have hne : b.raw ≠ "" := Text.ne_empty_of_spoken hblank
    simp [Option.filter, hne, ← hd.body b hb]

theorem tidied_network (d : Draft) :
    ((if (Network.merge d.network {}).isEmpty then none
      else some (Network.merge d.network {})).map Network.tidied).filter (fun n => !n.isEmpty) =
        d.spokenNetwork := by
  have hm : Network.merge d.network {} = d.network := by simp [Network.merge]
  rw [hm, Draft.spokenNetwork]
  by_cases he : d.network.isEmpty = true
  · have h0 : d.network = {} := by simpa [Network.isEmpty] using he
    have ht : ({} : Network).tidied.isEmpty = true := rfl
    simp [h0, ht]
  · cases ht : d.network.tidied.isEmpty <;> simp [he, ht, Option.filter]

theorem tidied_tls (d : Draft) :
    ((if (Tls.merge d.tls {}).isEmpty then none
      else some (Tls.merge d.tls {})).map Tls.tidied).filter (fun t => !t.isEmpty) =
        d.spokenTls := by
  have ht : (Tls.merge d.tls {}).tidied = Tls.merge d.tls {} := by
    have hb : Text.nonBlank none = none := rfl
    simp only [Tls.merge, Tls.tidied, hb, Option.or_none, Text.filter_nonBlank]
  rw [Draft.spokenTls]
  cases he : (Tls.merge d.tls {}).isEmpty <;> simp [he, ht, Option.filter]

/-- A draft of a command line makes a request where it has an address, and fails for no other
reason. -/
theorem normalize_of_isRead (hd : IsRead policy d) :
    d.normalize =
      match Text.nonBlank d.url with
      | some u => .ok (d.requestAt u)
      | none => .error .missingUrl := by
  obtain ⟨hbase, hendpoint, htemplate, hparameters, hquery⟩ := hd.noParts
  obtain ⟨hnetwork, htls⟩ := hd.noGroups
  have hb : Text.nonBlank none = none := rfl
  have he : ParamList.empty.isEmpty = true := rfl
  cases hu : Text.nonBlank d.url with
  | none => simp [Draft.normalize, Draft.assemble, hu, hbase, hb]
  | some u =>
    have hparams : ∀ p ∈ (d.bodyPairs.foldl (fun l (name, value) => l.insert name value)
        (Location.ofText u).queryParams).entries, p.enabled = true :=
      ParamList.enabled_insertAll _ (Location.enabled_queryParams u)
    have hslots : (Template.ofEndpoint (Location.ofText u).endpoint).2.filter (· != "") =
        (Template.ofEndpoint (Location.ofText u).endpoint).2 :=
      List.filter_eq_self.mpr fun name hn => by simp [Template.ofEndpoint_named _ name hn]
    simp only [Draft.normalize, Draft.assemble, hu, hbase, hendpoint, htemplate, hparameters,
      hquery, hnetwork, htls, hb, he, Option.none_or, Option.map_some, Option.getD_some,
      Option.getD_none, Option.filter_none, if_true, Request.clean_eq]
    simp only [Draft.requestAt, Request.tidied, hslots, ParamList.tidied_of_enabled hparams,
      ParamList.tidied_of_enabled fun p hp => (hd.headers p hp).enabled,
      ParamList.tidied_of_enabled fun p hp => (hd.fields p hp).enabled,
      ParamList.tidied_of_enabled fun p hp => (hd.cookies p hp).enabled,
      Flags.tidied_of_on fun e he => (hd.flags e he).1, tidied_body hd, tidied_network, tidied_tls,
      Text.filter_nonBlank]

theorem spoken_of_nonBlank {o : Option String} {s : String} (h : Text.nonBlank o = some s) :
    Text.blank s = false := (Text.nonBlank_eq_some.mp h).2

theorem isWritable_spokenNetwork (hd : IsRead policy d) {n : Network}
    (h : d.spokenNetwork = some n) : n.IsWritable := by
  rw [Draft.spokenNetwork] at h
  split at h
  · simp at h
  · rename_i he
    obtain rfl := Option.some.inj h
    refine ⟨by simpa using he, by simp [Network.tidied, hd.noTimeout], ?_⟩
    simp only [Network.tidied, Option.filter_eq_some_iff]
    rintro x (hx | hx | hx | hx) <;> exact hx.2

theorem isWritable_spokenTls (hd : IsRead policy d) {t : Tls} (h : d.spokenTls = some t) :
    t.IsWritable := by
  have hb : Text.nonBlank none = none := rfl
  rw [Draft.spokenTls] at h
  split at h
  · simp at h
  · rename_i he
    obtain rfl := Option.some.inj h
    refine ⟨by simpa using he, ?_, ?_⟩
    · simp only [Tls.merge, hb, Option.or_none]
      rintro s (hs | hs | hs | hs) <;> exact spoken_of_nonBlank hs
    · simp only [Tls.merge, hb, Option.or_none]
      intro v hv
      exact hd.version v (Text.nonBlank_eq_some.mp hv).1

/-- Everything that a command line says about its request can be written again. -/
theorem writable_requestAt (hd : IsRead policy d) (u : String) :
    Writable policy (d.requestAt u) where
  headers := hd.headers
  headersDistinct := hd.headersDistinct
  cookies := hd.cookies
  cookiesDistinct := hd.cookiesDistinct
  fields := hd.fields
  fieldsDistinct := hd.fieldsDistinct
  auth := hd.auth
  flags := hd.flags
  body b hb := by
    obtain ⟨hs, hblank⟩ := body_of_keptBody (show d.keptBody = some b from hb)
    exact ⟨hblank, hd.body b hs⟩
  bodyless hg := by
    have hget : d.flag "get" = true := hg
    simp [Draft.requestAt, Draft.keptBody, hget]
  spoken s hs := by
    rcases hs with hs | hs | hs <;> exact spoken_of_nonBlank hs
  network _ hn := isWritable_spokenNetwork hd hn
  tls _ ht := isWritable_spokenTls hd ht

end Command

end CurlScribe
