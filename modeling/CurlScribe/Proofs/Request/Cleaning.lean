import CurlScribe.Proofs.Request.Tidy

/-! Cleaning, rule by rule: what goes, what stays, and that nothing is left over to go. -/
namespace CurlScribe

namespace ParamList

/-- The entries that are switched on or have a key or a value, in their order. -/
def spoken (l : ParamList) : List Param :=
  l.entries.filter fun p => p.enabled || p.key != "" || p.value != ""

theorem tidied_entries (l : ParamList) : l.tidied.entries = l.spoken := by
  refine List.filter_congr fun p _ => ?_
  have hk : (p.key != "") = !(p.key == "") := rfl
  have hv : (p.value != "") = !(p.value == "") := rfl
  rw [Param.isVoid, hk, hv]
  cases p.key == "" <;> cases p.value == "" <;> cases p.enabled <;> rfl

theorem tidied_tidied (l : ParamList) : l.tidied.tidied = l.tidied := by
  simp [tidied]

end ParamList

namespace Network

theorem tidied_tidied (n : Network) : n.tidied.tidied = n.tidied := by
  simp [tidied, Option.filter_filter]

end Network

namespace Tls

theorem tidied_tidied (t : Tls) : t.tidied.tidied = t.tidied := by
  simp [tidied, Option.filter_filter]

end Tls

namespace Flags

theorem tidied_tidied (f : Flags) : f.tidied.tidied = f.tidied :=
  tidied_of_on fun _ he => (List.mem_filter.mp he).2

end Flags

namespace Request

variable {r s : Request}

/-- What a request becomes when its empty content goes, one rule for each field. -/
structure Cleaned (r s : Request) : Prop where
  method : s.method = r.method
  url : s.url = r.url
  baseUrl : s.baseUrl = r.baseUrl
  endpoint : s.endpoint = r.endpoint
  pathTemplate : s.pathTemplate = r.pathTemplate
  auth : s.auth = r.auth
  pathParameters : s.pathParameters = r.pathParameters.filter (· != "")
  rawOptions : s.rawOptions = r.rawOptions.filter (· != "")
  queryParams : s.queryParams.entries = r.queryParams.spoken
  headers : s.headers.entries = r.headers.spoken
  formData : s.formData.entries = r.formData.spoken
  cookies : s.cookies.entries = r.cookies.spoken
  /-- The value of a body that stays is read again from its text. -/
  body : ∀ b, s.body = some b ↔ ∃ a, r.body = some a ∧ a.raw ≠ "" ∧ b = .ofText a.raw
  proxy : s.proxy = r.proxy.filter (· != "")
  userAgent : s.userAgent = r.userAgent.filter (· != "")
  referer : s.referer = r.referer.filter (· != "")
  flags : s.flags.entries = r.flags.entries.filter Prod.snd
  /-- Times that are not finite go, and a group goes with its last setting. -/
  network : ∀ n, s.network = some n ↔ ∃ m, r.network = some m ∧ n = m.tidied ∧ n ≠ {}
  /-- Empty texts go, and a group goes with its last setting. -/
  tls : ∀ t, s.tls = some t ↔ ∃ u, r.tls = some u ∧ t = u.tidied ∧ t ≠ {}

/-- What is left of a group of settings. -/
theorem group_eq_some_iff {α : Type} {group : Option α} {tidied : α → α} {isEmpty : α → Bool}
    {b : α} : (group.map tidied).filter (fun a => !isEmpty a) = some b ↔
      ∃ a, group = some a ∧ b = tidied a ∧ isEmpty b = false := by
  cases group with
  | none => simp
  | some a =>
    simp only [Option.map_some, Option.filter_eq_some_iff, Option.some.injEq, Bool.not_eq_true']
    constructor
    · rintro ⟨rfl, he⟩
      exact ⟨a, rfl, rfl, he⟩
    · rintro ⟨_, rfl, rfl, he⟩
      exact ⟨rfl, he⟩

theorem body_tidied_eq_some_iff {b : Body} :
    r.tidied.body = some b ↔ ∃ a, r.body = some a ∧ a.raw ≠ "" ∧ b = .ofText a.raw := by
  simp only [tidied, Option.map_eq_some_iff, Option.filter_eq_some_iff, bne_iff_ne]
  constructor
  · rintro ⟨a, ⟨ha, hne⟩, rfl⟩
    exact ⟨a, ha, hne, rfl⟩
  · rintro ⟨a, ha, hne, rfl⟩
    exact ⟨a, ⟨ha, hne⟩, rfl⟩

theorem cleaned_tidied (r : Request) : Cleaned r r.tidied where
  method := rfl
  url := rfl
  baseUrl := rfl
  endpoint := rfl
  pathTemplate := rfl
  auth := rfl
  pathParameters := rfl
  rawOptions := rfl
  queryParams := ParamList.tidied_entries r.queryParams
  headers := ParamList.tidied_entries r.headers
  formData := ParamList.tidied_entries r.formData
  cookies := ParamList.tidied_entries r.cookies
  body _ := body_tidied_eq_some_iff
  proxy := rfl
  userAgent := rfl
  referer := rfl
  flags := rfl
  network n := by
    have he : n.isEmpty = false ↔ n ≠ {} := by simp [Network.isEmpty]
    simp only [← he]
    exact group_eq_some_iff
  tls t := by
    have he : t.isEmpty = false ↔ t ≠ {} := by simp [Tls.isEmpty]
    simp only [← he]
    exact group_eq_some_iff

theorem group_tidied_tidied {α : Type} (group : Option α) {tidied : α → α} {p : α → Bool}
    (h : ∀ a, tidied (tidied a) = tidied a) :
    ((((group.map tidied).filter p).map tidied).filter p) = (group.map tidied).filter p := by
  cases group with
  | none => rfl
  | some a => cases hp : p (tidied a) <;> simp [Option.filter, hp, h]

theorem body_tidied_tidied (r : Request) : r.tidied.tidied.body = r.tidied.body := by
  cases hb : r.body with
  | none => simp [tidied, hb]
  | some b => by_cases he : b.raw = "" <;> simp [tidied, hb, he, Option.filter, Body.ofText]

theorem tidied_tidied (r : Request) : r.tidied.tidied = r.tidied := by
  have hbody := body_tidied_tidied r
  have hnetwork := group_tidied_tidied (p := fun n => !n.isEmpty) r.network Network.tidied_tidied
  have htls := group_tidied_tidied (p := fun t => !t.isEmpty) r.tls Tls.tidied_tidied
  simp only [tidied] at hbody
  simp only [tidied, hbody, hnetwork, htls, ParamList.tidied_tidied, Flags.tidied_tidied,
    List.filter_filter, Option.filter_filter, Bool.and_self]

/-- Cleaning never fails, follows the rule of every field, and a second cleaning changes
nothing. -/
theorem clean_drops_empty_content (r : Request) :
    ∃ s, r.clean = .ok s ∧ Cleaned r s ∧ s.clean = .ok s := by
  refine ⟨r.tidied, clean_eq r, cleaned_tidied r, ?_⟩
  rw [clean_eq, tidied_tidied]

end Request

end CurlScribe
