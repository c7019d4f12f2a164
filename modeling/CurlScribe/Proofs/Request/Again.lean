import CurlScribe.Proofs.Request.Normal
import CurlScribe.Proofs.Request.ReadBack
import Mathlib

/-! Requests of payloads whose JSON form is taken as a payload again. -/
namespace CurlScribe

namespace Tls

/-- A group whose texts all say something is what it is merged to. -/
theorem merge_of_spoken {t : Tls} (h : t.IsSpoken) : merge {} t = t := by
  have hb : Text.nonBlank none = none := rfl
  simp only [merge, hb, Option.none_or]
  rw [Text.nonBlank_of_spoken fun s hs => h s (.inl hs),
    Text.nonBlank_of_spoken fun s hs => h s (.inr (.inl hs)),
    Text.nonBlank_of_spoken fun s hs => h s (.inr (.inr (.inl hs))),
    Text.nonBlank_of_spoken fun s hs => h s (.inr (.inr (.inr (.inl hs)))),
    Text.nonBlank_of_spoken fun s hs => h s (.inr (.inr (.inr (.inr hs))))]

end Tls

namespace Request

variable {r : Request}

theorem tidied_of_normal (h : r.IsNormal) : r.tidied = r := by
  have hc := h.clean
  rw [clean_eq] at hc
  exact Except.ok.inj hc

/-- The query parameters that are found when the request is a payload: its own, or those of its
address where it has none. -/
def foundParams (r : Request) : ParamList :=
  if r.queryParams.isEmpty then (Location.ofText r.url).queryParams else r.queryParams

/-- The names of placeholders that are found when the request is a payload. -/
def foundNames (r : Request) : List String :=
  if r.pathParameters.isEmpty then (Template.ofEndpoint r.endpoint).2 else r.pathParameters

end Request

namespace Draft

variable {d : Draft} {r : Request}

theorem isNormal_of_normalize (h : d.normalize = .ok r) : r.IsNormal := by
  obtain ⟨s, hs, rfl⟩ := exists_of_normalize h
  exact Request.isNormal_tidied (isSpoken_of_assembles (assembles hs))

/-- The body of a normal request is kept. -/
theorem keptBody_ofRequest (h : r.IsSpoken) : (ofRequest r).keptBody = r.body := by
  have hs : (ofRequest r).spokenBody = r.body := by
    cases hb : r.body with
    | none => simp [spokenBody, ofRequest, hb]
    | some b => simp [spokenBody, ofRequest, hb, Option.filter, h.body b hb]
  rw [keptBody, hs]
  split
  · rename_i hg
    exact (h.bodyless hg).symm
  · rfl

theorem bodyPairs_ofRequest (h : r.IsSpoken) : (ofRequest r).bodyPairs = [] := by
  rw [bodyPairs]
  split
  · rename_i hg
    have hb : r.body = none := h.bodyless hg
    simp [spokenBody, ofRequest, hb]
  · rfl

theorem group_getD {α : Type} {group : Option α} {isEmpty : α → Bool} {empty : α}
    (he : isEmpty empty = true) (hg : ∀ a, group = some a → isEmpty a = false) :
    (if isEmpty (group.getD empty) then none else some (group.getD empty)) = group := by
  cases group with
  | none => simp [he]
  | some a => simp [hg a rfl]

theorem network_ofRequest (h : r.IsNormal) :
    (if ((ofRequest r).network.merge ((ofRequest r).networkGroup.getD {})).isEmpty then none
      else some ((ofRequest r).network.merge ((ofRequest r).networkGroup.getD {}))) =
        r.network := by
  have hm : (ofRequest r).network.merge ((ofRequest r).networkGroup.getD {}) =
      r.network.getD {} := by
    simp [ofRequest, Network.merge]
  rw [hm]
  refine group_getD rfl fun n hn => ?_
  rw [Network.isEmpty, beq_eq_false_iff_ne]
  rintro rfl
  exact h.network hn

theorem tls_ofRequest (h : r.IsNormal) :
    (if ((ofRequest r).tls.merge ((ofRequest r).tlsGroup.getD {})).isEmpty then none
      else some ((ofRequest r).tls.merge ((ofRequest r).tlsGroup.getD {}))) = r.tls := by
  have hm : (ofRequest r).tls.merge ((ofRequest r).tlsGroup.getD {}) = r.tls.getD {} := by
    cases ht : r.tls with
    | none => simp [ofRequest, ht]; rfl
    | some t => simp [ofRequest, ht, Tls.merge_of_spoken (h.tlsTexts t ht)]
  rw [hm]
  refine group_getD rfl fun t ht => ?_
  rw [Tls.isEmpty, beq_eq_false_iff_ne]
  rintro rfl
  exact h.tls ht

/-- A normal request that is given in all its parts is assembled as it is, except for lists that
are empty. -/
theorem assemble_ofRequest (h : r.IsNormal) : (ofRequest r).assemble =
    .ok { r with queryParams := r.foundParams, pathParameters := r.foundNames } := by
  have hurl : Text.nonBlank (some r.url) = some r.url := Text.nonBlank_eq_some.mpr ⟨rfl, h.url⟩
  have hbase : Text.nonBlank (some r.baseUrl) = some r.baseUrl :=
    Text.nonBlank_eq_some.mpr ⟨rfl, h.baseUrl⟩
  have hendpoint : Text.nonBlank (some r.endpoint) = some r.endpoint :=
    Text.nonBlank_eq_some.mpr ⟨rfl, h.endpoint⟩
  have htemplate : Text.nonBlank (some r.pathTemplate) = some r.pathTemplate :=
    Text.nonBlank_eq_some.mpr ⟨rfl, h.pathTemplate⟩
  have hnames : ((some r.pathParameters).filter fun ps => !ps.isEmpty).getD
      (Template.ofEndpoint r.endpoint).2 = r.foundNames := by
    cases hp : r.pathParameters with
    | nil => simp [Request.foundNames, hp, Option.filter]
    | cons p ps => simp [Request.foundNames, hp, Option.filter]
  rw [assemble, keptBody_ofRequest h.toIsSpoken, bodyPairs_ofRequest h.toIsSpoken]
  dsimp only
  rw [network_ofRequest h, tls_ofRequest h]
  simp only [ofRequest, hurl, hbase, hendpoint, htemplate, hnames, Option.some_or, Option.map_some,
    Option.getD_some, List.foldl_nil, Text.nonBlank_of_spoken h.proxy,
    Text.nonBlank_of_spoken h.userAgent, Text.nonBlank_of_spoken h.referer]
  rfl

end Draft

namespace Request

variable {p : Json} {r : Request}

theorem isNormal_of_payload (h : ofPayload p = .ok r) : r.IsNormal := by
  rw [ofPayload] at h
  split at h
  · exact Draft.isNormal_of_normalize h
  · simp at h

theorem enabled_foundParams (hq : r.queryParams.isEmpty = true) :
    ∀ q ∈ r.foundParams.entries, q.enabled = true := by
  rw [foundParams, if_pos hq]
  exact Location.enabled_queryParams r.url

theorem tidied_foundParams (h : r.IsNormal) : r.foundParams.tidied = r.foundParams := by
  cases hq : r.queryParams.isEmpty with
  | true => exact ParamList.tidied_of_enabled (enabled_foundParams hq)
  | false =>
    have ht := congrArg queryParams (tidied_of_normal h)
    rw [foundParams, hq]
    exact ht

theorem filter_foundNames (h : r.IsNormal) : r.foundNames.filter (· != "") = r.foundNames := by
  cases hp : r.pathParameters.isEmpty with
  | true =>
    rw [foundNames, if_pos hp]
    exact List.filter_eq_self.mpr fun name hn => by simp [Template.ofEndpoint_named _ name hn]
  | false =>
    have ht := congrArg pathParameters (tidied_of_normal h)
    rw [foundNames, hp]
    exact ht

/-- The JSON form of a normal request makes the request again, except for lists that are empty. -/
theorem ofPayload_write (h : r.IsNormal) : ofPayload (codec.write r) =
    .ok { r with queryParams := r.foundParams, pathParameters := r.foundNames } := by
  have ht := tidied_of_normal h
  have htidied : Request.tidied { r with
      queryParams := r.foundParams, pathParameters := r.foundNames } = { r.tidied with
        queryParams := r.foundParams.tidied
        pathParameters := r.foundNames.filter (· != "") } := rfl
  rw [ofPayload, Draft.read_request, Draft.echo_ofRequest ht]
  dsimp only
  rw [Draft.normalize_of_assemble (Draft.assemble_ofRequest h), htidied, ht,
    tidied_foundParams h, filter_foundNames h]

theorem isEmpty_iff {l : ParamList} : l.isEmpty = true ↔ l = .empty := by
  obtain ⟨entries⟩ := l
  simp [ParamList.isEmpty, ParamList.empty]

theorem foundParams_eq_iff : r.foundParams = r.queryParams ↔
    (r.queryParams.isEmpty = true → (Location.ofText r.url).queryParams.isEmpty = true) := by
  cases hq : r.queryParams.isEmpty with
  | true => simp [foundParams, isEmpty_iff, isEmpty_iff.mp hq]
  | false => simp [foundParams, hq]

theorem foundNames_eq_iff : r.foundNames = r.pathParameters ↔
    (r.pathParameters = [] → (Template.ofEndpoint r.endpoint).2 = []) := by
  cases hp : r.pathParameters with
  | nil => simp [foundNames, hp]
  | cons p ps => simp [foundNames, hp]

/-- The JSON form of a request that was made from a payload makes a request again. It is the same
one exactly where no list that came out empty can be filled from the address or the endpoint. -/
theorem payload_is_kept_iff (h : ofPayload p = .ok r) :
    (∃ s, ofPayload (codec.write r) = .ok s) ∧
    (ofPayload (codec.write r) = .ok r ↔
      (r.queryParams.isEmpty = true → (Location.ofText r.url).queryParams.isEmpty = true) ∧
        (r.pathParameters = [] → (Template.ofEndpoint r.endpoint).2 = [])) := by
  have hw := ofPayload_write (isNormal_of_payload h)
  refine ⟨⟨_, hw⟩, ?_⟩
  rw [hw, ← foundParams_eq_iff, ← foundNames_eq_iff, Except.ok.injEq]
  constructor
  · intro he
    exact ⟨congrArg queryParams he, congrArg pathParameters he⟩
  · rintro ⟨hq, hp⟩
    rw [hq, hp]

/-- A payload with a placeholder and a query. -/
def slotted : Json := .obj [("url", .str "http://[::1]/:id?x=1")]

theorem slotted_is_kept : ∃ r, ofPayload slotted = .ok r ∧ ofPayload (codec.write r) = .ok r := by
  have hnames : (ofPayload slotted).toOption.map pathParameters = some ["id"] := by cbv
  have hquery : (ofPayload slotted).toOption.map queryParams = some ⟨[⟨"x", "1", true⟩]⟩ := by cbv
  cases hr : ofPayload slotted with
  | error e => simp [hr, Except.toOption] at hnames
  | ok r =>
    have hn : r.pathParameters = ["id"] := by simpa [hr, Except.toOption] using hnames
    have hq : r.queryParams = ⟨[⟨"x", "1", true⟩]⟩ := by simpa [hr, Except.toOption] using hquery
    refine ⟨r, rfl, (payload_is_kept_iff hr).2.mpr ⟨?_, ?_⟩⟩
    · simp [hq, ParamList.isEmpty]
    · simp [hn]

/-- A payload whose list of placeholders holds only an empty name. -/
def unnamed : Json :=
  .obj [("url", .str "http://[::1]/:id"), ("pathParameters", .arr [.str ""])]

/-- Not every request of a payload is made again from its JSON form. -/
theorem unnamed_is_not_kept : ∃ r s, ofPayload unnamed = .ok r ∧
    ofPayload (codec.write r) = .ok s ∧ r.pathParameters = [] ∧ s.pathParameters = ["id"] := by
  have hnames : (ofPayload unnamed).toOption.map pathParameters = some [] := by cbv
  have hend : (ofPayload unnamed).toOption.map endpoint = some "/:id" := by cbv
  cases hr : ofPayload unnamed with
  | error e => simp [hr, Except.toOption] at hnames
  | ok r =>
    have hn : r.pathParameters = [] := by simpa [hr, Except.toOption] using hnames
    have he : r.endpoint = "/:id" := by simpa [hr, Except.toOption] using hend
    have hslots : (Template.ofEndpoint "/:id").2 = ["id"] := by cbv
    refine ⟨r, _, rfl, ofPayload_write (isNormal_of_payload hr), hn, ?_⟩
    simp [foundNames, hn, he, hslots]

end Request

end CurlScribe
