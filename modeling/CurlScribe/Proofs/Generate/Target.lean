import CurlScribe.Generate.Target
import CurlScribe.Proofs.Request.Normal
import CurlScribe.Proofs.Request.ReadBack
import CurlScribe.Proofs.Web.Written

/-! The target of a request, and the one that its JSON form is normalized to. -/
namespace CurlScribe

namespace Request

/-- The endpoint that code is generated for: that of the address only where no base is given. -/
def sentEndpoint (r : Request) : String :=
  if Text.blank r.baseUrl then (Location.ofText r.url).endpoint
  else if Text.blank r.endpoint then "/" else r.endpoint

/-- The endpoint that normalization ends at: that of the address where none is given. -/
def filledEndpoint (r : Request) : String :=
  if !Text.blank r.endpoint then r.endpoint
  else if !Text.blank r.url then (Location.ofText r.url).endpoint
  else "/"

/-- The path at an endpoint, unless a template is given. -/
def pathAt (r : Request) (endpoint : String) : String :=
  if Text.blank r.pathTemplate then (Template.ofEndpoint endpoint).1 else r.pathTemplate

/-- The names of placeholders at an endpoint, unless names are given. -/
def namesAt (r : Request) (endpoint : String) : List String :=
  if r.pathParameters.isEmpty then (Template.ofEndpoint endpoint).2 else r.pathParameters

/-- Where neither looks for an endpoint in a place that the other passes over, both end at the
same one. -/
theorem sentEndpoint_eq {r : Request}
    (h : Text.blank r.url = true ∨ Text.blank r.baseUrl = Text.blank r.endpoint)
    (haddress : Text.blank r.url = false ∨ Text.blank r.baseUrl = false) :
    r.sentEndpoint = r.filledEndpoint := by
  rw [sentEndpoint, filledEndpoint]
  cases hu : Text.blank r.url with
  | true =>
    have hb : Text.blank r.baseUrl = false := by simpa [hu] using haddress
    cases he : Text.blank r.endpoint <;> simp [hb]
  | false =>
    have heq : Text.blank r.baseUrl = Text.blank r.endpoint := by simpa [hu] using h
    cases he : Text.blank r.endpoint <;> simp [heq, he]

theorem pathAt_eq_iff {r : Request} {a b : String} : r.pathAt a = r.pathAt b ↔
    (Text.blank r.pathTemplate = true → (Template.ofEndpoint a).1 = (Template.ofEndpoint b).1) := by
  cases h : Text.blank r.pathTemplate <;> simp [pathAt, h]

/-- Names that are given stay unless one of them is empty; names of an endpoint never are. -/
theorem namesAt_eq_iff {r : Request} {a b : String} :
    r.namesAt a = (r.namesAt b).filter (· != "") ↔
      if r.pathParameters = [] then (Template.ofEndpoint a).2 = (Template.ofEndpoint b).2
      else "" ∉ r.pathParameters := by
  have hnamed : (Template.ofEndpoint b).2.filter (· != "") = (Template.ofEndpoint b).2 := by
    rw [List.filter_eq_self]
    intro name hn
    simp [Template.ofEndpoint_named b name hn]
  cases hp : r.pathParameters with
  | nil => simp only [namesAt, hp, List.isEmpty_nil, if_true, hnamed]
  | cons p ps =>
    have hself : p :: ps = (p :: ps).filter (· != "") ↔ "" ∉ p :: ps := by
      rw [eq_comm, List.filter_eq_self]
      constructor
      · intro hall hm
        simpa using hall "" hm
      · intro hm name hn
        rw [bne_iff_ne]
        rintro rfl
        exact hm hn
    simpa [namesAt, hp] using hself

end Request

namespace Target

variable {r : Request}

/-- A request has no target exactly where address and base are blank. -/
theorem ofRequest_eq_none_iff : ofRequest? r = none ↔
    Text.blank r.url = true ∧ Text.blank r.baseUrl = true := by
  cases hb : Text.blank r.baseUrl <;> cases hu : Text.blank r.url <;> simp [ofRequest?, hb, hu]

/-- The base of a target is the trimmed base of the request or that of its address; the rest
follows from the endpoint that code is generated for. -/
theorem ofRequest_eq {base : String} (h : (Draft.ofRequest r).base? = some base) :
    ofRequest? r =
      some ⟨Text.trimmed base, r.pathAt r.sentEndpoint, r.namesAt r.sentEndpoint⟩ := by
  cases hb : Text.blank r.baseUrl with
  | false =>
    obtain rfl : r.baseUrl = base := by
      simpa [Draft.base?, Draft.ofRequest, Text.nonBlank, Option.filter, hb] using h
    simp [ofRequest?, Request.pathAt, Request.namesAt, Request.sentEndpoint, hb]
  | true =>
    cases hu : Text.blank r.url with
    | true => simp [Draft.base?, Draft.ofRequest, Text.nonBlank, Option.filter, hb, hu] at h
    | false =>
      obtain rfl : (Location.ofText r.url).baseUrl = base := by
        simpa [Draft.base?, Draft.ofRequest, Text.nonBlank, Option.filter, hb, hu] using h
      simp [ofRequest?, Request.pathAt, Request.namesAt, Request.sentEndpoint, hb, hu,
        Location.trimmed_baseUrl, Location.blank_endpoint]

end Target

namespace Draft

theorem path_ofRequest (r : Request) : (ofRequest r).path = r.filledEndpoint := by
  cases he : Text.blank r.endpoint <;> cases hu : Text.blank r.url <;>
    simp [path, ofRequest, Request.filledEndpoint, Text.nonBlank, Option.filter, he, hu]

end Draft

namespace Request

variable {r : Request}

/-- The JSON form of a request with an address or a base is normalized to the endpoint that
normalization ends at. -/
theorem exists_normalized (h : Text.blank r.url = false ∨ Text.blank r.baseUrl = false) :
    ∃ s, ofPayload (codec.write r) = .ok s ∧ (Draft.ofRequest r).base? = some s.baseUrl ∧
      s.pathTemplate = r.pathAt r.filledEndpoint ∧
      s.pathParameters = (r.namesAt r.filledEndpoint).filter (· != "") := by
  have hlacks : (Draft.ofRequest r).echo.lacksAddress = false := by
    rcases h with h | h <;> simp [Draft.lacksAddress, Draft.echo, Draft.ofRequest, h]
  obtain ⟨a, ha⟩ := Draft.exists_assemble hlacks
  obtain ⟨-, -, hbase, -, htemplate, hnames, -⟩ := Draft.assembles ha
  have hpath : (Draft.ofRequest r).echo.path = r.filledEndpoint := Draft.path_ofRequest r
  rw [hpath] at htemplate hnames
  refine ⟨a.tidied, ?_, hbase, htemplate.trans ?_,
    congrArg (List.filter (· != "")) (hnames.trans ?_)⟩
  · rw [ofPayload, Draft.read_request]
    exact Draft.normalize_of_assemble ha
  · cases ht : Text.blank r.pathTemplate <;>
      simp [pathAt, Draft.echo, Draft.ofRequest, Text.nonBlank, Option.filter, ht]
  · cases hp : r.pathParameters <;> simp [namesAt, Draft.echo, Draft.ofRequest, Option.filter, hp]

/-- Every request with an address or a base has a target, and its JSON form makes a request with
the same base. Their paths and placeholders agree exactly where the endpoints spell the same ones
or others are given, none of them empty. -/
theorem target_is_normalized_iff
    (h : Text.blank r.url = false ∨ Text.blank r.baseUrl = false) :
    ∃ t s, Target.ofRequest? r = some t ∧ ofPayload (codec.write r) = .ok s ∧
      t.baseUrl = Text.trimmed s.baseUrl ∧
      (t.path = s.pathTemplate ↔ (Text.blank r.pathTemplate = true →
        (Template.ofEndpoint r.sentEndpoint).1 = (Template.ofEndpoint r.filledEndpoint).1)) ∧
      (t.pathParameters = s.pathParameters ↔
        if r.pathParameters = [] then
          (Template.ofEndpoint r.sentEndpoint).2 = (Template.ofEndpoint r.filledEndpoint).2
        else "" ∉ r.pathParameters) ∧
      (Text.blank r.url = true ∨ Text.blank r.baseUrl = Text.blank r.endpoint →
        "" ∉ r.pathParameters →
          t.path = s.pathTemplate ∧ t.pathParameters = s.pathParameters) := by
  obtain ⟨s, hs, hbase, htemplate, hnames⟩ := exists_normalized h
  refine ⟨_, s, Target.ofRequest_eq hbase, hs, rfl, ?_, ?_, ?_⟩
  · rw [htemplate]
    exact pathAt_eq_iff
  · rw [hnames]
    exact namesAt_eq_iff
  · intro hplain hnone
    have hend : r.sentEndpoint = r.filledEndpoint := sentEndpoint_eq hplain h
    constructor
    · exact (congrArg r.pathAt hend).trans htemplate.symm
    · rw [hnames, hend]
      refine namesAt_eq_iff.mpr ?_
      split
      · rfl
      · exact hnone

/-- An address that leaves everything else to be derived. -/
def addressed : Request := { url := "http://[::1]/a/:id" }

theorem addressed_is_sent_where_normalized : ∃ t s, Target.ofRequest? addressed = some t ∧
    ofPayload (codec.write addressed) = .ok s ∧ t.path = s.pathTemplate ∧
    t.pathParameters = s.pathParameters := by
  obtain ⟨t, s, ht, hs, -, -, -, hagree⟩ :=
    target_is_normalized_iff (r := addressed) (.inl (by decide))
  exact ⟨t, s, ht, hs, hagree (.inr rfl) (by simp [addressed])⟩

/-- An address with a base, but no endpoint beside it. -/
def based : Request := { url := "http://[::1]/a", baseUrl := "http://[::1]" }

/-- With a base beside it, an address gives its endpoint to a normalization, but not to code. -/
theorem based_is_sent_elsewhere : ∃ t s, Target.ofRequest? based = some t ∧
    ofPayload (codec.write based) = .ok s ∧ t.path = "/" ∧ s.pathTemplate = "/a" := by
  obtain ⟨s, hs, hbase, htemplate, -⟩ := exists_normalized (r := based) (.inl (by decide))
  have hsent : based.sentEndpoint = "/" := by decide +kernel
  have hfilled : based.filledEndpoint = "/a" := by decide +kernel
  have hsentPath : (Template.ofEndpoint "/").1 = "/" := by cbv
  have hfilledPath : (Template.ofEndpoint "/a").1 = "/a" := by cbv
  refine ⟨_, s, Target.ofRequest_eq hbase, hs, ?_, htemplate.trans ?_⟩
  · rw [hsent]
    exact hsentPath
  · rw [hfilled]
    exact hfilledPath

end Request

end CurlScribe
