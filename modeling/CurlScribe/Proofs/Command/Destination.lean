import CurlScribe.Proofs.Command.Reread
import CurlScribe.Proofs.Web.Written
import Mathlib

/-! The address of an emitted command that is read again. -/
namespace CurlScribe

namespace Location

open Address

variable {u : String} {a : Address}

theorem ofText_none (h : ofText? (Text.trimmed u) = none) :
    ofText u = ⟨Text.trimmed u, "/", .empty, false⟩ := by
  simp [ofText, h]

theorem ofText_some (h : ofText? (Text.trimmed u) = some a) :
    ofText u = ⟨String.ofList a.base, String.ofList a.endpoint, a.queryParams, true⟩ := by
  simp [ofText, h]

/-- The base of an address is an address. -/
theorem ofText_base (h : ofText? u = some a) (hk : a.kind ≠ .file) :
    ofText? (String.ofList a.base) =
      some { a with path := readPath a.kind [], query := [] } := by
  have hpath : IsPath [] := ⟨by simp, by simp⟩
  have hquery : IsQuery a.kind [] := by simp [IsQuery]
  have hbase := ofChars_written (isRead_of_ofChars h) hk hpath hquery
  rw [ofText?, String.toList_ofList]
  simpa [queryText] using hbase

end Location

namespace Command

open Location

variable {o : CommandOptions} {e : EmitOptions} {c u : String} {r s : Request} {a : Address}

/-- The requests have the same address in all its parts. -/
structure SameAddress (r s : Request) : Prop where
  baseUrl : s.baseUrl = r.baseUrl
  endpoint : s.endpoint = r.endpoint
  pathTemplate : s.pathTemplate = r.pathTemplate
  pathParameters : s.pathParameters = r.pathParameters
  queryParams : s.queryParams = r.queryParams

/-- An address that is written from its parts has an endpoint in which no escape of a plain
character is left; one that is written as it was given has got no parameters besides. -/
def KeepsAddress (r : Request) : Prop :=
  if (Address.ofText? r.baseUrl).isSome then Percent.relax r.endpoint.toList = r.endpoint.toList
  else r.queryParams = .empty

instance (r : Request) : Decidable (KeepsAddress r) :=
  inferInstanceAs (Decidable (if (Address.ofText? r.baseUrl).isSome then _ else _))

/-- A request whose address was read from its text, with parameters that can be written again. -/
structure IsLocated (r : Request) : Prop where
  baseUrl : r.baseUrl = (ofText r.url).baseUrl
  endpoint : r.endpoint = (ofText r.url).endpoint
  pathTemplate : r.pathTemplate = (Template.ofEndpoint r.endpoint).1
  pathParameters : r.pathParameters = (Template.ofEndpoint r.endpoint).2
  enabled : ∀ p ∈ r.queryParams.entries, p.enabled = true
  distinct : r.queryParams.Distinct

theorem isLocated_requestAt (d : Draft) (u : String) : IsLocated (d.requestAt u) := by
  have he := ParamList.enabled_insertAll d.bodyPairs (enabled_queryParams u)
  have hd := ParamList.distinct_insertAll d.bodyPairs (distinct_queryParams u)
  constructor
  case enabled => exact he
  case distinct => exact hd
  all_goals simp only [Draft.requestAt]

theorem isLocated_of_parse (h : parse o c = .ok r) : IsLocated r := by
  obtain ⟨ws, u, -, -, -, rfl⟩ := parse_ok_iff.mp h
  exact isLocated_requestAt _ u

/-- What was read from the same text has the same address up to its parameters. -/
theorem sameAddress_iff (hr : IsLocated r) (hs : IsLocated s) :
    SameAddress r s ↔ s.baseUrl = r.baseUrl ∧ s.endpoint = r.endpoint ∧
      s.queryParams = r.queryParams := by
  constructor
  · rintro ⟨hb, he, -, -, hq⟩
    exact ⟨hb, he, hq⟩
  · rintro ⟨hb, he, hq⟩
    exact ⟨hb, he, by rw [hs.pathTemplate, hr.pathTemplate, he],
      by rw [hs.pathParameters, hr.pathParameters, he], hq⟩

theorem address_of_none (h : Address.ofText? r.baseUrl = none) : address r = r.url := by
  simp [address, h]

theorem address_of_some (h : Address.ofText? r.baseUrl = some a) :
    address r = String.ofList ((join r.baseUrl r.endpoint).toList ++
      Address.queryText (Form.encode (r.queryParams.enabled.map fun p => (p.key, p.value)))) := by
  simp only [address, h, Address.queryText]
  split
  · simp
  · rw [← String.toList_inj]
    simp

theorem cons_of_isHttp (h : isHttp u = true) : ∃ rest, u.toList = 'h' :: rest := by
  obtain ⟨rest, hr⟩ := List.isPrefixOf_iff_prefix.mp h
  exact ⟨_, hr.symm⟩

theorem cons_trimmed {c : Char} {cs : List Char} (h : u.toList = c :: cs)
    (hc : Text.isBlank c = false) : ∃ rest, (Text.trimmed u).toList = c :: rest := by
  obtain ⟨rest, hr⟩ := Text.reverse_dropWhile_cons hc cs
  refine ⟨rest, ?_⟩
  rw [Text.trimmed, String.toList_ofList, h, Text.trim, Text.trimStart_cons_of_not hc]
  exact hr

/-- The scheme `file` does not start like the schemes of the web. -/
theorem kind_ne_file (hr : IsLocated r) (h : Address.ofText? (Text.trimmed r.url) = some a)
    (hh : isHttp (address r) = true) : a.kind ≠ .file := by
  intro hk
  have hscheme := Address.scheme_of_file hk
  obtain ⟨rest, haddress⟩ := cons_of_isHttp hh
  cases hb : Address.ofText? r.baseUrl with
  | some b =>
    obtain ⟨more, hm⟩ := base_isPrefix_join r.baseUrl r.endpoint
    rw [address_of_some hb, ← hm, hr.baseUrl, ofText_some h, Address.base_eq, hscheme] at haddress
    simp at haddress
  | none =>
    rw [address_of_none hb] at haddress
    obtain ⟨inner, htrim⟩ := cons_trimmed haddress (by decide)
    rw [Address.ofText?, htrim] at h
    have hhead := Address.head_scheme h (by decide)
    rw [hscheme] at hhead
    exact absurd hhead (by decide)

theorem parts_eq (hr : IsLocated r) (h : Address.ofText? (Text.trimmed r.url) = some a) :
    r.baseUrl = String.ofList a.base ∧ r.endpoint = String.ofList a.endpoint := by
  rw [hr.baseUrl, hr.endpoint, ofText_some h]
  exact ⟨rfl, rfl⟩

theorem ofText_address (hr : IsLocated r) (h : Address.ofText? (Text.trimmed r.url) = some a)
    (hk : a.kind ≠ .file) : ofText (address r) = ⟨r.baseUrl,
      String.ofList (Percent.relax (Address.readPath a.kind a.endpoint)), r.queryParams, true⟩ := by
  obtain ⟨hbase, hend⟩ := parts_eq hr h
  rw [address_of_some (hbase ▸ ofText_base h hk), hbase, hend, join_base h,
    String.toList_ofList, List.append_assoc, ofText_written h hk,
    ParamList.ofPairs_enabled hr.enabled hr.distinct]

/-- Where an address is read that was written for a request, its base comes back, and the rest of it
exactly where the request keeps its address. -/
theorem sameAddress_written (hr : IsLocated r) (hs : IsLocated s) (hurl : s.url = address r)
    (hquery : s.queryParams = (ofText s.url).queryParams) (hh : isHttp (address r) = true) :
    s.baseUrl = r.baseUrl ∧ (SameAddress r s ↔ KeepsAddress r) := by
  rw [sameAddress_iff hr hs, hquery, hs.baseUrl, hs.endpoint, hurl, KeepsAddress]
  cases h : Address.ofText? (Text.trimmed r.url) with
  | none =>
    have hl := ofText_none h
    have hbase : Address.ofText? r.baseUrl = none := by rw [hr.baseUrl, hl, h]
    rw [hbase, address_of_none hbase, hr.baseUrl, hr.endpoint, hl]
    simp [eq_comm]
  | some a =>
    have hk := kind_ne_file hr h hh
    obtain ⟨hbase, hend⟩ := parts_eq hr h
    obtain ⟨segs, hne, hsegs, he⟩ := Address.endpoint_eq_pathText h hk
    have hiff := Address.relax_readPath_iff hk hne hsegs
    rw [← he] at hiff
    rw [ofText_address hr h hk, hbase, ofText_base h hk, hend]
    simpa [String.toList_ofList, String.ofList_inj] using hiff

/-- A located request reads back with its own parts of the address exactly where it keeps them. -/
theorem parse_emit_located_iff (hr : IsLocated r) (h : Writable o.repeatedHeaders r)
    (hm : KeepsMethod r) (hraw : r.rawOptions = []) (hl : IsLegible e r)
    (ha : Word.Unbroken (address r)) (hh : isHttp (address r) = true) :
    parse o (emit e r) = .ok { r with url := address r, flags := writtenFlags e r } ↔
      KeepsAddress r := by
  have hread := parse_emit h hm hraw hl ha hh
  obtain ⟨s, hs⟩ : ∃ s, parse o (emit e r) = .ok s := ⟨_, hread⟩
  have heq := Except.ok.inj (hs.symm.trans hread)
  have hsame : SameAddress r s ↔ KeepsAddress r :=
    (sameAddress_written hr (isLocated_of_parse hs) (by rw [heq]) (by rw [heq]) hh).2
  rw [← hsame, hs, Except.ok.injEq]
  constructor
  · intro hback
    rw [hback]
    exact ⟨rfl, rfl, rfl, rfl, rfl⟩
  · rintro ⟨hbase, hend, -, -, hquery⟩
    rw [heq] at hbase hend hquery ⊢
    dsimp only at hbase hend hquery
    rw [hbase, hend, hquery, ← hr.pathTemplate, ← hr.pathParameters]

/-- A command that was read again, without anything kept, makes the request that its options say, at
the address at its end. -/
theorem reread_eq (h : parse o c = .ok r) (hraw : r.rawOptions = []) (hl : IsLegible e r)
    (ha : Word.Unbroken (address r)) (hs : parse o (emit e r) = .ok s) :
    isHttp (address r) = true ∧
      s = Draft.requestAt { front e r with url := some (address r) } (address r) := by
  have hk : Settled o.quoting.single r.rawOptions := hraw ▸ .nil
  have hh := (legible_is_read_iff h hl hk ha).mp ⟨s, hs⟩
  have hn := exists_of_tail e (exists_of_address h)
  obtain ⟨us, u, hus, hu, rfl⟩ := (parse_emit_iff hn).mp hs
  rw [ofLine_tail o.quoting hk ha, hraw, List.nil_append] at hus
  obtain rfl := Except.ok.inj hus
  have hurl : (front e r).url = none := rfl
  rw [follow_legible (writable_of_parse h) hl, follow_address o.repeatedHeaders hh hurl] at hu ⊢
  obtain rfl : address r = u := Option.some.inj (Text.nonBlank_eq_some.mp hu).1
  exact ⟨hh, rfl⟩

/-- The address of a command that was read again, without anything kept. -/
theorem address_reread (h : parse o c = .ok r) (hraw : r.rawOptions = []) (hl : IsLegible e r)
    (ha : Word.Unbroken (address r)) (hs : parse o (emit e r) = .ok s) :
    s.baseUrl = r.baseUrl ∧ (SameAddress r s ↔ KeepsAddress r) := by
  have hw := writable_of_parse h
  obtain ⟨hh, rfl⟩ := reread_eq h hraw hl ha hs
  have hpairs : Draft.bodyPairs { front e r with url := some (address r) } = [] :=
    bodyPairs_eq hw rfl (flag_front hw (by decide) (by decide))
  refine sameAddress_written (isLocated_of_parse h) (isLocated_requestAt _ _) rfl ?_ hh
  simp only [Draft.requestAt, hpairs, List.foldl_nil]

/-- A request whose data went into its address. -/
def queried : Request :=
  (interpret {} ["curl", "-G", "-d", "q=1", "http://[::1]/a%2Fb"]).requestAt "http://[::1]/a%2Fb"

theorem parse_queried : parse {} "curl -G -d q=1 http://[::1]/a%2Fb" = .ok queried :=
  parse_ok_iff.mpr ⟨["curl", "-G", "-d", "q=1", "http://[::1]/a%2Fb"], "http://[::1]/a%2Fb",
    by decide +kernel, rfl, by decide +kernel, rfl⟩

theorem queried_keeps_its_address :
    ∃ s, parse {} (emit {} queried) = .ok s ∧ SameAddress queried s := by
  have hl : ∀ text ∈ writtenValues {} queried, Word.HasPlainBlanks text := by decide +kernel
  have hlegible : IsLegible {} queried := fun text ht => Word.unbroken_of_plain_blanks (hl text ht)
  have haddress : address queried = "http://[::1]/a%2Fb?q=1" := by cbv
  have ha : Word.Unbroken (address queried) :=
    Word.unbroken_of_plain_blanks (haddress ▸ by decide +kernel)
  have hk : Settled false queried.rawOptions := .nil
  obtain ⟨s, hs⟩ :=
    (legible_is_read_iff parse_queried hlegible hk ha).mpr (haddress ▸ by decide +kernel)
  exact ⟨s, hs, (address_reread parse_queried rfl hlegible ha hs).2.mpr (by decide +kernel)⟩

/-- A request whose endpoint spells an escape that its address did not have. -/
def escaped : Request :=
  (interpret {} ["curl", "http://[::1]/%%34%31"]).requestAt "http://[::1]/%%34%31"

/-- Not every endpoint is kept. -/
theorem escaped_loses_its_endpoint : ∃ s, parse {} "curl http://[::1]/%%34%31" = .ok escaped ∧
    escaped.rawOptions = [] ∧ parse {} (emit {} escaped) = .ok s ∧
      s.endpoint ≠ escaped.endpoint := by
  have hp : parse {} "curl http://[::1]/%%34%31" = .ok escaped :=
    parse_ok_iff.mpr ⟨["curl", "http://[::1]/%%34%31"], "http://[::1]/%%34%31",
      by decide +kernel, rfl, by decide +kernel, rfl⟩
  have hend : escaped.endpoint = "/%41" := by decide +kernel
  have hagain : (parse {} (emit {} escaped)).toOption.map Request.endpoint = some "/A" := by
    decide +kernel
  cases hs : parse {} (emit {} escaped) with
  | error err => simp [hs, Except.toOption] at hagain
  | ok s =>
    have he : s.endpoint = "/A" := by simpa [hs, Except.toOption] using hagain
    exact ⟨s, hp, rfl, rfl, by simp [he, hend]⟩

end Command

end CurlScribe
