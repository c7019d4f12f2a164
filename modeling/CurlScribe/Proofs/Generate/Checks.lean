import CurlScribe.Command.Parse
import CurlScribe.Generate.Basic
import CurlScribe.Proofs.Generate.Target
import CurlScribe.Proofs.Request.Again

/-! No code is generated exactly where a check fails. -/
namespace CurlScribe

namespace Maven

/-- A build file is written where nothing is missing. -/
theorem exists_pom {c : PomConfig} (h : c.missing = []) : ∃ xml, pom c = .ok xml := by
  rw [pom, h]
  exact ⟨_, rfl⟩

end Maven

namespace Command

/-- Requests that were made from a command line are normal. -/
theorem isNormal_of_parse {options : CommandOptions} {command : String} {r : Request}
    (h : parse options command = .ok r) : r.IsNormal := by
  rw [parse] at h
  split at h
  · simp at h
  · split at h
    · simp at h
    · exact Draft.isNormal_of_normalize h

end Command

namespace Generate

variable {c : Config} {e : GenerateError} {r : Request} {t : Target}

theorem missing_of_checkPom (h : checkPom c = .ok ()) (hpom : c.generatePom = true) :
    c.pomConfig.missing = [] := by
  rw [checkPom] at h
  simp only [hpom, Bool.not_true, Bool.false_eq_true, if_false] at h
  split at h
  · assumption
  · simp at h

/-- The checks pass where each of them does. -/
theorem validate_eq_ok_iff : validate r c = .ok () ↔
    c.validate = .ok () ∧ checkNames c = .ok () ∧ checkPom c = .ok () ∧
      ∃ t, Target.ofRequest? r = some t := by
  unfold validate
  cases c.validate with
  | error e => simp
  | ok =>
    cases checkNames c with
    | error e => simp
    | ok =>
      cases checkPom c with
      | error e => simp
      | ok => cases Target.ofRequest? r <;> simp

/-- Names and coordinates are checked without a look at the address. -/
theorem checkNames_ne_noAddress : checkNames c ≠ .error .noAddress := by
  rw [checkNames]
  split
  · simp
  · split
    · simp
    · split <;> simp

theorem checkPom_ne_noAddress : checkPom c ≠ .error .noAddress := by
  rw [checkPom]
  split
  · simp
  · split <;> simp

/-- An address is missed only where there is no target. -/
theorem target_of_noAddress (h : validate r c = .error .noAddress) :
    Target.ofRequest? r = none := by
  unfold validate at h
  cases hc : c.validate with
  | error e => simp [hc] at h
  | ok =>
    cases hnames : checkNames c with
    | error e =>
      obtain rfl : e = .noAddress := by simpa [hc, hnames] using h
      exact (checkNames_ne_noAddress hnames).elim
    | ok =>
      cases hpom : checkPom c with
      | error e =>
        obtain rfl : e = .noAddress := by simpa [hc, hnames, hpom] using h
        exact (checkPom_ne_noAddress hpom).elim
      | ok =>
        cases ht : Target.ofRequest? r with
        | none => rfl
        | some t => simp [hc, hnames, hpom, ht] at h

theorem code_of_invalid (h : validate r c = .error e) : code r c = .error e := by
  rw [code, h]
  rfl

/-- Code is generated where the checks pass: none of the later failures can come up. -/
theorem exists_code (h : validate r c = .ok ()) : ∃ g, code r c = .ok g := by
  obtain ⟨hconfig, -, hcheck, t, ht⟩ := validate_eq_ok_iff.mp h
  obtain ⟨⟨n, hn⟩, -⟩ := Config.validate_ok_iff.mp hconfig
  rw [code, h, ht, hn]
  cases hpom : c.generatePom with
  | false => exact ⟨_, rfl⟩
  | true =>
    obtain ⟨xml, hxml⟩ := Maven.exists_pom (missing_of_checkPom hcheck hpom)
    refine ⟨⟨Test.source r c t n, pojo? r c, some xml⟩, ?_⟩
    simp only [hxml]
    rfl

/-- Generated code passes the checks, and its parts are those of the target and the body. -/
theorem parts_of_code {g : GeneratedCode} (h : code r c = .ok g) :
    c.validate = .ok () ∧ checkNames c = .ok () ∧
      ∃ t status, g.test = Test.source r c t status ∧ g.pojo = pojo? r c := by
  have hvalid : validate r c = .ok () := by
    cases hv : validate r c with
    | ok => rfl
    | error e =>
      rw [code_of_invalid hv] at h
      cases h
  obtain ⟨hconfig, hnames, hpom, t, ht⟩ := validate_eq_ok_iff.mp hvalid
  obtain ⟨⟨status, hstatus⟩, -⟩ := Config.validate_ok_iff.mp hconfig
  refine ⟨hconfig, hnames, t, status, ?_⟩
  rw [code, hvalid, ht, hstatus] at h
  cases hgen : c.generatePom with
  | false =>
    rw [hgen] at h
    cases h
    exact ⟨rfl, rfl⟩
  | true =>
    obtain ⟨xml, hxml⟩ := Maven.exists_pom (missing_of_checkPom hpom hgen)
    rw [hgen, hxml] at h
    cases h
    exact ⟨rfl, rfl⟩

theorem code_eq_error_iff : code r c = .error e ↔ validate r c = .error e := by
  constructor
  · intro hcode
    cases hv : validate r c with
    | error d =>
      rw [code_of_invalid hv] at hcode
      cases hcode
      rfl
    | ok =>
      obtain ⟨g, hg⟩ := exists_code hv
      rw [hg] at hcode
      cases hcode
  · exact code_of_invalid

theorem code_ne_noAddress (h : r.IsNormal) : code r c ≠ .error .noAddress := by
  intro hcode
  have hnone : Target.ofRequest? r = none := target_of_noAddress (code_eq_error_iff.mp hcode)
  have hblank : Text.blank r.baseUrl = true := (Target.ofRequest_eq_none_iff.mp hnone).2
  simp [h.baseUrl] at hblank

/-- Generating fails exactly where a check does, and with its error. For a request that was made
from a command line or a payload, the error is never that it has no address. -/
theorem failures_come_from_checks (r : Request) (c : Config) :
    (∀ e, code r c = .error e ↔ validate r c = .error e) ∧
    ((∃ options command, Command.parse options command = .ok r) ∨
        (∃ payload, Request.ofPayload payload = .ok r) →
      code r c ≠ .error .noAddress) := by
  refine ⟨fun e => code_eq_error_iff, ?_⟩
  rintro (⟨options, command, h⟩ | ⟨payload, h⟩)
  · exact code_ne_noAddress (Command.isNormal_of_parse h)
  · exact code_ne_noAddress (Request.isNormal_of_payload h)

/-- A payload with nothing but an address. -/
def bare : Json := .obj [("url", .str "http://[::1]/")]

/-- Without names there is no class, though there is an address. -/
theorem bare_fails_for_its_names : ∃ r, Request.ofPayload bare = .ok r ∧
    code r {} = .error .missingServiceName ∧ code r {} ≠ .error .noAddress := by
  have hok : (Request.ofPayload bare).toOption.isSome = true := by cbv
  cases hr : Request.ofPayload bare with
  | error e => simp [hr, Except.toOption] at hok
  | ok r =>
    obtain ⟨hsame, haddress⟩ := failures_come_from_checks r {}
    refine ⟨r, rfl, (hsame .missingServiceName).mpr ?_, haddress (.inr ⟨bare, hr⟩)⟩
    have hstatus : Config.validate {} = .ok () := by decide +kernel
    have hnames : checkNames {} = .error .missingServiceName := by decide +kernel
    unfold validate
    rw [hstatus, hnames]

end Generate

end CurlScribe
