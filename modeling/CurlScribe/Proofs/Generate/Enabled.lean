import CurlScribe.Command.Emit
import CurlScribe.Generate.Basic

/-! What is switched off is not seen in what is written of a request. -/
namespace CurlScribe

namespace ParamList

def switchedOn (l : ParamList) : ParamList := ⟨l.enabled⟩

@[simp] theorem enabled_switchedOn (l : ParamList) : l.switchedOn.enabled = l.enabled :=
  List.filter_filter.trans (List.filter_congr fun p _ => Bool.and_self p.enabled)

end ParamList

namespace Request

/-- A request without its entries and credentials that are switched off. -/
def switchedOn (r : Request) : Request :=
  { r with
    queryParams := r.queryParams.switchedOn
    headers := r.headers.switchedOn
    formData := r.formData.switchedOn
    cookies := r.cookies.switchedOn
    auth := r.auth.filter Auth.enabled }

@[simp] theorem enabledScheme_switchedOn (r : Request) :
    r.switchedOn.enabledScheme = r.enabledScheme := by
  have hauth : (r.auth.filter Auth.enabled).filter Auth.enabled = r.auth.filter Auth.enabled := by
    simp [Option.filter_filter]
  exact congrArg (Option.map Auth.scheme) hauth

end Request

namespace Command

variable (r : Request) (e : EmitOptions)

theorem optionParts_switchedOn : optionParts e r.switchedOn = optionParts e r := by
  have hmethod : methodParts r.switchedOn = methodParts r := by
    simp only [methodParts, Request.switchedOn, ParamList.enabled_switchedOn]
    rfl
  have hheaders : headerParts r.switchedOn = headerParts r := by
    simp only [headerParts, Request.switchedOn, ParamList.enabled_switchedOn]
  have hcookies : cookieParts r.switchedOn = cookieParts r := by
    simp only [cookieParts, Request.switchedOn, ParamList.enabled_switchedOn]
  have hauth : authParts r.switchedOn = authParts r := by
    simp only [authParts, Request.enabledScheme_switchedOn]
  have hform : formParts r.switchedOn = formParts r := by
    simp only [formParts, Request.switchedOn, ParamList.enabled_switchedOn]
  rw [optionParts, hmethod, hheaders, hcookies, hauth, hform]
  rfl

theorem address_switchedOn : address r.switchedOn = address r := by
  simp only [address, Request.switchedOn, ParamList.enabled_switchedOn]

theorem texts_switchedOn : texts e r.switchedOn = texts e r := by
  rw [texts, optionParts_switchedOn, address_switchedOn]
  rfl

theorem emit_switchedOn : emit e r.switchedOn = emit e r := by
  rw [emit, separator, texts_switchedOn]
  rfl

end Command

namespace Test

variable (r : Request) (c : Config) (t : Target) (status : Nat)

theorem headerCalls_switchedOn : headerCalls r.switchedOn = headerCalls r := by
  have hown (name : String) (value : Option String) :
      ownHeader r.switchedOn name value = ownHeader r name value := by
    simp only [ownHeader, Request.switchedOn, ParamList.enabled_switchedOn]
  rw [headerCalls, hown, hown]
  simp only [Request.switchedOn, ParamList.enabled_switchedOn]
  rfl

theorem specCalls_switchedOn (locals : List (String × String)) :
    specCalls r.switchedOn locals = specCalls r locals := by
  have hauth : authCalls r.switchedOn = authCalls r := by
    rw [authCalls, Request.enabledScheme_switchedOn]
    simp only [Request.switchedOn, ParamList.enabled_switchedOn]
    rfl
  have hparameters : parameterCalls r.switchedOn locals = parameterCalls r locals := by
    simp only [parameterCalls, Request.switchedOn, ParamList.enabled_switchedOn]
  have hpayload : payloadCalls r.switchedOn = payloadCalls r := by
    simp only [payloadCalls, Request.switchedOn, ParamList.enabled_switchedOn]
    rfl
  rw [specCalls, headerCalls_switchedOn, hauth, hparameters, hpayload]
  rfl

theorem method_switchedOn : method r.switchedOn c t status = method r c t status := by
  simp only [method, specCalls_switchedOn]
  rfl

theorem source_switchedOn : source r.switchedOn c t status = source r c t status := by
  rw [source, testClass, method_switchedOn]
  rfl

end Test

namespace Generate

variable {r s : Request}

/-- The checks and the class for a body look at nothing that has a switch. -/
theorem code_switchedOn (r : Request) (c : Config) : code r.switchedOn c = code r c := by
  have hvalidate : validate r.switchedOn c = validate r c := rfl
  have htarget : Target.ofRequest? r.switchedOn = Target.ofRequest? r := rfl
  have hpojo : pojo? r.switchedOn c = pojo? r c := rfl
  simp only [code, hvalidate, htarget, hpojo, Test.source_switchedOn]

/-- Requests that differ in nothing that is switched on have the same code and the same command
line, however these are written. -/
theorem switched_off_is_unseen (h : r.switchedOn = s.switchedOn) (c : Config) (e : EmitOptions) :
    code r c = code s c ∧ Command.emit e r = Command.emit e s := by
  constructor
  · calc
      code r c = code r.switchedOn c := (code_switchedOn r c).symm
      _ = code s.switchedOn c := by rw [h]
      _ = code s c := code_switchedOn s c
  · calc
      Command.emit e r = Command.emit e r.switchedOn := (Command.emit_switchedOn r e).symm
      _ = Command.emit e s.switchedOn := by rw [h]
      _ = Command.emit e s := Command.emit_switchedOn s e

/-- A request with a header and credentials that are switched off. -/
def muted : Request where
  baseUrl := "http://[::1]"
  headers := ⟨[⟨"X-Draft", "1", false⟩, ⟨"Accept", "text/plain", true⟩]⟩
  auth := some ⟨.bearer "secret", false⟩

/-- The same request with other credentials, and with a cookie that is switched off. -/
def remuted : Request where
  baseUrl := "http://[::1]"
  headers := ⟨[⟨"Accept", "text/plain", true⟩]⟩
  cookies := ⟨[⟨"session", "", false⟩]⟩
  auth := some ⟨.basic "user" "password", false⟩

theorem muted_is_written_as_remuted :
    code muted { extent := .method } = code remuted { extent := .method } ∧
    Command.emit {} muted = Command.emit {} remuted :=
  switched_off_is_unseen rfl { extent := .method } {}

end Generate

end CurlScribe
