import CurlScribe.Proofs.Command.Meaning
import CurlScribe.Proofs.Number.PlainText
import CurlScribe.Proofs.Request.ParamList
import CurlScribe.Request.Normalize

/-! Requests whose parts are all written in a way that reads back. -/
namespace CurlScribe

namespace Param

/-- A header with a name, where nothing is lost at the colon or at the margins. -/
structure IsHeader (p : Param) : Prop where
  enabled : p.enabled = true
  named : p.key ≠ ""
  key : Text.IsTrim p.key.toList
  noColon : ':' ∉ p.key.toList
  value : Text.IsTrim p.value.toList

/-- A cookie that is cut at its own `=` and at no semicolon. -/
structure IsCookie (p : Param) : Prop where
  enabled : p.enabled = true
  key : Text.IsTrim p.key.toList
  noEquals : '=' ∉ p.key.toList
  noSemicolon : ';' ∉ p.key.toList ∧ ';' ∉ p.value.toList
  value : Text.IsTrim p.value.toList

/-- A form field that is cut at its own `=`. -/
structure IsField (p : Param) : Prop where
  enabled : p.enabled = true
  key : Text.IsTrim p.key.toList
  noEquals : '=' ∉ p.key.toList

end Param

namespace Auth

/-- Credentials that are switched on and say something; a colon ends the name of a user. -/
def IsGiven (a : Auth) : Prop :=
  a.enabled = true ∧
    match a.scheme with
    | .none => False
    | .basic username _ => ':' ∉ username.toList
    | .bearer _ => True

end Auth

namespace Network

/-- Settings that options of their own are written for. -/
structure IsWritable (n : Network) : Prop where
  given : n.isEmpty = false
  noTimeout : n.timeout = none
  finite : ∀ x, n.connectTimeout = some x ∨ n.maxTime = some x ∨ n.retryDelay = some x ∨
    n.retryMaxTime = some x → x.isFinite = true

end Network

namespace Tls

/-- Files by their names, and a version that is known. -/
structure IsWritable (t : Tls) : Prop where
  given : t.isEmpty = false
  spoken : ∀ s, t.cert = some s ∨ t.key = some s ∨ t.caCert = some s ∨ t.caPath = some s →
    Text.blank s = false
  version : ∀ v, t.version = some v → v ∈ TlsVersion.all.map Prod.snd

end Tls

namespace Command

/-- Everything about a request but its address and its method reads back from its command. -/
structure Writable (policy : Repeated) (r : Request) : Prop where
  headers : ∀ p ∈ r.headers.entries, p.IsHeader
  headersDistinct : policy = .keepAll ∨ r.headers.Distinct
  cookies : ∀ p ∈ r.cookies.entries, p.IsCookie
  cookiesDistinct : r.cookies.Distinct
  fields : ∀ p ∈ r.formData.entries, p.IsField
  fieldsDistinct : r.formData.Distinct
  auth : ∀ a, r.auth = some a → a.IsGiven
  flags : ∀ e ∈ r.flags.entries, e.2 = true ∧ e.1 ∈ Switch.all.map Switch.flag
  body : ∀ b, r.body = some b → b.isBlank = false ∧ b = .ofText b.raw
  bodyless : r.flag "get" = true → r.body = none
  spoken : ∀ s, r.proxy = some s ∨ r.userAgent = some s ∨ r.referer = some s →
    Text.blank s = false
  network : ∀ n, r.network = some n → n.IsWritable
  tls : ∀ t, r.tls = some t → t.IsWritable

/-! Values cut where they were joined. -/

theorem cutAt_append {c : Char} {before : List Char} (h : c ∉ before) (after : List Char) :
    cutAt? c (before ++ c :: after) = some (before, after) := by
  have hne : ∀ d ∈ before, (d != c) = true := by
    intro d hd
    simp only [bne_iff_ne, ne_eq]
    rintro rfl
    exact h hd
  simp [cutAt?, List.dropWhile_append_of_pos hne, List.takeWhile_append_of_pos hne]

theorem trim_blank {cs : List Char} (h : Text.IsTrim cs) : Text.trim (' ' :: cs) = cs := by
  rw [Text.trim_cons (by decide)]
  exact h

theorem readUser_append {username : List Char} (h : ':' ∉ username) (password : List Char) :
    readUser (username ++ ':' :: password) =
      .basic (String.ofList username) (String.ofList password) := by
  rw [readUser, cutAt_append h]

/-- A cookie with nothing or a blank before it. -/
theorem readCookie_joined {p : Param} (hp : p.IsCookie) {lead : List Char}
    (hl : lead = [] ∨ lead = [' ']) :
    readCookie? (lead ++ (p.key ++ "=" ++ p.value).toList) = some (p.key, p.value) := by
  have hk : Text.trim (lead ++ p.key.toList) = p.key.toList := by
    rcases hl with rfl | rfl
    · exact hp.key
    · exact trim_blank hp.key
  have hv : Text.trim p.value.toList = p.value.toList := hp.value
  have hn : '=' ∉ lead ++ p.key.toList := by
    rcases hl with rfl | rfl
    · exact hp.noEquals
    · simpa using hp.noEquals
  have ht : lead ++ (p.key ++ "=" ++ p.value).toList =
      lead ++ p.key.toList ++ '=' :: p.value.toList := by simp
  simp only [readCookie?, ht, cutAt_append hn, hk, hv, String.ofList_toList]

theorem readCookies_cons {part : List Char} (h : ';' ∉ part) (rest : List Char) :
    readCookies (part ++ ';' :: rest) = (readCookie? part).toList ++ readCookies rest := by
  rw [readCookies, List.splitOn_append_cons_self_of_not_mem h, readCookies]
  cases hc : readCookie? part <;> simp [hc]

theorem readCookies_single {part : List Char} (h : ';' ∉ part) :
    readCookies part = (readCookie? part).toList := by
  rw [readCookies, List.splitOn_eq_singleton h]
  cases hc : readCookie? part <;> simp [hc]

/-- Cookies joined into one value come apart again. -/
theorem readCookies_joined {ps : List Param} (hne : ps ≠ []) (hp : ∀ p ∈ ps, p.IsCookie)
    (lead : List Char) (hl : lead = [] ∨ lead = [' ']) :
    readCookies (lead ++ ("; ".intercalate (ps.map fun p => p.key ++ "=" ++ p.value)).toList) =
      ps.map fun p => (p.key, p.value) := by
  induction ps generalizing lead with
  | nil => exact (hne rfl).elim
  | cons p ps ih =>
    have hc := hp p (by simp)
    have hread := readCookie_joined hc hl
    have hsemi : ';' ∉ lead ++ (p.key ++ "=" ++ p.value).toList := by
      rcases hl with rfl | rfl <;> simp [hc.noSemicolon]
    cases ps with
    | nil =>
      rw [List.map_singleton, String.intercalate_singleton, readCookies_single hsemi, hread]
      rfl
    | cons q ps =>
      have ih := ih (by simp) (fun q hq => hp q (by simp [hq])) [' '] (.inr rfl)
      have ht : lead ++ ("; ".intercalate ((p :: q :: ps).map fun p =>
          p.key ++ "=" ++ p.value)).toList = (lead ++ (p.key ++ "=" ++ p.value).toList) ++
            ';' :: ([' '] ++ ("; ".intercalate ((q :: ps).map fun p =>
              p.key ++ "=" ++ p.value)).toList) := by
        simp [String.intercalate_cons_cons]
      rw [ht, readCookies_cons hsemi, hread, ih]
      rfl

end Command

end CurlScribe
