import CurlScribe.Json.Record
import CurlScribe.Text.Blank

/-! Settings of the connection: times, retries and redirects, and the files and version of TLS. -/
namespace CurlScribe

/-- Times are in seconds. -/
structure Network where
  timeout : Option Binary64 := none
  connectTimeout : Option Binary64 := none
  maxTime : Option Binary64 := none
  retry : Option UInt32 := none
  retryDelay : Option Binary64 := none
  retryMaxTime : Option Binary64 := none
  maxRedirects : Option Int32 := none
deriving DecidableEq

structure Tls where
  cert : Option String := none
  key : Option String := none
  caCert : Option String := none
  caPath : Option String := none
  version : Option String := none
deriving DecidableEq

namespace Network

def isEmpty (n : Network) : Bool := n == {}

/-- Fields of `flat` come before those of `grouped`. -/
def merge (flat grouped : Network) : Network where
  timeout := flat.timeout.or grouped.timeout
  connectTimeout := flat.connectTimeout.or grouped.connectTimeout
  maxTime := flat.maxTime.or grouped.maxTime
  retry := flat.retry.or grouped.retry
  retryDelay := flat.retryDelay.or grouped.retryDelay
  retryMaxTime := flat.retryMaxTime.or grouped.retryMaxTime
  maxRedirects := flat.maxRedirects.or grouped.maxRedirects

def sameReal (a b : Option Binary64) : Bool :=
  match a, b with
  | some x, some y => x.sameValue y
  | none, none => true
  | _, _ => false

/-- Same settings, the times compared as numbers. -/
def same (a b : Network) : Bool :=
  sameReal a.timeout b.timeout && sameReal a.connectTimeout b.connectTimeout &&
    sameReal a.maxTime b.maxTime && a.retry == b.retry && sameReal a.retryDelay b.retryDelay &&
    sameReal a.retryMaxTime b.retryMaxTime && a.maxRedirects == b.maxRedirects

/-- The fields, over any record that holds network settings. -/
def fieldsIn {σ : Type} (inner : {α : Type} → String → Json.Codec α → (Network → Option α) →
    (Option α → Network → Network) → Json.Field σ) : List (Json.Field σ) := [
  inner "timeout" .real timeout fun a n => { n with timeout := a },
  inner "connectTimeout" .real connectTimeout fun a n => { n with connectTimeout := a },
  inner "maxTime" .real maxTime fun a n => { n with maxTime := a },
  inner "retry" .count32 retry fun a n => { n with retry := a },
  inner "retryDelay" .real retryDelay fun a n => { n with retryDelay := a },
  inner "retryMaxTime" .real retryMaxTime fun a n => { n with retryMaxTime := a },
  inner "maxRedirects" .integer32 maxRedirects fun a n => { n with maxRedirects := a }]

def record : Json.Record Network where
  start := {}
  fields := fieldsIn fun name c get set => .optional name c get set

end Network

namespace Tls

def isEmpty (t : Tls) : Bool := t == {}

/-- Fields of `flat` come before those of `grouped`; blank ones count as missing. -/
def merge (flat grouped : Tls) : Tls where
  cert := (Text.nonBlank flat.cert).or (Text.nonBlank grouped.cert)
  key := (Text.nonBlank flat.key).or (Text.nonBlank grouped.key)
  caCert := (Text.nonBlank flat.caCert).or (Text.nonBlank grouped.caCert)
  caPath := (Text.nonBlank flat.caPath).or (Text.nonBlank grouped.caPath)
  version := (Text.nonBlank flat.version).or (Text.nonBlank grouped.version)

/-- The fields, over any record that holds TLS settings. -/
def fieldsIn {σ : Type} (inner : String → (Tls → Option String) → (Option String → Tls → Tls) →
    Json.Field σ) : List (Json.Field σ) := [
  inner "cert" cert fun a t => { t with cert := a },
  inner "key" key fun a t => { t with key := a },
  inner "caCert" caCert fun a t => { t with caCert := a },
  inner "caPath" caPath fun a t => { t with caPath := a },
  inner "sslVersion" version fun a t => { t with version := a }]

def record : Json.Record Tls where
  start := {}
  fields := fieldsIn fun name get set => .optional name .text get set

end Tls

end CurlScribe
