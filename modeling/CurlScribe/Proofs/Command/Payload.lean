import CurlScribe.Proofs.Command.Request
import CurlScribe.Proofs.Request.ReadBack

/-! A command line and the payload that its draft is written as make the same request. -/
namespace CurlScribe

namespace Draft

variable {d : Draft}

/-- Where bodies hold the values of their texts, nothing but times is lost. -/
theorem echo_eq (h : ∀ b, d.body = some b → b = .ofText b.raw) :
    d.echo = { d with
      network := d.network.tidied
      networkGroup := d.networkGroup.map Network.tidied } := by
  have hbody : (d.body.map fun b => Body.ofText b.raw) = d.body := by
    cases hb : d.body with
    | none => rfl
    | some b => rw [Option.map_some, ← h b hb]
  rw [echo, hbody]

/-- The times that are lost would not have come into the request. -/
theorem requestAt_echo (h : ∀ b, d.body = some b → b = .ofText b.raw) (u : String) :
    d.echo.requestAt u = d.requestAt u := by
  have hnetwork : d.echo.spokenNetwork = d.spokenNetwork := by
    simp only [spokenNetwork, echo, Network.tidied_tidied]
  rw [echo_eq h] at hnetwork ⊢
  simp only [requestAt, hnetwork]
  rfl

end Draft

namespace Command

variable {policy : Repeated} {d : Draft}

theorem isRead_echo (hd : IsRead policy d) : IsRead policy d.echo := by
  rw [Draft.echo_eq hd.body]
  exact { hd with
    noTimeout := by simp [Network.tidied, hd.noTimeout]
    noGroups := by simp [hd.noGroups] }

/-- What words say makes the same request, or fails in the same way, whether it is taken at once or
written as a payload first. -/
theorem payload_of_interpreted (options : CommandOptions) (words : List String) :
    Request.ofPayload (Draft.codec.write (interpret options words)) =
      (interpret options words).normalize := by
  have hd : IsRead options.repeatedHeaders (interpret options words) := isRead_interpret words
  have hurl : (interpret options words).echo.url = (interpret options words).url := rfl
  rw [Request.ofPayload, Draft.read_draft]
  dsimp only
  rw [normalize_of_isRead (isRead_echo hd), normalize_of_isRead hd, hurl]
  cases Text.nonBlank (interpret options words).url with
  | none => rfl
  | some u => exact congrArg Except.ok (Draft.requestAt_echo hd.body u)

/-- A time without end is a number on a command line, but not in JSON. -/
example : (interpret {} ["curl", "-m", "inf", "http://[::1]/"]).network.maxTime =
    some (.infinity false) := by decide +kernel

end Command

end CurlScribe
