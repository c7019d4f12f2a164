import CurlScribe.Proofs.Request.Normal

/-! The method of a request whose draft names none. It follows from the flags and from what is sent,
and one combination misses the rule. -/
namespace CurlScribe.Draft

variable {d : Draft} {r : Request}

/-- There is a body that says something, or form data. -/
def hasPayload (d : Draft) : Bool := d.spokenBody.isSome || !d.formData.isEmpty

/-- The rule: HEAD by its flag, else POST for a payload that does not go into the address, else
GET. -/
def expectedMethod (d : Draft) : Method :=
  if d.flag "head" then .head
  else if !d.flag "get" && d.hasPayload then .post
  else .get

/-- Form data that the flag `get` should have sent with the address, and that is posted. -/
def postsQueriedForm (d : Draft) : Bool :=
  !d.flag "head" && d.flag "get" && !d.formData.isEmpty

/-- The flag `get` takes the body away before the method is chosen, but not the form data. -/
theorem impliedMethod_eq (d : Draft) :
    d.impliedMethod = if d.postsQueriedForm then .post else d.expectedMethod := by
  rw [impliedMethod, expectedMethod, postsQueriedForm, hasPayload, keptBody]
  cases d.flag "head" with
  | true => rfl
  | false => cases d.flag "get" <;> cases d.formData.isEmpty <;> simp

/-- Where no method is given, a request has the one of the rule, except that form data which goes
with the flag `get` is posted. -/
theorem implied_method_iff (hm : d.method = none) (h : d.normalize = .ok r) :
    (r.method = d.expectedMethod ↔ d.postsQueriedForm = false) ∧
      r.method = if d.postsQueriedForm then .post else d.expectedMethod := by
  obtain ⟨s, hs, rfl⟩ := exists_of_normalize h
  have hkept : s.tidied.method = s.method := rfl
  have hmethod : s.tidied.method = if d.postsQueriedForm then .post else d.expectedMethod := by
    rw [hkept, (assembles hs).method, hm, Option.getD_none, impliedMethod_eq]
  refine ⟨?_, hmethod⟩
  rw [hmethod]
  cases hp : d.postsQueriedForm with
  | false => simp
  | true =>
    have hget : d.expectedMethod = .get := by simp_all [postsQueriedForm, expectedMethod]
    simp [hget]

/-- A body under the flag `get`, which leaves nothing to post. -/
def searching : Draft :=
  { url := some "http://[::1]/", body := some (.ofText "q=1"), flags := Flags.empty.set "get" true }

theorem searching_gets :
    ∃ r, searching.normalize = .ok r ∧ r.method = searching.expectedMethod := by
  obtain ⟨s, hs⟩ := exists_assemble (d := searching) (by decide)
  have hn := normalize_of_assemble hs
  exact ⟨_, hn, (implied_method_iff rfl hn).1.mpr (by decide)⟩

def queriedForm : Draft :=
  { url := some "http://[::1]/", formData := ⟨[⟨"a", "1", true⟩]⟩,
    flags := Flags.empty.set "get" true }

/-- A form under the flag `get` is posted, though the rule says GET. -/
theorem queriedForm_is_posted : ∃ r, queriedForm.normalize = .ok r ∧ r.method = .post ∧
    queriedForm.expectedMethod = .get := by
  obtain ⟨s, hs⟩ := exists_assemble (d := queriedForm) (by decide)
  refine ⟨_, normalize_of_assemble hs, (assembles hs).method.trans ?_, by decide⟩
  decide

end CurlScribe.Draft
