import CurlScribe.Proofs.Command.Parse

/-! The flags and the method of an emitted command. -/
namespace CurlScribe.Command

variable {o : CommandOptions} {e : EmitOptions} {c name : String} {r s : Request} {d : Draft}
  {policy : Repeated}

/-- Whether a flag is set on a command, though not on its request. -/
def isForced (e : EmitOptions) (name : String) : Bool :=
  (name == "verbose" && e.verbose) || (name == "insecure" && e.insecure)

theorem allOn_flags (h : Writable policy r) : r.flags.AllOn := fun f hf => (h.flags f hf).1

theorem allOn_writtenFlags (e : EmitOptions) (r : Request) : (writtenFlags e r).AllOn :=
  Flags.allOn_setAll (by simp [Flags.AllOn, Flags.empty]) _

/-- A command sets the flags of its request and those that are forced. -/
theorem isOn_writtenFlags (h : Writable policy r) (name : String) :
    (writtenFlags e r).isOn name = (r.flag name || isForced e name) := by
  have hempty : Flags.empty.isOn name = false := rfl
  rw [writtenFlags, Flags.isOn_setAll, hempty, Bool.or_false, Bool.eq_iff_iff,
    List.contains_iff_mem]
  constructor
  · intro hm
    obtain ⟨s, hs, rfl⟩ := List.mem_map.mp hm
    simpa [isWritten, isForced, Bool.or_assoc] using (List.mem_filter.mp hs).2
  · intro hon
    have hw : ∃ s ∈ Switch.all, s.flag = name := by
      rcases Bool.or_eq_true_iff.mp hon with hr | hf
      · obtain ⟨f, hf, rfl⟩ := List.mem_map.mp ((Flags.isOn_iff (allOn_flags h)).mp hr)
        exact List.mem_map.mp (h.flags f hf).2
      · have hv : name = "verbose" ∨ name = "insecure" := by
          rcases Bool.or_eq_true_iff.mp hf with hf | hf
          · exact .inl (by simp_all)
          · exact .inr (by simp_all)
        rcases hv with rfl | rfl <;> decide
    obtain ⟨s, hs, rfl⟩ := hw
    refine List.mem_map.mpr ⟨s, List.mem_filter.mpr ⟨hs, ?_⟩, rfl⟩
    simpa [isWritten, isForced, Bool.or_assoc] using hon

theorem flag_front (h : Writable policy r) (hv : name ≠ "verbose") (hi : name ≠ "insecure") :
    (front e r).flag name = r.flag name := by
  have hf : (front e r).flag name = (r.flag name || isForced e name) := isOn_writtenFlags h name
  rw [hf, isForced, beq_false_of_ne hv, beq_false_of_ne hi]
  simp

theorem spokenBody_eq (h : Writable policy r) : r.spokenBody = r.body := by
  cases hb : r.body with
  | none => simp [Request.spokenBody, hb]
  | some b => simp [Request.spokenBody, hb, Option.filter, (h.body b hb).1]

theorem draftBody_eq (h : Writable policy r) (hbody : d.body = r.body) :
    d.spokenBody = r.body := by
  rw [← spokenBody_eq h, Draft.spokenBody, Request.spokenBody, hbody]

theorem keptBody_eq (h : Writable policy r) (hbody : d.body = r.body)
    (hget : d.flag "get" = r.flag "get") : d.keptBody = r.body := by
  rw [Draft.keptBody, draftBody_eq h hbody, hget]
  split
  · exact (h.bodyless (by assumption)).symm
  · rfl

/-- A request does not have both a body and the flag that turns it into parameters. -/
theorem bodyPairs_eq (h : Writable policy r) (hbody : d.body = r.body)
    (hget : d.flag "get" = r.flag "get") : d.bodyPairs = [] := by
  rw [Draft.bodyPairs, draftBody_eq h hbody, hget]
  cases hg : r.flag "get" with
  | false => rfl
  | true => rw [h.bodyless hg]; rfl

/-- A request with method GET has nothing that implies another method where the command leaves the
method out. -/
def KeepsMethod (r : Request) : Prop :=
  r.method = .get → ¬ (r.flag "head" = true ∧
    (r.flag "get" = true ∨ (r.body = none ∧ r.formData.entries = []))) ∧
      ¬ (r.flag "get" = true ∧ r.formData.entries ≠ [])

theorem writtenMethod_of_ne (h : r.method ≠ .get) : writtenMethod r = some r.method := by
  simp [writtenMethod, h]

/-- For GET the method is named where there is a payload that does not go into the address. -/
theorem writtenMethod_of_get (h : Writable policy r) (hm : r.method = .get) :
    writtenMethod r =
      if (r.body.isSome || !r.formData.isEmpty) && !r.flag "get" then some .get else none := by
  have he : r.formData.enabled = r.formData.entries :=
    ParamList.enabled_eq fun p hp => (h.fields p hp).enabled
  simp [writtenMethod, hm, spokenBody_eq h, he, ParamList.isEmpty]

/-- The method that is read from a command is the one of its request exactly where nothing implies
another. -/
theorem method_eq_iff (h : Writable policy r) (hmethod : d.method = writtenMethod r)
    (hbody : d.body = r.body) (hform : d.formData = r.formData)
    (hhead : d.flag "head" = r.flag "head") (hget : d.flag "get" = r.flag "get") :
    d.method.getD d.impliedMethod = r.method ↔ KeepsMethod r := by
  by_cases hm : r.method = .get
  · have hless := h.bodyless
    rw [hmethod, writtenMethod_of_get h hm, Draft.impliedMethod, keptBody_eq h hbody hget, hform,
      hhead]
    have hf : r.formData.isEmpty = true ↔ r.formData.entries = [] := List.isEmpty_iff
    simp only [KeepsMethod, hm, ne_eq, ← hf]
    cases hg : r.flag "get" with
    | true =>
      rw [hless hg]
      cases r.flag "head" <;> cases r.formData.isEmpty <;> simp
    | false =>
      cases r.flag "head" <;> cases r.formData.isEmpty <;> cases r.body <;> simp
  · simp [hmethod, writtenMethod_of_ne hm, KeepsMethod, hm]

end CurlScribe.Command
