import CurlScribe.Json.Record

/-! Records that are read back from their written fields, also as records of another kind. -/
namespace CurlScribe.Json

variable {α β σ τ : Type}

namespace Codec

variable {c : Codec α} {a : α}

/-- What is written is something, and reads back as it was. -/
def ReadsBack (c : Codec α) (a : α) : Prop := c.write a ≠ null ∧ c.read (c.write a) = .ok a

theorem ReadsBack.nullable (h : c.ReadsBack a) : c.nullable.read (c.write a) = .ok (some a) := by
  obtain ⟨hne, hr⟩ := h
  cases hw : c.write a with
  | null => exact (hne hw).elim
  | _ => simp [Codec.nullable, ← hw, hr, Except.map]

theorem readsBack_text (s : String) : text.ReadsBack s := ⟨nofun, rfl⟩

theorem readsBack_switch (b : Bool) : switch.ReadsBack b := ⟨nofun, rfl⟩

theorem readsBack_real {x : Binary64} (h : x.isFinite = true) : real.ReadsBack x := by
  have hw : real.write x = num (.real x h) := by simp [real, ofBinary64, Number.ofReal?, h]
  rw [ReadsBack, hw]
  exact ⟨nofun, rfl⟩

theorem readsBack_count32 (n : UInt32) : count32.ReadsBack n := by
  have := n.toNat_lt
  refine ⟨nofun, ?_⟩
  simp only [count32]
  rw [if_pos (by omega)]
  simp

theorem readsBack_count64 (n : UInt64) : count64.ReadsBack n := by
  refine ⟨nofun, ?_⟩
  simp only [count64, Number.ofUInt64]
  rw [if_pos (by omega)]
  simp

theorem readsBack_integer32 (n : Int32) : integer32.ReadsBack n := by
  have := n.toInt_lt
  have := n.le_toInt
  refine ⟨nofun, ?_⟩
  simp only [integer32]
  rw [if_pos (by omega)]
  simp

theorem readList_write {as : List α} (h : ∀ a ∈ as, c.ReadsBack a) :
    readList c.read (as.map c.write) = .ok as := by
  induction as with
  | nil => rfl
  | cons a as ih =>
    have ha := (h a (by simp)).2
    have has := ih fun b hb => h b (by simp [hb])
    simp [readList, ha, has]

theorem readsBack_list {as : List α} (h : ∀ a ∈ as, c.ReadsBack a) : (list c).ReadsBack as :=
  ⟨nofun, readList_write h⟩

/-- What comes back of a value that is written, and then read where null stands for absence. -/
def Echoes (c : Codec α) (echo : α → Option α) : Prop :=
  ∀ a, c.nullable.read (c.write a) = .ok (echo a)

variable {echo : α → Option α}

theorem echoes_of_readsBack (h : ∀ a, c.ReadsBack a) : c.Echoes some := fun a => (h a).nullable

/-- A number that JSON does not have comes back absent. -/
theorem echoes_real : real.Echoes (Option.guard Binary64.isFinite) := by
  intro x
  cases h : x.isFinite with
  | true => simpa [Option.guard, h] using (readsBack_real h).nullable
  | false =>
    have hw : real.write x = null := by simp [real, ofBinary64, Number.ofReal?, h]
    rw [hw]
    simp [nullable, Option.guard, h]

/-- What is absent comes back absent. -/
theorem Echoes.nullable (h : c.Echoes echo) (o : Option α) :
    c.nullable.read (c.nullable.write o) = .ok (o.bind echo) := by
  cases o with
  | none => rfl
  | some a => exact h a

end Codec

namespace Record

variable {d : Record σ} {fs : List (Field τ)} {r : τ} {s : σ} {name : String} {c : Codec α}
  {echo : α → Option α}

/-- The fields that a record writes, in order. -/
def written (r : τ) (fs : List (Field τ)) : List (String × Json) :=
  fs.filterMap fun f => (f.write r).map fun v => (f.name, v)

/-- One record reads what another has written, field by field. -/
theorem read_write (d : Record σ) (e : Record τ) (r : τ) :
    d.codec.read (e.codec.write r) = d.readFields d.start (written r e.fields) := rfl

theorem written_cons_some {f : Field τ} {v : Json} (h : f.write r = some v) :
    written r (f :: fs) = (f.name, v) :: written r fs :=
  List.filterMap_cons_some (by simp [h])

theorem written_cons_none {f : Field τ} (h : f.write r = none) :
    written r (f :: fs) = written r fs :=
  List.filterMap_cons_none (by simp [h])

/-- A field that is always there is read by the field of its name. -/
theorem readFields_always {get : τ → α} {put : α → τ → τ} {g : Field σ} {set : α → σ → σ}
    (hg : d.fields.find? (fun g => g.name == name) = some g)
    (hread : g.read = fun v s => (c.read v).map fun a => set a s) (hr : c.ReadsBack (get r)) :
    d.readFields s (written r (.always name c get put :: fs)) =
      d.readFields (set (get r) s) (written r fs) := by
  have hw : (Field.always name c get put).write r = some (c.write (get r)) := rfl
  rw [written_cons_some hw]
  simp only [readFields, Field.always, hg, hread, hr.2, Except.map]

/-- A field that is always there is read by a field of its name that need not be. -/
theorem readFields_given {get : τ → α} {put : α → τ → τ} {g : Field σ} {set : Option α → σ → σ}
    (hg : d.fields.find? (fun g => g.name == name) = some g)
    (hread : g.read = fun v s => (c.nullable.read v).map fun a => set a s)
    (hr : c.ReadsBack (get r)) :
    d.readFields s (written r (.always name c get put :: fs)) =
      d.readFields (set (some (get r)) s) (written r fs) := by
  have hw : (Field.always name c get put).write r = some (c.write (get r)) := rfl
  rw [written_cons_some hw]
  simp only [readFields, Field.always, hg, hread, hr.nullable, Except.map]

/-- A field that is null where its value is absent is read by the field of its name. -/
theorem readFields_nullable (hc : c.Echoes echo) {get : τ → Option α} {put : Option α → τ → τ}
    {g : Field σ} {set : Option α → σ → σ}
    (hg : d.fields.find? (fun g => g.name == name) = some g)
    (hread : g.read = fun v s => (c.nullable.read v).map fun a => set a s) :
    d.readFields s (written r (.always name c.nullable get put :: fs)) =
      d.readFields (set ((get r).bind echo) s) (written r fs) := by
  have hw : (Field.always name c.nullable get put).write r = some (c.nullable.write (get r)) := rfl
  rw [written_cons_some hw]
  simp only [readFields, Field.always, hg, hread, hc.nullable, Except.map]

/-- A field that may be left out is read by the field of its name, where absence changes
nothing. -/
theorem readFields_optional (hc : c.Echoes echo) {get : τ → Option α} {put : Option α → τ → τ}
    {g : Field σ} {set : Option α → σ → σ}
    (hg : d.fields.find? (fun g => g.name == name) = some g)
    (hread : g.read = fun v s => (c.nullable.read v).map fun a => set a s) (hs : set none s = s) :
    d.readFields s (written r (.optional name c get put :: fs)) =
      d.readFields (set ((get r).bind echo) s) (written r fs) := by
  cases ha : get r with
  | none =>
    rw [written_cons_none (by simp [Field.optional, ha]), Option.bind_none, hs]
  | some a =>
    have hw : (Field.optional name c get put).write r = some (c.write a) := by
      simp [Field.optional, ha]
    rw [written_cons_some hw]
    simp only [readFields, Field.optional, hg, hread, hc a, Except.map, Option.bind_some]

@[simp] theorem readFields_written_nil : d.readFields s (written r []) = .ok s := rfl

end Record

end CurlScribe.Json
