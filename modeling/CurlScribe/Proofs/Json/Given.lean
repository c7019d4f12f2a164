import CurlScribe.Proofs.Json.Restore

/-! What a payload gives for the fields of a record, told from the payload alone, and that reading
the record finds the same. -/
namespace CurlScribe.Json

variable {α β σ τ : Type}

/-- A payload gives the fields of a record by their names, or else by their places. -/
def labelled (names : List String) : Json → List (String × Json)
  | obj fields => fields
  | arr items => names.zip items
  | _ => []

/-- The last value of a name. -/
def last? (es : List (String × Json)) (name : String) : Option Json := es.reverse.lookup name

/-- Null says nothing. -/
def spoken? : Json → Option Json
  | null => none
  | v => some v

def given? (es : List (String × Json)) (name : String) : Option Json :=
  (last? es name).bind spoken?

/-- What is given under a name, as a value of some kind. -/
def supplied (c : Codec α) (es : List (String × Json)) (name : String) : Option α :=
  (given? es name).bind fun v => (c.read v).toOption

theorem last_cons (key : String) (v : Json) (es : List (String × Json)) (name : String) :
    last? ((key, v) :: es) name = (last? es name).or (if name = key then some v else none) := by
  rw [last?, last?, List.reverse_cons, List.lookup_append, List.lookup_cons]
  by_cases h : name = key
  · simp [h]
  · simp [h, beq_false_of_ne h]

theorem exists_of_map {ε : Type} {x : Except ε α} {f : α → β} {b : β} (h : x.map f = .ok b) :
    ∃ a, x = .ok a ∧ f a = b := by
  cases x with
  | error e => simp [Except.map] at h
  | ok a => exact ⟨a, rfl, Except.ok.inj h⟩

theorem Codec.spoken_of_nullable {c : Codec α} {v : Json} {o : Option α}
    (h : c.nullable.read v = .ok o) : (spoken? v).map c.read = o.map Except.ok := by
  cases v with
  | null =>
    obtain rfl := Except.ok.inj h
    rfl
  | _ =>
    obtain ⟨a, ha, rfl⟩ := exists_of_map h
    simp [spoken?, ha]

namespace Field

variable {view : σ → β} {c : Codec α} {name : String}

/-- Reading the field changes nothing in the view. -/
def Keeps (f : Field σ) (view : σ → β) : Prop := ∀ v s t, f.read v s = .ok t → view t = view s

/-- Reading the field gives it the value that is read, or none for null. -/
def Gives (f : Field σ) (c : Codec α) (get : σ → Option α) : Prop :=
  ∀ v s t, f.read v s = .ok t → c.nullable.read v = .ok (get t)

theorem keeps_always {get : σ → α} {set : α → σ → σ} (h : ∀ a s, view (set a s) = view s) :
    (always name c get set).Keeps view := by
  intro v s t hr
  obtain ⟨a, -, rfl⟩ := exists_of_map hr
  exact h a s

theorem keeps_optional {get : σ → Option α} {set : Option α → σ → σ}
    (h : ∀ o s, view (set o s) = view s) : (optional name c get set).Keeps view := by
  intro v s t hr
  obtain ⟨o, -, rfl⟩ := exists_of_map hr
  exact h o s

theorem gives_always {get : σ → Option α} {set : Option α → σ → σ}
    (h : ∀ o s, get (set o s) = o) : (always name c.nullable get set).Gives c get := by
  intro v s t hr
  obtain ⟨o, hv, rfl⟩ := exists_of_map hr
  rw [h, hv]

theorem gives_optional {get : σ → Option α} {set : Option α → σ → σ}
    (h : ∀ o s, get (set o s) = o) : (optional name c get set).Gives c get := by
  intro v s t hr
  obtain ⟨o, hv, rfl⟩ := exists_of_map hr
  rw [h, hv]

/-- Reading the field leaves a property of the whole as it is. -/
def Preserves (f : Field σ) (P : σ → Prop) : Prop := ∀ v s t, f.read v s = .ok t → P s → P t

theorem Keeps.preserves {f : Field σ} (h : f.Keeps view) (P : β → Prop) :
    f.Preserves fun s => P (view s) := by
  intro v s t hr hs
  rw [h v s t hr]
  exact hs

/-- The field does to the view what another field does to the whole. -/
def Mirrors (g : Field β) (f : Field σ) (view : σ → β) : Prop :=
  ∀ v s t, f.read v s = .ok t → g.read v (view s) = .ok (view t)

theorem mirrors_optional {getσ : σ → Option α} {setσ : Option α → σ → σ}
    {getβ : β → Option α} {setβ : Option α → β → β}
    (h : ∀ o s, view (setσ o s) = setβ o (view s)) :
    (optional name c getβ setβ).Mirrors (always name c.nullable getσ setσ) view := by
  intro v s t hr
  obtain ⟨o, hv, rfl⟩ := exists_of_map hr
  simp [optional, hv, Except.map, h]

end Field

namespace Record

variable {d : Record σ} {es : List (String × Json)} {s t : σ} {f : Field σ} {name : String}

def names (d : Record σ) : List String := d.fields.map Field.name

/-- Entries that are read one after the other. What no field has the name of is passed over, and
anything else is read into its field. -/
inductive Reading (d : Record σ) : σ → List (String × Json) → σ → Prop where
  | nil (s : σ) : Reading d s [] s
  | skip {s t : σ} {key : String} {v : Json} {rest : List (String × Json)}
      (hnone : d.fields.find? (fun g => g.name == key) = none) (hrest : Reading d s rest t) :
      Reading d s ((key, v) :: rest) t
  | field {s u t : σ} {f : Field σ} {v : Json} {rest : List (String × Json)}
      (hf : d.fields.find? (fun g => g.name == f.name) = some f) (hv : f.read v s = .ok u)
      (hrest : Reading d u rest t) : Reading d s ((f.name, v) :: rest) t

theorem reading_of_readFields (h : d.readFields s es = .ok t) : d.Reading s es t := by
  induction es generalizing s with
  | nil =>
    obtain rfl := Except.ok.inj h
    exact .nil s
  | cons e rest ih =>
    obtain ⟨key, v⟩ := e
    rw [readFields] at h
    split at h
    · rename_i hnone
      exact .skip hnone (ih h)
    · rename_i f hf
      split at h
      · simp at h
      · rename_i u hu
        obtain rfl : f.name = key := by simpa using List.find?_some hf
        exact .field hf hu (ih h)

/-- The last value of a name is the one that is read. -/
theorem readFields_last {c : Codec α} {get : σ → Option α}
    (hf : d.fields.find? (fun g => g.name == name) = some f) (hgive : f.Gives c get)
    (hkeep : ∀ g ∈ d.fields, g.name = name ∨ g.Keeps get) (h : d.readFields s es = .ok t) :
    match last? es name with
    | none => get t = get s
    | some v => c.nullable.read v = .ok (get t) := by
  have hreading := reading_of_readFields h
  clear h
  induction hreading with
  | nil s => rfl
  | @skip s t key v rest hnone _ ih =>
    have hne : name ≠ key := by
      rintro rfl
      simp [hf] at hnone
    rw [last_cons, if_neg hne, Option.or_none]
    exact ih
  | @field s u t g v rest hg hu _ ih =>
    rw [last_cons]
    by_cases hk : name = g.name
    · obtain rfl : f = g := by simpa [hk, hg, eq_comm] using hf
      rw [if_pos hk]
      cases hl : last? rest name with
      | none =>
        rw [hl] at ih
        simpa [ih] using hgive v s u hu
      | some w =>
        rw [hl] at ih
        exact ih
    · have hstay : get u = get s :=
        ((hkeep g (List.mem_of_find?_eq_some hg)).resolve_left (Ne.symm hk)) v s u hu
      rw [if_neg hk, Option.or_none, ← hstay]
      exact ih

/-- A field that starts absent holds what is given under its name, and what is given is legible. -/
theorem map_given {c : Codec α} {get : σ → Option α}
    (hf : d.fields.find? (fun g => g.name == name) = some f) (hgive : f.Gives c get)
    (hkeep : ∀ g ∈ d.fields, g.name = name ∨ g.Keeps get) (hs : get s = none)
    (h : d.readFields s es = .ok t) : (given? es name).map c.read = (get t).map Except.ok := by
  have hlast := readFields_last hf hgive hkeep h
  rw [given?]
  cases hl : last? es name with
  | none =>
    rw [hl] at hlast
    simp [hlast.trans hs]
  | some v =>
    rw [hl] at hlast
    exact Codec.spoken_of_nullable hlast

theorem get_eq_supplied {c : Codec α} {get : σ → Option α}
    (hf : d.fields.find? (fun g => g.name == name) = some f) (hgive : f.Gives c get)
    (hkeep : ∀ g ∈ d.fields, g.name = name ∨ g.Keeps get) (hs : get s = none)
    (h : d.readFields s es = .ok t) : get t = supplied c es name := by
  have hmap := map_given hf hgive hkeep hs h
  rw [supplied]
  cases hg : given? es name with
  | none => simpa [hg, eq_comm] using hmap
  | some v =>
    obtain ⟨a, ha, hv⟩ : ∃ a, get t = some a ∧ c.read v = .ok a := by
      simpa [hg, eq_comm, Option.map_eq_some_iff] using hmap
    simp [ha, hv, Except.toOption]

/-- A record reads the view of another one, whose fields of the same names act on the view alike
and whose other fields leave it as it is. -/
theorem readFields_view {e : Record β} {view : σ → β}
    (hact : ∀ f ∈ d.fields, match e.fields.find? fun g => g.name == f.name with
      | none => f.Keeps view
      | some g => g.Mirrors f view)
    (hmem : ∀ g ∈ e.fields, ∃ f ∈ d.fields, f.name = g.name)
    (h : d.readFields s es = .ok t) : e.readFields (view s) es = .ok (view t) := by
  have hreading := reading_of_readFields h
  clear h
  induction hreading with
  | nil s => rfl
  | @skip s t key v rest hnone _ ih =>
    have hne : e.fields.find? (fun g => g.name == key) = none := by
      refine List.find?_eq_none.mpr fun g hg => ?_
      obtain ⟨f, hf, hname⟩ := hmem g hg
      rw [← hname]
      exact List.find?_eq_none.mp hnone f hf
    rw [readFields, hne]
    exact ih
  | @field s u t f v rest hf hu _ ih =>
    have hf' := hact f (List.mem_of_find?_eq_some hf)
    rw [readFields]
    cases hg : e.fields.find? fun g => g.name == f.name with
    | none =>
      simp only [hg] at hf'
      rw [← hf' v s u hu]
      exact ih
    | some g =>
      simp only [hg] at hf'
      simp only [hf' v s u hu]
      exact ih

/-- Fields that are read by their places are read as if they were named. -/
theorem readFields_zip (hn : d.names.Nodup) {fs : List (Field σ)} (hfs : ∀ f ∈ fs, f ∈ d.fields)
    {items : List Json} (h : readItems s fs items = .ok t) :
    d.readFields s ((fs.map Field.name).zip items) = .ok t := by
  induction fs generalizing s items with
  | nil =>
    cases items with
    | nil => exact h
    | cons v rest => simp [readItems] at h
  | cons f fs ih =>
    cases items with
    | nil => exact h
    | cons v rest =>
      rw [readItems] at h
      split at h
      · simp at h
      · rename_i u hu
        rw [List.map_cons, List.zip_cons_cons, readFields, Named.find_of_nodup hn (hfs f (by simp))]
        simp only [hu]
        exact ih (fun g hg => hfs g (by simp [hg])) h

/-- However a record is given, its fields are read as if they were named. -/
theorem readFields_labelled (hn : d.names.Nodup) {v : Json} (h : d.codec.read v = .ok t) :
    d.readFields d.start (v.labelled d.names) = .ok t := by
  cases v with
  | obj fields => exact h
  | arr items => exact readFields_zip hn (fun f hf => hf) h
  | _ => simp [codec] at h

theorem readFields_preserves {P : σ → Prop} (hf : ∀ f ∈ d.fields, f.Preserves P) (hs : P s)
    (h : d.readFields s es = .ok t) : P t := by
  have hreading := reading_of_readFields h
  clear h
  induction hreading with
  | nil s => exact hs
  | skip _ _ ih => exact ih hs
  | field hfound hv _ ih => exact ih (hf _ (List.mem_of_find?_eq_some hfound) _ _ _ hv hs)

/-- What holds at the start and is preserved by each field holds of all that is read. -/
theorem read_preserves {P : σ → Prop} (hn : d.names.Nodup) (hf : ∀ f ∈ d.fields, f.Preserves P)
    (hs : P d.start) {v : Json} (h : d.codec.read v = .ok t) : P t :=
  readFields_preserves hf hs (readFields_labelled hn h)

end Record

end CurlScribe.Json
