import CurlScribe.Proofs.Json.Projection
import CurlScribe.Proofs.Json.Prune

/-! What projecting and pruning leave of a written value. A kind of value is tolerant where any such
rest still reads; a record of tolerant fields is tolerant itself. -/
namespace CurlScribe.Json

open Inclusion

variable {α σ : Type} {m : Inclusion} {path : String} {v w : Json}

/-- What is left of the value at `path`; nothing if it goes as a whole. -/
def remains (m : Inclusion) (path : String) (v : Json) : Option Json := prune? (projectAt m path v)

theorem prune_of_isLeaf (hv : v.isLeaf = true) : prune? v = if v.speaks then some v else none := by
  cases v with
  | arr _ | obj _ => exact absurd hv Bool.false_ne_true
  | null | num _ => rfl
  | bool b => cases b <;> rfl
  | str s => by_cases hs : s = "" <;> simp [prune?, speaks, hs]

theorem remains_of_isLeaf (hv : v.isLeaf = true) :
    remains m path v = if v.speaks then some v else none := by
  rw [← prune_of_isLeaf hv, remains]
  cases v with
  | arr _ | obj _ => exact absurd hv Bool.false_ne_true
  | _ => rfl

/-- Of a field that is not excluded the rest of its value is left. -/
theorem pruneFields_project (m : Inclusion) (path : String) (fields : List (String × Json)) :
    pruneFields (projectFields m path fields) = fields.filterMap fun e =>
      if m.excludes (childPath path e.1) then none
      else (remains m (childPath path e.1) e.2).map fun w => (e.1, w) := by
  induction fields with
  | nil => rfl
  | cons e rest ih =>
    rw [projectFields, List.filterMap_cons]
    cases m.excludes (childPath path e.1) with
    | true => exact ih
    | false =>
      have hrest := pruneFields_cons e.1 (projectAt m (childPath path e.1) e.2)
        (projectFields m path rest)
      rw [if_neg (by decide), if_neg (by decide), hrest, ih, remains]
      cases prune? (projectAt m (childPath path e.1) e.2) <;> rfl

/-- Of an object of leaves the fields are left that are not excluded and speak. -/
theorem pruneFields_leaves {fields : List (String × Json)}
    (h : ∀ e ∈ fields, e.2.isLeaf = true) : pruneFields (projectFields m path fields) =
      fields.filter fun e => !m.excludes (childPath path e.1) && e.2.speaks := by
  rw [pruneFields_project, ← List.filterMap_eq_filter]
  refine List.filterMap_congr fun e he => ?_
  rw [remains_of_isLeaf (h e he), Option.guard]
  cases m.excludes (childPath path e.1) <;> cases e.2.speaks <;> rfl

/-- A name that stands once is found among the fields that are kept if it is kept. -/
theorem lookup_filter {fields : List (String × Json)} (hn : (fields.map Prod.fst).Nodup)
    (p : String × Json → Bool) (key : String) :
    (fields.filter p).lookup key = (fields.lookup key).filter fun v => p (key, v) := by
  induction fields with
  | nil => rfl
  | cons e rest ih =>
    obtain ⟨k, v⟩ := e
    obtain ⟨hnew, hrest⟩ := List.nodup_cons.mp hn
    rw [List.lookup_cons]
    cases hk : key == k with
    | true =>
      obtain rfl : key = k := by simpa using hk
      have hnone : (rest.filter p).lookup key = none := by
        rw [List.lookup_eq_none_iff]
        intro f hf
        have hne : key ≠ f.1 := by
          rintro rfl
          exact hnew (List.mem_map.mpr ⟨f, (List.mem_filter.mp hf).1, rfl⟩)
        simpa using hne
      cases hp : p (key, v) <;> simp [hp, hnone, Option.filter]
    | false => cases hp : p (k, v) <;> simp [hp, hk, List.lookup_cons, ih hrest]

namespace Codec

variable {c : Codec α}

/-- Whatever is left of a written value reads as some value. -/
def IsTolerant (c : Codec α) : Prop :=
  ∀ m path a w, remains m path (c.write a) = some w → ∃ b, c.read w = .ok b

/-- Of a leaf all or nothing is left. -/
theorem isTolerant_of_isLeaf (hleaf : ∀ a, (c.write a).isLeaf = true)
    (hread : ∀ a, (c.write a).speaks = true → ∃ b, c.read (c.write a) = .ok b) :
    c.IsTolerant := by
  intro m path a w h
  rw [remains_of_isLeaf (hleaf a)] at h
  split at h
  · rename_i hs
    obtain rfl := Option.some.inj h
    exact hread a hs
  · simp at h

theorem isTolerant_text : text.IsTolerant := isTolerant_of_isLeaf (fun _ => rfl) fun s _ => ⟨s, rfl⟩

theorem isTolerant_switch : switch.IsTolerant :=
  isTolerant_of_isLeaf (fun _ => rfl) fun b _ => ⟨b, rfl⟩

theorem isTolerant_real : real.IsTolerant := by
  refine isTolerant_of_isLeaf (fun x => ?_) fun x hs => ?_
  · cases h : x.isFinite <;> simp [real, ofBinary64, Number.ofReal?, h, isLeaf]
  · cases h : x.isFinite with
    | true => exact ⟨x, by simp [real, ofBinary64, Number.ofReal?, h, Number.toBinary64]⟩
    | false => simp [real, ofBinary64, Number.ofReal?, h, speaks] at hs

/-- Values whose written form always stays are read from it as they were. -/
theorem isTolerant_of_kept (hleaf : ∀ a, (c.write a).isLeaf = true) (hc : c.Tidies some) :
    c.IsTolerant := by
  refine isTolerant_of_isLeaf hleaf fun a hs => ?_
  have hkept : prune? (c.write a) = some (c.write a) := by
    rw [prune_of_isLeaf (hleaf a), if_pos hs]
  obtain ⟨b, -, hb⟩ := hc.some hkept
  exact ⟨b, hb⟩

theorem readList_remains (h : c.IsTolerant) (index : Nat) (as : List α) :
    ∃ bs, readList c.read (pruneItems (projectItems m path index (as.map c.write))) = .ok bs := by
  induction as generalizing index with
  | nil => exact ⟨[], rfl⟩
  | cons a as ih =>
    obtain ⟨bs, hbs⟩ := ih (index + 1)
    rw [List.map_cons, projectItems]
    split
    · exact ⟨bs, hbs⟩
    · rw [pruneItems]
      split
      · rename_i w hw
        obtain ⟨b, hb⟩ := h m _ a w hw
        exact ⟨b :: bs, by simp only [readList, hb, hbs]⟩
      · exact ⟨bs, hbs⟩

theorem isTolerant_list (h : c.IsTolerant) : (list c).IsTolerant := by
  intro m path as w hw
  obtain ⟨-, rfl⟩ := prune_arr_eq_some (hw : prune? (arr (projectItems m path 0 _)) = some w)
  exact readList_remains h 0 as

end Codec

namespace Field

variable {c : Codec α} {r s : σ} {f : Field σ}

/-- The field is read from the value, whatever the record holds already. -/
def Accepts (f : Field σ) (w : Json) : Prop := ∀ s, ∃ t, f.read w s = .ok t

/-- The value has the wrong shape for the field. -/
def Refuses (f : Field σ) (w : Json) : Prop := ∀ s, f.read w s = .error .shape

/-- What is left of a field of the record at `path`. -/
def left (m : Inclusion) (path : String) (r : σ) (f : Field σ) : Option Json :=
  (f.write r).bind fun v =>
    if m.excludes (childPath path f.name) then none else remains m (childPath path f.name) v

/-- Whatever is left of the field is read. -/
def IsTolerant (f : Field σ) : Prop := ∀ m path r w, f.left m path r = some w → f.Accepts w

theorem remains_of_left (h : f.left m path r = some w) :
    m.excludes (childPath path f.name) = false ∧
      ∃ v, f.write r = some v ∧ remains m (childPath path f.name) v = some w := by
  obtain ⟨v, hv, hw⟩ := Option.bind_eq_some_iff.mp h
  cases hx : m.excludes (childPath path f.name) with
  | true => simp [hx] at hw
  | false => exact ⟨rfl, v, hv, by simpa [hx] using hw⟩

theorem accepts_always {b : α} (hb : c.read w = .ok b) (name : String) (get : σ → α)
    (set : α → σ → σ) : (always name c get set).Accepts w :=
  fun s => ⟨set b s, by simp [always, hb, Except.map]⟩

theorem accepts_optional {b : α} (hb : c.read w = .ok b) (hw : w ≠ null) (name : String)
    (get : σ → Option α) (set : Option α → σ → σ) : (optional name c get set).Accepts w := by
  intro s
  refine ⟨set (some b) s, ?_⟩
  cases w with
  | null => exact (hw rfl).elim
  | _ => simp [optional, Codec.nullable, hb, Except.map]

theorem isTolerant_always (hc : c.IsTolerant) (name : String) (get : σ → α)
    (set : α → σ → σ) : (always name c get set).IsTolerant := by
  intro m path r w h
  obtain ⟨-, v, hv, hw⟩ := remains_of_left h
  obtain rfl := Option.some.inj hv
  obtain ⟨b, hb⟩ := hc m _ _ w hw
  exact accepts_always hb name get set

theorem isTolerant_optional (hc : c.IsTolerant) (name : String) (get : σ → Option α)
    (set : Option α → σ → σ) : (optional name c get set).IsTolerant := by
  intro m path r w h
  obtain ⟨-, v, hv, hw⟩ := remains_of_left h
  obtain ⟨a, -, rfl⟩ := Option.map_eq_some_iff.mp hv
  obtain ⟨b, hb⟩ := hc m _ _ w hw
  exact accepts_optional hb (prune_ne_null hw) name get set

end Field

namespace Record

variable {d : Record σ} {r : σ} {fs : List (Field σ)}

/-- What is left of some fields of a record, under their names. -/
def left (m : Inclusion) (path : String) (r : σ) (fs : List (Field σ)) : List (String × Json) :=
  fs.filterMap fun f => (f.left m path r).map fun w => (f.name, w)

theorem pruneFields_write (d : Record σ) (m : Inclusion) (path : String) (r : σ) :
    pruneFields (projectFields m path (d.write r)) = left m path r d.fields := by
  rw [pruneFields_project, write, List.filterMap_filterMap, left]
  refine congrArg (List.filterMap · d.fields) (funext fun f => ?_)
  rw [Field.left]
  cases f.write r with
  | none => rfl
  | some v => cases hx : m.excludes (childPath path f.name) <;> simp [hx]

/-- Reading stops at the first field whose rest has the wrong shape, and succeeds where there is
none. -/
theorem readFields_left (hn : (d.fields.map Field.name).Nodup) (hfs : ∀ f ∈ fs, f ∈ d.fields)
    (h : ∀ f ∈ fs, ∀ w, f.left m path r = some w → f.Accepts w ∨ f.Refuses w) (s : σ) :
    (∃ t, d.readFields s (left m path r fs) = .ok t) ∧
        (∀ f ∈ fs, ∀ w, f.left m path r = some w → f.Accepts w) ∨
      d.readFields s (left m path r fs) = .error .shape ∧
        ∃ f ∈ fs, ∃ w, f.left m path r = some w ∧ f.Refuses w := by
  induction fs generalizing s with
  | nil => exact .inl ⟨⟨s, rfl⟩, by simp⟩
  | cons f fs ih =>
    rw [List.forall_mem_cons] at h hfs
    have ih := ih hfs.2 h.2
    simp only [List.exists_mem_cons_iff, List.forall_mem_cons]
    cases hw : f.left m path r with
    | none =>
      have hl : left m path r (f :: fs) = left m path r fs :=
        List.filterMap_cons_none (by simp [hw])
      rw [hl]
      simpa using ih s
    | some w =>
      have hl : left m path r (f :: fs) = (f.name, w) :: left m path r fs :=
        List.filterMap_cons_some (by simp [hw])
      rw [hl]
      simp only [readFields, Named.find_of_nodup hn hfs.1]
      rcases h.1 w hw with ha | hr
      · obtain ⟨t, ht⟩ := ha s
        rw [ht]
        rcases ih t with ⟨hok, hall⟩ | ⟨he, hex⟩
        · refine .inl ⟨hok, fun v hv => ?_, hall⟩
          obtain rfl := Option.some.inj hv
          exact ha
        · exact .inr ⟨he, .inr hex⟩
      · rw [hr s]
        exact .inr ⟨rfl, .inl ⟨w, rfl, hr⟩⟩

/-- A record that does without each of its fields is read from whatever is left of it. -/
theorem isTolerant_codec (hn : (d.fields.map Field.name).Nodup)
    (h : ∀ f ∈ d.fields, f.IsTolerant) : d.codec.IsTolerant := by
  intro m path r w hw
  have hprune : prune? (obj (projectFields m path (d.write r))) = some w := hw
  obtain ⟨-, rfl⟩ := prune_obj_eq_some hprune
  have hall : ∀ f ∈ d.fields, ∀ w, f.left m path r = some w → f.Accepts w :=
    fun f hf w => h f hf m path r w
  have hread : d.codec.read (obj (pruneFields (projectFields m path (d.write r)))) =
      d.readFields d.start (left m path r d.fields) := by
    rw [← pruneFields_write]
    rfl
  rw [hread]
  rcases readFields_left hn (fun _ hf => hf) (fun f hf w hw => .inl (hall f hf w hw)) d.start with
    ⟨hok, -⟩ | ⟨-, f, hf, w, hw, hr⟩
  · exact hok
  · obtain ⟨t, ht⟩ := hall f hf w hw d.start
    rw [hr d.start] at ht
    simp at ht

end Record

end CurlScribe.Json
