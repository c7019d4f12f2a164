import CurlScribe.Json.Prune
import CurlScribe.Json.Record
import CurlScribe.Named

/-! Reading a record back after its empty content was dropped. -/
namespace CurlScribe.Json

variable {α σ : Type} {v w : Json}

theorem prune_ne_null (h : prune? v = some w) : w ≠ null := by
  rintro rfl
  cases v with
  | null => simp [prune?] at h
  | bool b => cases b <;> simp [prune?] at h
  | num n => simp [prune?] at h
  | str s =>
    simp only [prune?] at h
    split at h <;> simp at h
  | arr items =>
    simp only [prune?] at h
    split at h <;> simp at h
  | obj fields =>
    simp only [prune?] at h
    split at h <;> simp at h

theorem pruneItems_eq (items : List Json) : pruneItems items = items.filterMap prune? := by
  induction items with
  | nil => rfl
  | cons v rest ih => cases h : prune? v <;> simp [pruneItems, h, ih]

theorem pruneFields_cons (key : String) (v : Json) (rest : List (String × Json)) :
    pruneFields ((key, v) :: rest) =
      ((prune? v).map fun kept => (key, kept)).toList ++ pruneFields rest := by
  cases h : prune? v <;> simp [pruneFields, h]

/-- An object stays an object. -/
theorem pruned_obj (fields : List (String × Json)) :
    (obj fields).pruned = obj (pruneFields fields) := by
  simp only [pruned, prune?]
  split
  · rename_i h
    simp [h]
  · rfl

namespace Codec

variable {c : Codec α} {tidy : α → Option α}

/-- What comes back of a value that is written, pruned and read; nothing if it goes as a whole. -/
def Tidies (c : Codec α) (tidy : α → Option α) : Prop :=
  ∀ a, (prune? (c.write a)).map c.read = (tidy a).map Except.ok

theorem Tidies.none (h : c.Tidies tidy) {a : α} (hp : prune? (c.write a) = .none) :
    tidy a = .none := by
  simpa [hp, eq_comm] using h a

theorem Tidies.some (h : c.Tidies tidy) {a : α} (hp : prune? (c.write a) = .some v) :
    ∃ b, tidy a = .some b ∧ c.read v = .ok b := by
  have ha := h a
  cases ht : tidy a with
  | none => simp [hp, ht] at ha
  | some b => exact ⟨b, rfl, by simpa [hp, ht] using ha⟩

theorem tidies_text : text.Tidies (Option.guard fun s => s != "") := by
  intro s
  by_cases h : s = "" <;> simp [text, prune?, Option.guard, h]

theorem tidies_switch : switch.Tidies (Option.guard id) := by
  intro b
  cases b <;> rfl

/-- Values that never go. -/
theorem tidies_of_kept (h : ∀ a, prune? (c.write a) = .some (c.write a) ∧
    c.read (c.write a) = .ok a) : c.Tidies .some := by
  intro a
  simp [h a]

theorem tidies_count32 : count32.Tidies .some := by
  refine tidies_of_kept fun n => ⟨rfl, ?_⟩
  have := n.toNat_lt
  simp only [count32]
  rw [if_pos (by omega)]
  simp

theorem tidies_integer32 : integer32.Tidies .some := by
  refine tidies_of_kept fun n => ⟨rfl, ?_⟩
  have := n.toInt_lt
  have := n.le_toInt
  simp only [integer32]
  rw [if_pos (by omega)]
  simp

theorem tidies_real : real.Tidies (Option.guard Binary64.isFinite) := by
  intro x
  cases h : x.isFinite <;>
    simp [real, ofBinary64, Number.ofReal?, h, prune?, Number.toBinary64, Option.guard]

theorem readList_kept (h : c.Tidies tidy) (as : List α) :
    readList c.read (pruneItems (as.map c.write)) = .ok (as.filterMap tidy) := by
  induction as with
  | nil => rfl
  | cons a as ih =>
    cases hp : prune? (c.write a) with
    | none => simpa [pruneItems, hp, h.none hp] using ih
    | some v =>
      obtain ⟨b, ht, hr⟩ := h.some hp
      simp [pruneItems, hp, ht, readList, hr, ih]

theorem pruneItems_eq_nil_iff (h : c.Tidies tidy) (as : List α) :
    pruneItems (as.map c.write) = [] ↔ as.filterMap tidy = [] := by
  simp only [pruneItems_eq, List.filterMap_map, List.filterMap_eq_nil_iff]
  refine forall₂_congr fun a _ => ?_
  have ha := h a
  constructor
  · intro hp
    exact h.none hp
  · intro ht
    simpa [ht] using ha

/-- A list keeps what is left of its items, and goes with the last of them. -/
theorem tidies_list (h : c.Tidies tidy) : (list c).Tidies fun as =>
    Option.guard (fun bs => !bs.isEmpty) (as.filterMap tidy) := by
  intro as
  simp only [list, prune?]
  split
  · rename_i hp
    simp [(pruneItems_eq_nil_iff h as).mp hp, Option.guard]
  · rename_i hp
    have ht : (as.filterMap tidy).isEmpty = false :=
      List.isEmpty_eq_false_iff.mpr fun ht => hp ((pruneItems_eq_nil_iff h as).mpr ht)
    simp [ht, readList_kept h, Option.guard]

end Codec

namespace Field

variable {c : Codec α} {tidy : α → Option α} {name : String}

@[simp]
theorem name_always (get : σ → α) (set : α → σ → σ) : (always name c get set).name = name := rfl

@[simp]
theorem name_optional (get : σ → Option α) (set : Option α → σ → σ) :
    (optional name c get set).name = name := rfl

/-- What a field of one record gives to another when it is written, pruned and read. -/
def restore (r : σ) (f : Field σ) (s : σ) : Except Misfit σ :=
  match (f.write r).bind prune? with
  | none => .ok s
  | some v => f.read v s

theorem restore_always (hc : c.Tidies tidy) {get : σ → α} {set : α → σ → σ} {start : α}
    (name : String) (r : σ) {s : σ} (hs : set start s = s) :
    (always name c get set).restore r s = .ok (set ((tidy (get r)).getD start) s) := by
  simp only [restore, always, Option.bind_some]
  split
  · rename_i hp
    simp [hc.none hp, hs]
  · rename_i v hp
    obtain ⟨b, ht, hr⟩ := hc.some hp
    simp [ht, hr, Except.map]

theorem restore_optional (hc : c.Tidies tidy) {get : σ → Option α} {set : Option α → σ → σ}
    (name : String) (r : σ) {s : σ} (hs : set none s = s) :
    (optional name c get set).restore r s = .ok (set ((get r).bind tidy) s) := by
  cases hg : get r with
  | none => simp [restore, optional, hg, hs]
  | some a =>
    simp only [restore, optional, hg, Option.map_some, Option.bind_some]
    split
    · rename_i hp
      simp [hc.none hp, hs]
    · rename_i v hp
      obtain ⟨b, ht, hr⟩ := hc.some hp
      have hn := prune_ne_null hp
      cases v with
      | null => exact (hn rfl).elim
      | _ => simp [Codec.nullable, ht, hr, Except.map]

/-- An optional field goes with what is left of its value. -/
theorem bind_prune_optional (hc : c.Tidies tidy) (name : String) (get : σ → Option α)
    (set : Option α → σ → σ) (r : σ) :
    ((optional name c get set).write r).bind prune? = none ↔ (get r).bind tidy = none := by
  cases hg : get r with
  | none => simp [optional, hg]
  | some a =>
    simp only [optional, hg, Option.map_some, Option.bind_some]
    cases hp : prune? (c.write a) with
    | none => simp [hc.none hp]
    | some v =>
      obtain ⟨b, ht, -⟩ := hc.some hp
      simp [ht]

end Field

namespace Record

/-- Field after field. -/
def restore (r : σ) : List (Field σ) → σ → Except Misfit σ
  | [], s => .ok s
  | f :: fs, s => (f.restore r s).bind (restore r fs)

theorem restore_cons {r s t : σ} {f : Field σ} (h : f.restore r s = .ok t) (fs : List (Field σ)) :
    restore r (f :: fs) s = restore r fs t := by
  simp [restore, h, Except.bind]

/-- The pruned fields of one record are read into another field by field, also where some of them
were left out. -/
theorem readFields_pruned_of (d : Record σ) (hn : (d.fields.map Field.name).Nodup) (r s : σ)
    {fs : List (Field σ)} (hfs : ∀ f ∈ fs, f ∈ d.fields) :
    d.readFields s (pruneFields (fs.filterMap fun f => (f.write r).map fun v => (f.name, v))) =
      restore r fs s := by
  induction fs generalizing s with
  | nil => rfl
  | cons f fs ih =>
    have hf := Named.find_of_nodup hn (hfs f (by simp))
    have ih := fun s => ih s fun g hg => hfs g (by simp [hg])
    cases hw : f.write r with
    | none => simp [hw, restore, Field.restore, Except.bind, ih]
    | some v =>
      rw [List.filterMap_cons_some (by simp [hw]; rfl), pruneFields_cons]
      cases hp : prune? v with
      | none => simp [hw, hp, restore, Field.restore, Except.bind, ih]
      | some kept =>
        simp only [Option.map_some, Option.toList_some, List.cons_append, List.nil_append,
          readFields, hf, restore, Field.restore, hw, Option.bind_some, hp]
        cases hr : f.read kept s with
        | error e => rfl
        | ok t => exact ih t

theorem readFields_pruned (d : Record σ) (hn : (d.fields.map Field.name).Nodup) (r s : σ) :
    d.readFields s (pruneFields (d.write r)) = restore r d.fields s :=
  readFields_pruned_of d hn r s fun _ hf => hf

theorem pruneFields_eq_nil_iff (d : Record σ) (r : σ) :
    pruneFields (d.write r) = [] ↔ ∀ f ∈ d.fields, (f.write r).bind prune? = none := by
  rw [write]
  induction d.fields with
  | nil => simp [pruneFields]
  | cons f fs ih =>
    rw [List.forall_mem_cons, ← ih]
    cases hw : f.write r with
    | none => simp [hw]
    | some v =>
      rw [List.filterMap_cons_some (by simp [hw]; rfl), pruneFields_cons]
      cases hp : prune? v <;> simp [hp]

/-- A record goes when nothing is left of any of its fields. -/
theorem tidies_codec (d : Record σ) (tidied : σ → σ) (isEmpty : σ → Bool)
    (hn : (d.fields.map Field.name).Nodup)
    (he : ∀ r, isEmpty (tidied r) = true ↔ ∀ f ∈ d.fields, (f.write r).bind prune? = none)
    (hr : ∀ r, restore r d.fields d.start = .ok (tidied r)) :
    d.codec.Tidies fun r => Option.guard (fun t => !isEmpty t) (tidied r) := by
  intro r
  have hnil := pruneFields_eq_nil_iff d r
  rw [← he] at hnil
  simp only [codec, prune?]
  split
  · rename_i hp
    simp [hnil.mp hp, Option.guard]
  · rename_i hp
    have ht : isEmpty (tidied r) = false := by
      cases ht : isEmpty (tidied r) with
      | false => rfl
      | true => exact (hp (hnil.mpr ht)).elim
    simp [ht, Option.guard, readFields_pruned d hn, hr]

end Record

end CurlScribe.Json
