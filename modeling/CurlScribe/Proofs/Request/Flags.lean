import CurlScribe.Request.Flags
import Mathlib.Data.List.Perm.Basic

/-! Switches that are set one by one. -/
namespace CurlScribe

namespace Named

variable {α : Type} {entries : List (String × α)} {key : String} {value : α}

theorem lookup_pair (entries : List (String × α)) (key name : String) (value : α) :
    ((key, value) :: entries).lookup name =
      if name = key then some value else entries.lookup name := by
  rw [List.lookup_cons]
  by_cases h : name = key
  · simp [h]
  · rw [beq_false_of_ne h, if_neg h]

theorem lookup_put (entries : List (String × α)) (key name : String) (value : α) :
    (put entries key value).lookup name =
      if name = key then some value else entries.lookup name := by
  induction entries with
  | nil => exact lookup_pair [] key name value
  | cons e rest ih =>
    obtain ⟨k, v⟩ := e
    rw [put]
    split
    · rename_i hk
      subst hk
      rw [lookup_pair, lookup_pair]
      split <;> rfl
    · rename_i hk
      rw [lookup_pair, lookup_pair, ih]
      by_cases h : name = k
      · subst h
        simp [hk]
      · simp [h]

theorem mem_put {e : String × α} (h : e ∈ put entries key value) :
    e ∈ entries ∨ e = (key, value) := by
  induction entries with
  | nil => simpa [put] using h
  | cons f entries ih =>
    obtain ⟨k, v⟩ := f
    rw [put] at h
    split at h
    · rcases List.mem_cons.mp h with rfl | h
      · simp_all
      · simp [h]
    · rcases List.mem_cons.mp h with rfl | h
      · simp
      · exact (ih h).imp (by simp_all) id

end Named

namespace Flags

variable {f g : Flags} {name : String}

theorem isOn_set (f : Flags) (key name : String) (on : Bool) :
    (f.set key on).isOn name = if name = key then on else f.isOn name := by
  rw [isOn, set, Named.lookup_put]
  split <;> simp [isOn]

/-- Flags that are set one after the other. -/
def setAll (f : Flags) (names : List String) : Flags :=
  names.foldl (fun f name => f.set name true) f

theorem isOn_setAll (f : Flags) (names : List String) (name : String) :
    (f.setAll names).isOn name = (names.contains name || f.isOn name) := by
  induction names generalizing f with
  | nil => simp [setAll]
  | cons n names ih =>
    have h := ih (f.set n true)
    rw [setAll] at h ⊢
    rw [List.foldl_cons, h, isOn_set]
    by_cases hn : name = n <;> simp [hn, Bool.or_comm]

/-- Nothing but flags that are on. -/
def AllOn (f : Flags) : Prop := ∀ e ∈ f.entries, e.2 = true

theorem allOn_setAll (h : f.AllOn) (names : List String) : (f.setAll names).AllOn := by
  induction names generalizing f with
  | nil => exact h
  | cons n names ih =>
    refine ih fun e he => ?_
    rcases Named.mem_put he with he | rfl
    · exact h e he
    · rfl

theorem mem_of_lookup {entries : List (String × Bool)} {name : String} {on : Bool}
    (h : entries.lookup name = some on) : (name, on) ∈ entries := by
  obtain ⟨before, after, rfl, -⟩ := List.lookup_eq_some_iff.mp h
  simp

theorem lookup_of_mem {entries : List (String × Bool)} (hn : (Named.names entries).Nodup)
    {e : String × Bool} (he : e ∈ entries) : entries.lookup e.1 = some e.2 := by
  induction entries with
  | nil => simp at he
  | cons d rest ih =>
    obtain ⟨hd, hr⟩ := List.nodup_cons.mp hn
    rw [show d = (d.1, d.2) from rfl, Named.lookup_pair]
    rcases List.mem_cons.mp he with rfl | he
    · simp
    · have hne : e.1 ≠ d.1 := by
        intro heq
        exact hd (heq ▸ List.mem_map_of_mem he)
      rw [if_neg hne]
      exact ih hr he

theorem isOn_iff (h : f.AllOn) : f.isOn name = true ↔ name ∈ Named.names f.entries := by
  constructor
  · intro hon
    cases hl : f.entries.lookup name with
    | none => simp [isOn, hl] at hon
    | some on => exact List.mem_map_of_mem (mem_of_lookup hl)
  · intro hm
    obtain ⟨e, he, rfl⟩ := List.mem_map.mp hm
    simp [isOn, lookup_of_mem f.distinct he, h e he]

/-- Flags of which the same ones are on are the same. -/
theorem same_of_isOn (hf : f.AllOn) (hg : g.AllOn) (h : ∀ name, f.isOn name = g.isOn name) :
    f.same g = true := by
  have hm : ∀ name, name ∈ Named.names f.entries ↔ name ∈ Named.names g.entries := fun name => by
    rw [← isOn_iff hf, ← isOn_iff hg, h]
  have hp : (Named.names f.entries).Perm (Named.names g.entries) :=
    (List.perm_ext_iff_of_nodup f.distinct g.distinct).mpr hm
  have hl : f.entries.length = g.entries.length := by
    simpa [Named.names] using hp.length_eq
  simp only [same, hl, beq_self_eq_true, Bool.true_and, List.all_eq_true, beq_iff_eq]
  intro e he
  obtain ⟨d, hd, hname⟩ := List.mem_map.mp ((hm e.1).mp (List.mem_map_of_mem he))
  rw [← hname, lookup_of_mem g.distinct hd, hg d hd, hf e he]

end Flags

end CurlScribe
