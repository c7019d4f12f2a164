import CurlScribe.Proofs.Request.LastWrite
import CurlScribe.Proofs.Request.ParamList
import Mathlib.Data.List.DropRight
import Mathlib.Data.List.Nodup

/-! What a list says of its history: after any edits that keep keys apart, every entry is what the
edits since its key was last removed have made of it, and entries stand in the order in which they
came. -/
namespace CurlScribe.ParamList

/-- A change of a list in which a repeated key never gets an entry of its own. -/
inductive Edit where
  /-- A value that wins over the one that is there. -/
  | insert (key value : String)
  /-- A value that is only for a key that has none. -/
  | offer (key value : String)
  | remove (key : String)
  | setEnabled (key : String) (on : Bool)

def apply (l : ParamList) : Edit → ParamList
  | .insert key value => l.insert key value
  | .offer key value => l.insertWith .firstWins key value
  | .remove key => l.remove key
  | .setEnabled key on => l.setEnabled key on

/-- The edits one after the other, from the empty list. -/
def run (edits : List Edit) : ParamList := edits.foldl apply empty

namespace Edit

def removes (key : String) : Edit → Bool
  | remove k => k == key
  | _ => false

/-- The value that an edit brings for a key. -/
def value? (key : String) : Edit → Option String
  | insert k value | offer k value => if k = key then some value else none
  | _ => none

/-- The value that an edit writes under a key, whether or not there is one. -/
def written? (key : String) : Edit → Option String
  | insert k value => if k = key then some value else none
  | _ => none

/-- How an edit leaves the switch of an entry that is there. -/
def switched? (key : String) : Edit → Option Bool
  | insert k _ => if k = key then some true else none
  | setEnabled k on => if k = key then some on else none
  | _ => none

end Edit

/-! The history of a key. -/

def sinceRemoved (key : String) (edits : List Edit) : List Edit :=
  edits.rtakeWhile fun e => !e.removes key

/-- From the earliest insertion of the key since it was last removed. -/
def life (key : String) (edits : List Edit) : List Edit :=
  (sinceRemoved key edits).dropWhile fun e => (e.value? key).isNone

/-- How many edits came before that insertion. -/
def born (key : String) (edits : List Edit) : Nat := edits.length - (life key edits).length

/-- The last value that was written since then, or else the first value. -/
def valueOf (key : String) (edits : List Edit) : Option String :=
  ((life key edits).filterMap (Edit.written? key)).getLast?.or
    ((life key edits).filterMap (Edit.value? key)).head?

/-- On by the edit that brought the key, and then as it was last left. -/
def switchOf (key : String) (edits : List Edit) : Bool :=
  ((life key edits).tail.filterMap (Edit.switched? key)).getLast?.getD true

/-- The list is the ordered map that the edits describe. -/
structure Follows (edits : List Edit) (l : ParamList) : Prop where
  distinct : l.Distinct
  present : ∀ key, l.contains key = true ↔ life key edits ≠ []
  ordered : l.entries.Pairwise fun p q => born p.key edits < born q.key edits
  value : ∀ key, l.get? key = valueOf key edits
  enabled : ∀ p ∈ l.entries, p.enabled = switchOf p.key edits
  removed : ∀ key, l.countOf key = (if l.contains key then 1 else 0) ∧
    (l.remove key).size + l.countOf key = l.size

variable {l : ParamList} {key other value : String} {edits : List Edit} {e : Edit} {p : Param}

/-! One edit more, in the history of a key. -/

theorem life_concat (key : String) (edits : List Edit) (e : Edit) :
    life key (edits ++ [e]) =
      if e.removes key then [] else
        if life key edits = [] then (if (e.value? key).isSome then [e] else [])
        else life key edits ++ [e] := by
  rw [life, sinceRemoved, List.rtakeWhile_concat]
  cases hr : e.removes key with
  | true => rfl
  | false =>
    rw [Bool.not_false, if_pos rfl, List.dropWhile_append, if_neg Bool.false_ne_true]
    change (if (life key edits).isEmpty = true then _ else life key edits ++ [e]) = _
    simp only [List.isEmpty_iff]
    refine if_congr Iff.rfl ?_ rfl
    cases hv : e.value? key <;> simp [hv]

/-- A history begins with an edit that brings a value. -/
theorem life_cases (key : String) (edits : List Edit) : life key edits = [] ∨
    ∃ e value later, life key edits = e :: later ∧ e.value? key = some value := by
  cases hl : life key edits with
  | nil => exact .inl rfl
  | cons e later =>
    right
    have hhead := List.head?_dropWhile_not (fun e : Edit => (e.value? key).isNone)
      (sinceRemoved key edits)
    rw [← life, hl] at hhead
    have hsome : (e.value? key).isNone = false := hhead
    cases hv : e.value? key with
    | none => simp [hv] at hsome
    | some value => exact ⟨e, value, later, rfl, hv⟩

theorem born_concat (he : e.removes key = false) (hl : life key edits ≠ []) :
    born key (edits ++ [e]) = born key edits := by
  rw [born, born, life_concat, if_neg (by simp [he]), if_neg hl]
  simp

theorem born_lt (hl : life key edits ≠ []) : born key edits < edits.length := by
  have hsuffix : life key edits <:+ edits :=
    (List.dropWhile_suffix _).trans (List.rtakeWhile_suffix _ _)
  have hle := hsuffix.length_le
  have hpos := List.length_pos_iff.mpr hl
  rw [born]
  omega

/-- What the history says of the entry of a key. -/
def standing (key : String) (edits : List Edit) : Option Param :=
  (valueOf key edits).map fun value => ⟨key, value, switchOf key edits⟩

theorem valueOf_concat {c : Edit} {later : List Edit} (hl : life key edits = c :: later)
    (hc : c.value? key = some value) (he : e.removes key = false) :
    valueOf key (edits ++ [e]) = (e.written? key).or (valueOf key edits) := by
  have hlife : life key (edits ++ [e]) = c :: later ++ [e] := by
    rw [life_concat, if_neg (by simp [he]), if_neg (by simp [hl]), hl]
  rw [valueOf, valueOf, hlife, hl]
  simp only [List.filterMap_append, List.getLast?_append, List.head?_append, List.filterMap_cons,
    hc, List.filterMap_nil]
  cases e.written? key <;> simp

theorem switchOf_concat (hl : life key edits ≠ []) (he : e.removes key = false) :
    switchOf key (edits ++ [e]) = (e.switched? key).getD (switchOf key edits) := by
  have hlife : life key (edits ++ [e]) = life key edits ++ [e] := by
    rw [life_concat, if_neg (by simp [he]), if_neg hl]
  rw [switchOf, switchOf, hlife, List.tail_append_of_ne_nil hl, List.filterMap_append,
    List.getLast?_append]
  cases he : e.switched? key <;> simp [he]

/-! What one edit makes of the entry of one key. -/

/-- The entry of a key after an edit. -/
def Edit.entry (key : String) (o : Option Param) : Edit → Option Param
  | insert k value => if k = key then some ⟨key, value, true⟩ else o
  | offer k value => if k = key then o.or (some ⟨key, value, true⟩) else o
  | remove k => if k = key then none else o
  | setEnabled k on => if k = key then o.map fun p => ⟨p.key, p.value, on⟩ else o

theorem countOf_le_one (h : l.Distinct) (key : String) : l.countOf key ≤ 1 := by
  have hc : l.countOf key = (l.entries.map Param.key).count key := by
    rw [List.count, List.countP_map]
    rfl
  rw [hc]
  exact List.nodup_iff_count_le_one.mp h key

theorem lastIn_overwrite_other (h : other ≠ key) (ps : List Param) :
    lastIn key (overwrite other value ps) = lastIn key ps := by
  induction ps with
  | nil => rfl
  | cons p ps ih =>
    rw [overwrite]
    split
    · rename_i hp
      rw [lastIn_cons, lastIn_cons, hp, if_neg h, if_neg h]
    · rw [lastIn_cons, lastIn_cons, ih]

theorem last_push (l : ParamList) (other value key : String) :
    (l.push ⟨other, value, true⟩).last? key =
      if other = key then some ⟨other, value, true⟩ else l.last? key := by
  rw [last?, push, lastIn_append, lastIn_singleton]
  split <;> rfl

theorem last_eq_none_iff : l.last? key = none ↔ l.contains key = false := by
  rw [contains_eq_false_iff]
  exact lastIn_eq_none_iff

theorem last_insert_other (h : other ≠ key) (l : ParamList) (value : String) :
    (l.insert other value).last? key = l.last? key := by
  rw [insert, insertWith]
  split
  · exact lastIn_overwrite_other h l.entries
  · rw [last_push, if_neg h]

theorem last_offer (l : ParamList) (other value key : String) :
    (l.insertWith .firstWins other value).last? key =
      if other = key then (l.last? key).or (some ⟨key, value, true⟩) else l.last? key := by
  rw [insertWith]
  by_cases hk : other = key
  · subst hk
    rw [if_pos rfl]
    cases hc : l.contains other with
    | true =>
      cases hp : l.last? other with
      | none => simp [last_eq_none_iff.mp hp] at hc
      | some p => simp [hp]
    | false => simp [last_push, last_eq_none_iff.mpr hc]
  · rw [if_neg hk]
    split
    · rfl
    · rw [last_push, if_neg hk]

theorem last_remove (l : ParamList) (other key : String) :
    (l.remove other).last? key = if other = key then none else l.last? key := by
  rw [last?, remove, lastIn, ← List.filter_reverse, List.find?_filter]
  split
  · rename_i hk
    subst hk
    simp
  · rename_i hk
    refine congrArg (List.find? · _) (funext fun p => ?_)
    by_cases hp : p.key = key <;> simp [hp, Ne.symm hk]

theorem key_of_last (h : l.last? key = some p) : p.key = key := by
  simpa using List.find?_some h

theorem last_setEnabled (l : ParamList) (other key : String) (on : Bool) :
    (l.setEnabled other on).last? key =
      if other = key then (l.last? key).map fun p => ⟨p.key, p.value, on⟩ else l.last? key := by
  have hmap : (l.setEnabled other on).last? key =
      (l.last? key).map fun p => if p.key = other then ⟨p.key, p.value, on⟩ else p := by
    rw [last?, setEnabled, lastIn, ← List.map_reverse, List.find?_map]
    refine congrArg (Option.map _) (congrArg (List.find? · _) (funext fun p => ?_))
    by_cases hp : p.key = other <;> simp [hp]
  rw [hmap]
  cases hl : l.last? key with
  | none => simp
  | some p =>
    have hp := key_of_last hl
    by_cases hk : other = key
    · simp [hk, hp]
    · simp [hk, hp, Ne.symm hk]

theorem last_apply (h : l.Distinct) (e : Edit) (key : String) :
    (l.apply e).last? key = e.entry key (l.last? key) := by
  cases e with
  | insert other value =>
    by_cases hk : other = key
    · subst hk
      simp [apply, Edit.entry, last_insert, countOf_le_one h]
    · simp [apply, Edit.entry, last_insert_other hk, hk]
  | offer other value => exact last_offer l other value key
  | remove other => exact last_remove l other key
  | setEnabled other on => exact last_setEnabled l other key on

theorem exists_valueOf {c : Edit} {later : List Edit} (hl : life key edits = c :: later)
    (hc : c.value? key = some value) : ∃ last, valueOf key edits = some last := by
  rw [valueOf, hl, List.filterMap_cons_some hc, List.head?_cons]
  cases ((c :: later).filterMap (Edit.written? key)).getLast? <;> simp

/-- One more edit makes of what the history says what it makes of the entry. -/
theorem standing_concat (key : String) (edits : List Edit) (e : Edit) :
    standing key (edits ++ [e]) = e.entry key (standing key edits) := by
  rcases life_cases key edits with hl | ⟨c, value, later, hl, hc⟩
  · have hs : standing key edits = none := by simp [standing, valueOf, hl]
    rw [hs, standing, valueOf, switchOf, life_concat, hl]
    cases e with
    | insert other v =>
      by_cases hk : other = key <;>
        simp [Edit.removes, Edit.value?, Edit.written?, Edit.entry, hk]
    | offer other v =>
      by_cases hk : other = key <;>
        simp [Edit.removes, Edit.value?, Edit.written?, Edit.entry, hk]
    | remove other => simp [Edit.value?, Edit.entry]
    | setEnabled other on => simp [Edit.value?, Edit.entry]
  · have hne : life key edits ≠ [] := by simp [hl]
    obtain ⟨last, hlast⟩ := exists_valueOf hl hc
    have hstay (he : e.removes key = false) : standing key (edits ++ [e]) =
        ((e.written? key).or (some last)).map fun value =>
          ⟨key, value, (e.switched? key).getD (switchOf key edits)⟩ := by
      rw [standing, valueOf_concat hl hc he, switchOf_concat hne he, hlast]
    have hs : standing key edits = some ⟨key, last, switchOf key edits⟩ := by
      rw [standing, hlast, Option.map_some]
    rw [hs]
    cases e with
    | insert other v =>
      rw [hstay rfl]
      by_cases hk : other = key <;> simp [Edit.written?, Edit.switched?, Edit.entry, hk]
    | offer other v =>
      rw [hstay rfl]
      by_cases hk : other = key <;> simp [Edit.written?, Edit.switched?, Edit.entry, hk]
    | remove other =>
      by_cases hk : other = key
      · subst hk
        have hgone : life other (edits ++ [.remove other]) = [] := by
          rw [life_concat, if_pos (by simp [Edit.removes])]
        simp [standing, valueOf, hgone, Edit.entry]
      · rw [hstay (by simp [Edit.removes, hk])]
        simp [Edit.written?, Edit.switched?, Edit.entry, hk]
    | setEnabled other on =>
      rw [hstay rfl]
      by_cases hk : other = key <;> simp [Edit.written?, Edit.switched?, Edit.entry, hk]

/-! The order of the keys. -/

def keys (l : ParamList) : List String := l.entries.map Param.key

/-- The key that an edit adds. -/
def added (l : ParamList) : Edit → List String
  | .insert key _ | .offer key _ => if l.contains key then [] else [key]
  | _ => []

theorem mem_keys_iff : key ∈ l.keys ↔ l.contains key = true := by
  simp [keys, contains]

theorem added_cases (l : ParamList) (e : Edit) : l.added e = [] ∨
    ∃ key, l.added e = [key] ∧ key ∉ l.keys ∧ (e.value? key).isSome ∧ e.removes key = false := by
  cases e with
  | insert key value | offer key value =>
    rw [added]
    cases hc : l.contains key with
    | true => exact .inl rfl
    | false => exact .inr ⟨key, rfl, by simp [mem_keys_iff, hc], by simp [Edit.value?], rfl⟩
  | remove key => exact .inl rfl
  | setEnabled key on => exact .inl rfl

theorem keys_push (l : ParamList) (p : Param) : (l.push p).keys = l.keys ++ [p.key] := by
  simp [keys, push]

/-- What one edit does to the keys. -/
theorem keys_apply (l : ParamList) (e : Edit) :
    (l.apply e).keys = l.keys.filter (fun key => !e.removes key) ++ l.added e := by
  have hall : l.keys.filter (fun _ => !false) = l.keys := List.filter_true _
  cases e with
  | insert key value =>
    change (l.insertWith .lastWins key value).keys = l.keys.filter (fun _ => !false) ++ _
    rw [hall, insertWith, added]
    cases l.contains key with
    | true => simp [keys, keys_overwrite]
    | false => simp [keys_push]
  | offer key value =>
    change (l.insertWith .firstWins key value).keys = l.keys.filter (fun _ => !false) ++ _
    rw [hall, insertWith, added]
    cases l.contains key with
    | true => simp
    | false => simp [keys_push]
  | remove key =>
    have hadded : l.added (.remove key) = [] := rfl
    rw [hadded, List.append_nil, apply, keys, keys, remove, List.filter_map]
    refine congrArg (List.map Param.key) (List.filter_congr fun p _ => ?_)
    simp only [Function.comp, Edit.removes, bne, BEq.comm]
  | setEnabled key on =>
    change (l.setEnabled key on).keys = l.keys.filter (fun _ => !false) ++ []
    rw [hall, List.append_nil, keys, setEnabled, List.map_map]
    refine List.map_congr_left fun p _ => ?_
    rw [Function.comp]
    split <;> rfl

/-- What holds between a history and its list: keys are apart, stand in the order in which they
came, and have the entries that the history says. -/
structure Tracks (edits : List Edit) (l : ParamList) : Prop where
  distinct : l.Distinct
  ordered : l.keys.Pairwise fun a b => born a edits < born b edits
  last : ∀ key, l.last? key = standing key edits

theorem Tracks.mem_keys (h : Tracks edits l) : key ∈ l.keys ↔ life key edits ≠ [] := by
  rw [mem_keys_iff, ← Bool.not_eq_false, ← last_eq_none_iff, h.last, standing]
  rcases life_cases key edits with hl | ⟨c, value, later, hl, hc⟩
  · simp [valueOf, hl]
  · obtain ⟨last, hlast⟩ := exists_valueOf hl hc
    simp [hlast, hl]

theorem tracks_empty : Tracks [] empty where
  distinct := List.nodup_nil
  ordered := List.Pairwise.nil
  last _ := rfl

theorem Tracks.distinct_apply (h : Tracks edits l) (e : Edit) : (l.apply e).Distinct := by
  change (l.apply e).keys.Nodup
  rw [keys_apply]
  have hold : (l.keys.filter fun key => !e.removes key).Nodup := List.Nodup.filter _ h.distinct
  rcases added_cases l e with ha | ⟨key, ha, hnew, -, -⟩
  · rwa [ha, List.append_nil]
  · rw [ha, List.nodup_append]
    refine ⟨hold, List.nodup_singleton _, fun a hk b hb hab => ?_⟩
    rw [List.mem_singleton.mp hb] at hab
    exact hnew (hab ▸ List.mem_of_mem_filter hk)

/-- Keys that stay keep their places in the history, and a new one comes last. -/
theorem Tracks.ordered_apply (h : Tracks edits l) (e : Edit) :
    (l.apply e).keys.Pairwise fun a b => born a (edits ++ [e]) < born b (edits ++ [e]) := by
  have hborn {a : String} (ha : a ∈ l.keys.filter fun key => !e.removes key) :
      born a (edits ++ [e]) = born a edits ∧ born a edits < edits.length := by
    obtain ⟨hmem, hstay⟩ := List.mem_filter.mp ha
    have hl := h.mem_keys.mp hmem
    exact ⟨born_concat (by simpa using hstay) hl, born_lt hl⟩
  have hold : (l.keys.filter fun key => !e.removes key).Pairwise fun a b =>
      born a (edits ++ [e]) < born b (edits ++ [e]) := by
    refine (h.ordered.filter _).imp_of_mem fun ha hb hab => ?_
    rwa [(hborn ha).1, (hborn hb).1]
  rw [keys_apply]
  rcases added_cases l e with ha | ⟨key, ha, hnew, hv, hr⟩
  · rwa [ha, List.append_nil]
  · have hlife : life key edits = [] := by
      by_contra hl
      exact hnew (h.mem_keys.mpr hl)
    have hkey : born key (edits ++ [e]) = edits.length := by
      rw [born, life_concat, if_neg (by simp [hr]), if_pos hlife, if_pos hv]
      simp
    rw [ha, List.pairwise_append]
    refine ⟨hold, List.pairwise_singleton _ _, fun a hk b hb => ?_⟩
    rw [List.mem_singleton.mp hb, hkey, (hborn hk).1]
    exact (hborn hk).2

theorem tracks_apply (h : Tracks edits l) (e : Edit) : Tracks (edits ++ [e]) (l.apply e) where
  distinct := h.distinct_apply e
  ordered := h.ordered_apply e
  last key := by rw [last_apply h.distinct, h.last, standing_concat]

theorem tracks_run (edits : List Edit) : Tracks edits (run edits) := by
  induction edits using List.reverseRecOn with
  | nil => exact tracks_empty
  | append_singleton edits e ih =>
    rw [run, List.foldl_append]
    exact tracks_apply ih e

theorem size_remove (l : ParamList) (key : String) :
    (l.remove key).size + l.countOf key = l.size := by
  have hcount := List.length_eq_countP_add_countP (fun p : Param => p.key == key) (l := l.entries)
  have hrest : (l.remove key).size = l.entries.countP fun p => ¬ (p.key == key) = true := by
    rw [size, remove, ← List.countP_eq_length_filter]
    exact List.countP_congr fun p _ => by simp
  rw [hrest, countOf, size, hcount, Nat.add_comm]

theorem last_of_mem (h : l.Distinct) (hp : p ∈ l.entries) : l.last? p.key = some p := by
  cases hl : l.last? p.key with
  | none =>
    have hc : l.contains p.key = true := mem_keys_iff.mp (List.mem_map_of_mem hp)
    simp [last_eq_none_iff.mp hl] at hc
  | some q =>
    have hq : q ∈ l.entries := List.mem_reverse.mp (List.mem_of_find?_eq_some hl)
    rw [List.inj_on_of_nodup_map h hq hp (key_of_last hl)]

/-- Any edits that keep keys apart leave the ordered map that they describe. -/
theorem run_follows (edits : List Edit) : Follows edits (run edits) := by
  have h := tracks_run edits
  have hordered := h.ordered
  rw [keys, List.pairwise_map] at hordered
  refine ⟨h.distinct, fun key => ?_, hordered, fun key => ?_, fun p hp => ?_,
    fun key => ⟨?_, size_remove _ key⟩⟩
  · rw [← mem_keys_iff]
    exact h.mem_keys
  · rw [get_eq, h.last, standing, Option.map_map]
    exact Option.map_id'
  · have hlast := last_of_mem h.distinct hp
    rw [h.last] at hlast
    obtain ⟨value, -, hvalue⟩ := Option.map_eq_some_iff.mp hlast
    rw [← hvalue]
  · have hle := countOf_le_one h.distinct key
    cases hc : (run edits).contains key with
    | false => rw [contains_eq_false_iff.mp hc, if_neg Bool.false_ne_true]
    | true =>
      have hne : (run edits).countOf key ≠ 0 := fun hz => by
        simp [contains_eq_false_iff.mpr hz] at hc
      rw [if_pos rfl]
      omega

/-- A key that comes back stands behind the others, and its switch is on again. -/
example : run [.insert "a" "1", .offer "b" "2", .setEnabled "a" false, .offer "a" "3", .remove "b",
    .insert "c" "4", .offer "b" "5"] =
      ⟨[⟨"a", "1", false⟩, ⟨"c", "4", true⟩, ⟨"b", "5", true⟩]⟩ := by
  decide

end CurlScribe.ParamList
