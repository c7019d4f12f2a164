import CurlScribe.Request.ParamList

/-! Which entry of a key an insertion leaves last. It overwrites the first entry of the key, while a
look-up takes the last. -/
namespace CurlScribe.ParamList

variable {key value : String} {p : Param} {ps : List Param} {l : ParamList}

def lastIn (key : String) (ps : List Param) : Option Param :=
  ps.reverse.find? fun p => p.key == key

/-- The last entry of a key, enabled or not. -/
def last? (l : ParamList) (key : String) : Option Param := lastIn key l.entries

theorem get_eq (l : ParamList) (key : String) : l.get? key = (l.last? key).map Param.value := rfl

theorem lastIn_append (key : String) (ps qs : List Param) :
    lastIn key (ps ++ qs) = (lastIn key qs).or (lastIn key ps) := by
  simp only [lastIn, List.reverse_append, List.find?_append]

theorem lastIn_singleton (key : String) (p : Param) :
    lastIn key [p] = if p.key = key then some p else none := by
  simp [lastIn, List.find?_singleton]

theorem lastIn_cons (key : String) (p : Param) (ps : List Param) :
    lastIn key (p :: ps) = (lastIn key ps).or (if p.key = key then some p else none) := by
  rw [← lastIn_singleton, ← lastIn_append]
  rfl

theorem lastIn_eq_none_iff : lastIn key ps = none ↔ ps.countP (fun p => p.key == key) = 0 := by
  simp [lastIn, List.countP_eq_zero]

/-- The new value is in the last entry where there is no other entry of the key. -/
theorem lastIn_overwrite (key value : String) (ps : List Param) :
    lastIn key (overwrite key value ps) =
      if ps.countP (fun p => p.key == key) = 1 then some ⟨key, value, true⟩
      else lastIn key ps := by
  induction ps with
  | nil => rfl
  | cons p ps ih =>
    rw [overwrite]
    by_cases hk : p.key = key
    · rw [if_pos hk, lastIn_cons, lastIn_cons, if_pos hk, if_pos hk]
      cases hl : lastIn key ps with
      | none => simp [lastIn_eq_none_iff.mp hl, hk]
      | some q =>
        have hn : ps.countP (fun p => p.key == key) ≠ 0 := fun hz => by
          simp [lastIn_eq_none_iff.mpr hz] at hl
        simp [hk, hn]
    · rw [if_neg hk, lastIn_cons, lastIn_cons, if_neg hk, ih]
      simp [hk]

theorem contains_eq_false_iff : l.contains key = false ↔ l.countOf key = 0 := by
  simp [contains, countOf, List.countP_eq_zero]

/-- What an insertion leaves last under its key: the new value, unless the key stands twice. -/
theorem last_insert (l : ParamList) (key value : String) : (l.insert key value).last? key =
    if l.countOf key ≤ 1 then some ⟨key, value, true⟩ else l.last? key := by
  rw [insert, insertWith]
  cases hc : l.contains key with
  | false =>
    have hz := contains_eq_false_iff.mp hc
    have hn : l.countOf key ≤ 1 := by omega
    rw [if_pos hn, if_neg (by decide), last?, push, lastIn_append, lastIn_singleton, if_pos rfl]
    rfl
  | true =>
    have hne : l.countOf key ≠ 0 := fun hz => by
      simp [contains_eq_false_iff.mpr hz] at hc
    have hone : l.countOf key = 1 ↔ l.countOf key ≤ 1 := by omega
    rw [if_pos rfl, last?, lastIn_overwrite]
    simp only [← hone]
    rfl

/-- After an insertion the key reads as the new value and its last entry is enabled exactly where
the key stood at most once, or its last entry said so already. -/
theorem insert_is_read_back_iff (l : ParamList) (key value : String) :
    ((l.insert key value).get? key = some value ∧
      ((l.insert key value).last? key).any Param.enabled = true) ↔
        l.countOf key ≤ 1 ∨ (l.get? key = some value ∧ (l.last? key).any Param.enabled = true) := by
  simp only [get_eq, last_insert]
  split
  · rename_i hn
    simp [hn]
  · rename_i hn
    simp [hn]

/-- A list that keeps every entry of a key: the first one takes the value, the last one is read. -/
theorem repeated_key_is_not_read_back :
    (((empty.insertWith .keepAll "A" "1").insertWith .keepAll "A" "2").insert "A" "3").get? "A" =
      some "2" := by
  decide +kernel

end CurlScribe.ParamList
