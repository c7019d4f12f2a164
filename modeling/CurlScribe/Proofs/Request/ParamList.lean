import CurlScribe.Request.ParamList

/-! Lists to which entries are added one by one. -/
namespace CurlScribe.ParamList

variable {policy : Repeated} {l : ParamList} {key value : String} {P : Param → Prop}

/-- No key stands twice. -/
def Distinct (l : ParamList) : Prop := (l.entries.map Param.key).Nodup

instance (l : ParamList) : Decidable l.Distinct :=
  inferInstanceAs (Decidable (l.entries.map Param.key).Nodup)

theorem insertWith_new {l : ParamList} {p : Param} (hp : p.enabled = true)
    (h : policy = .keepAll ∨ p.key ∉ l.entries.map Param.key) :
    l.insertWith policy p.key p.value = ⟨l.entries ++ [p]⟩ := by
  have hpush : l.push ⟨p.key, p.value, true⟩ = ⟨l.entries ++ [p]⟩ := by
    rw [← hp]
    rfl
  have hc (hn : p.key ∉ l.entries.map Param.key) : l.contains p.key = false := by
    simp only [ParamList.contains, List.any_eq_false, beq_iff_eq]
    intro q hq heq
    exact hn (heq ▸ List.mem_map_of_mem hq)
  rcases h with rfl | h
  · exact hpush
  · cases policy <;> simp [ParamList.insertWith, hc h, hpush]

/-- Entries of new keys go to the end of a list. -/
theorem insertAll_new {l : ParamList} {ps : List Param} (hp : ∀ p ∈ ps, p.enabled = true)
    (h : policy = .keepAll ∨ ((l.entries ++ ps).map Param.key).Nodup) :
    ps.foldl (fun l p => l.insertWith policy p.key p.value) l = ⟨l.entries ++ ps⟩ := by
  induction ps generalizing l with
  | nil => simp
  | cons p ps ih =>
    have hnew : policy = .keepAll ∨ p.key ∉ l.entries.map Param.key := by
      refine h.imp id fun hn hm => ?_
      rw [List.map_append] at hn
      exact (List.nodup_append.mp hn).2.2 p.key hm p.key (by simp) rfl
    rw [List.foldl_cons, insertWith_new (hp p (by simp)) hnew,
      ih (fun q hq => hp q (by simp [hq])) (by simpa using h)]
    simp

theorem insertAll_empty (policy : Repeated) (l : ParamList)
    (hl : ∀ p ∈ l.entries, p.enabled = true) (h : policy = .keepAll ∨ l.Distinct) :
    l.entries.foldl (fun l p => l.insertWith policy p.key p.value) .empty = l :=
  insertAll_new hl h

theorem enabled_eq {l : ParamList} (h : ∀ p ∈ l.entries, p.enabled = true) :
    l.enabled = l.entries := List.filter_eq_self.mpr h

theorem mem_overwrite {ps : List Param} {p : Param} (h : p ∈ overwrite key value ps) :
    p ∈ ps ∨ p = ⟨key, value, true⟩ := by
  induction ps with
  | nil => simp [overwrite] at h
  | cons q ps ih =>
    rw [overwrite] at h
    split at h
    · rcases List.mem_cons.mp h with rfl | h
      · simp_all
      · simp [h]
    · rcases List.mem_cons.mp h with rfl | h
      · simp
      · exact (ih h).imp (by simp_all) id

theorem keys_overwrite (ps : List Param) :
    (overwrite key value ps).map Param.key = ps.map Param.key := by
  induction ps with
  | nil => rfl
  | cons q ps ih =>
    rw [overwrite]
    split <;> simp [ih]

/-- An insertion keeps what holds of the old entries and of the new one. -/
theorem forall_insertWith (h : ∀ p ∈ l.entries, P p) (hn : P ⟨key, value, true⟩) :
    ∀ p ∈ (l.insertWith policy key value).entries, P p := by
  have hpush : ∀ p ∈ (l.push ⟨key, value, true⟩).entries, P p := by
    intro p hp
    rcases List.mem_append.mp hp with hp | hp
    · exact h p hp
    · rw [List.mem_singleton.mp hp]
      exact hn
  intro p hp
  cases policy with
  | keepAll => exact hpush p hp
  | firstWins =>
    simp only [insertWith] at hp
    split at hp
    · exact h p hp
    · exact hpush p hp
  | lastWins =>
    simp only [insertWith] at hp
    split at hp
    · rcases mem_overwrite hp with hp | rfl
      · exact h p hp
      · exact hn
    · exact hpush p hp

theorem distinct_push (h : l.Distinct) (hc : l.contains key = false) :
    (l.push ⟨key, value, true⟩).Distinct := by
  simp only [contains, List.any_eq_false, beq_iff_eq] at hc
  rw [Distinct, push, List.map_append, List.nodup_append]
  refine ⟨h, by simp, ?_⟩
  intro a ha b hb heq
  obtain ⟨p, hp, rfl⟩ := List.mem_map.mp ha
  exact hc p hp (by simpa [heq] using hb)

/-- An insertion keeps keys apart, unless repeated keys are wanted. -/
theorem distinct_insertWith (h : policy = .keepAll ∨ l.Distinct) :
    policy = .keepAll ∨ (l.insertWith policy key value).Distinct := by
  cases hp : policy with
  | keepAll => exact .inl rfl
  | firstWins =>
    have hd : l.Distinct := by simpa [hp] using h
    right
    rw [insertWith]
    cases hc : l.contains key with
    | true => simpa [hc] using hd
    | false => simpa [hc] using distinct_push hd hc
  | lastWins =>
    have hd : l.Distinct := by simpa [hp] using h
    right
    rw [insertWith]
    cases hc : l.contains key with
    | true => simpa [Distinct, hc, keys_overwrite] using hd
    | false => simpa [hc] using distinct_push hd hc

theorem distinct_insert (h : l.Distinct) : (l.insert key value).Distinct :=
  (distinct_insertWith (.inr h)).resolve_left (by simp)

theorem enabled_insertAll (pairs : List (String × String)) {l : ParamList}
    (h : ∀ p ∈ l.entries, p.enabled = true) :
    ∀ p ∈ (pairs.foldl (fun l (name, value) => l.insert name value) l).entries,
      p.enabled = true := by
  induction pairs generalizing l with
  | nil => exact h
  | cons e pairs ih => exact ih (forall_insertWith h rfl)

theorem enabled_ofPairs (pairs : List (String × String)) :
    ∀ p ∈ (ofPairs pairs).entries, p.enabled = true :=
  enabled_insertAll pairs (by simp [empty])

theorem distinct_insertAll (pairs : List (String × String)) {l : ParamList} (h : l.Distinct) :
    (pairs.foldl (fun l (name, value) => l.insert name value) l).Distinct := by
  induction pairs generalizing l with
  | nil => exact h
  | cons e pairs ih => exact ih (distinct_insert h)

theorem distinct_ofPairs (pairs : List (String × String)) : (ofPairs pairs).Distinct :=
  distinct_insertAll pairs List.nodup_nil

/-- A list whose keys are apart is made again from its pairs. -/
theorem ofPairs_enabled (hl : ∀ p ∈ l.entries, p.enabled = true) (h : l.Distinct) :
    ofPairs (l.enabled.map fun p => (p.key, p.value)) = l := by
  rw [enabled_eq hl, ofPairs, List.foldl_map]
  exact insertAll_empty .lastWins l hl (.inr h)

end CurlScribe.ParamList
