import CurlScribe.Proofs.Request.ParamList

/-! Lists to which the entries of others are added. -/
namespace CurlScribe.ParamList

variable {policy : Repeated} {l added joined : ParamList} {key value name : String} {p : Param}

theorem contains_iff : l.contains key = true ↔ ∃ p ∈ l.entries, p.key = key := by
  simp [contains]

theorem mem_push (l : ParamList) (p q : Param) :
    p ∈ (l.push q).entries ↔ p ∈ l.entries ∨ p = q := by
  simp [push]

theorem mem_insertWith_keepAll : p ∈ (l.insertWith .keepAll key value).entries ↔
    p ∈ l.entries ∨ p = ⟨key, value, true⟩ :=
  mem_push l p _

theorem mem_insertWith_firstWins : p ∈ (l.insertWith .firstWins key value).entries ↔
    p ∈ l.entries ∨ p = ⟨key, value, true⟩ ∧ l.contains key = false := by
  rw [insertWith]
  cases hc : l.contains key with
  | true => simp
  | false => simp [mem_push]

theorem mem_overwrite_iff {ps : List Param} (hd : (ps.map Param.key).Nodup)
    (hk : key ∈ ps.map Param.key) : p ∈ overwrite key value ps ↔
      p = ⟨key, value, true⟩ ∨ (p ∈ ps ∧ p.key ≠ key) := by
  induction ps with
  | nil => simp at hk
  | cons q ps ih =>
    obtain ⟨hq, hps⟩ := List.nodup_cons.mp hd
    rw [overwrite]
    split
    · rename_i heq
      have hne : ∀ p ∈ ps, p.key ≠ key := by
        intro p hp hpk
        exact hq (heq ▸ hpk ▸ List.mem_map_of_mem hp)
      simp only [List.mem_cons, heq]
      constructor
      · rintro (rfl | hp)
        · exact .inl rfl
        · exact .inr ⟨.inr hp, hne p hp⟩
      · rintro (rfl | ⟨rfl | hp, hpk⟩)
        · exact .inl rfl
        · exact (hpk heq).elim
        · exact .inr hp
    · rename_i hne
      have hk' : key ∈ ps.map Param.key := by
        rcases List.mem_cons.mp hk with heq | hk
        · exact (hne heq.symm).elim
        · exact hk
      rw [List.mem_cons, List.mem_cons, ih hps hk']
      constructor
      · rintro (rfl | rfl | ⟨hp, hpk⟩)
        · exact .inr ⟨.inl rfl, hne⟩
        · exact .inl rfl
        · exact .inr ⟨.inr hp, hpk⟩
      · rintro (rfl | ⟨rfl | hp, hpk⟩)
        · exact .inr (.inl rfl)
        · exact .inl rfl
        · exact .inr (.inr ⟨hp, hpk⟩)

theorem mem_insertWith_lastWins (hd : l.Distinct) :
    p ∈ (l.insertWith .lastWins key value).entries ↔
      p = ⟨key, value, true⟩ ∨ (p ∈ l.entries ∧ p.key ≠ key) := by
  rw [insertWith]
  cases hc : l.contains key with
  | true =>
    obtain ⟨q, hq, rfl⟩ := contains_iff.mp hc
    simpa using mem_overwrite_iff hd (List.mem_map_of_mem hq)
  | false =>
    have hne : ∀ p ∈ l.entries, p.key ≠ key := by
      intro p hp hpk
      simp [contains_iff.mpr ⟨p, hp, hpk⟩] at hc
    rw [if_neg (by simp), mem_push]
    constructor
    · rintro (hp | hp)
      · exact .inr ⟨hp, hne p hp⟩
      · exact .inl hp
    · rintro (hp | ⟨hp, -⟩)
      · exact .inr hp
      · exact .inl hp

theorem contains_insertWith (policy : Repeated) (l : ParamList) (key value name : String) :
    (l.insertWith policy key value).contains name = (l.contains name || key == name) := by
  have hpush : (l.push ⟨key, value, true⟩).contains name = (l.contains name || key == name) := by
    simp [contains, push, List.any_append]
  have hover : ParamList.contains ⟨overwrite key value l.entries⟩ name = l.contains name := by
    have hany (ps : List Param) : (ps.any fun p => p.key == name) =
        (ps.map Param.key).any fun k => k == name := by simp [Function.comp_def]
    rw [contains, hany, keys_overwrite, ← hany, contains]
  cases policy with
  | keepAll => exact hpush
  | firstWins =>
    rw [insertWith]
    cases hc : l.contains key with
    | false => simpa using hpush
    | true =>
      by_cases hk : key = name
      · simp [← hk, hc]
      · simp [hk]
  | lastWins =>
    rw [insertWith]
    cases hc : l.contains key with
    | false => simpa using hpush
    | true =>
      by_cases hk : key = name
      · subst hk
        simpa [hc] using hover
      · simp [hk, hover]

/-- The entries of one list with those of another, added one by one. -/
structure Joins (policy : Repeated) (l added joined : ParamList) : Prop where
  addedDistinct : policy = .keepAll ∨ added.Distinct
  joinedDistinct : policy = .keepAll ∨ joined.Distinct
  mem : ∀ p, p ∈ joined.entries ↔
    match policy with
    | .keepAll => p ∈ l.entries ∨ p ∈ added.entries
    | .firstWins => p ∈ l.entries ∨ p ∈ added.entries ∧ l.contains p.key = false
    | .lastWins => p ∈ added.entries ∨ p ∈ l.entries ∧ added.contains p.key = false

theorem joins_empty (h : policy = .keepAll ∨ l.Distinct) : Joins policy l .empty l where
  addedDistinct := .inr List.nodup_nil
  joinedDistinct := h
  mem p := by cases policy <;> simp [empty, contains]

theorem contains_firstWins (h : Joins .firstWins l added joined) (key : String) :
    joined.contains key = (l.contains key || added.contains key) := by
  rw [Bool.eq_iff_iff, Bool.or_eq_true, contains_iff, contains_iff, contains_iff]
  constructor
  · rintro ⟨p, hp, rfl⟩
    rcases (h.mem p).mp hp with hp | ⟨hp, -⟩
    · exact .inl ⟨p, hp, rfl⟩
    · exact .inr ⟨p, hp, rfl⟩
  · rintro (⟨p, hp, rfl⟩ | ⟨p, hp, rfl⟩)
    · exact ⟨p, (h.mem p).mpr (.inl hp), rfl⟩
    · cases hc : l.contains p.key with
      | false => exact ⟨p, (h.mem p).mpr (.inr ⟨hp, hc⟩), rfl⟩
      | true =>
        obtain ⟨q, hq, hk⟩ := contains_iff.mp hc
        exact ⟨q, (h.mem q).mpr (.inl hq), hk⟩

/-- One more entry is added to both lists. -/
theorem joins_insertWith (h : Joins policy l added joined) (key value : String) :
    Joins policy l (added.insertWith policy key value) (joined.insertWith policy key value) where
  addedDistinct := distinct_insertWith h.addedDistinct
  joinedDistinct := distinct_insertWith h.joinedDistinct
  mem p := by
    cases policy with
    | keepAll =>
      have hm := h.mem p
      simp only [mem_insertWith_keepAll] at hm ⊢
      rw [hm, or_assoc]
    | firstWins =>
      have hm := h.mem p
      have hc := contains_firstWins h key
      simp only [mem_insertWith_firstWins, hc, Bool.or_eq_false_iff] at hm ⊢
      constructor
      · rintro (hp | ⟨rfl, hl, ha⟩)
        · rcases hm.mp hp with hp | ⟨hp, hk⟩
          · exact .inl hp
          · exact .inr ⟨.inl hp, hk⟩
        · exact .inr ⟨.inr ⟨rfl, ha⟩, hl⟩
      · rintro (hp | ⟨hp | ⟨rfl, ha⟩, hk⟩)
        · exact .inl (hm.mpr (.inl hp))
        · exact .inl (hm.mpr (.inr ⟨hp, hk⟩))
        · exact .inr ⟨rfl, hk, ha⟩
    | lastWins =>
      have hm := h.mem p
      have hd := h.addedDistinct.resolve_left (by simp)
      have hj := h.joinedDistinct.resolve_left (by simp)
      simp only [mem_insertWith_lastWins hd, mem_insertWith_lastWins hj, contains_insertWith,
        Bool.or_eq_false_iff, beq_eq_false_iff_ne] at hm ⊢
      constructor
      · rintro (rfl | ⟨hp, hne⟩)
        · exact .inl (.inl rfl)
        · rcases hm.mp hp with hp | ⟨hp, hk⟩
          · exact .inl (.inr ⟨hp, hne⟩)
          · exact .inr ⟨hp, hk, hne.symm⟩
      · rintro ((rfl | ⟨hp, hne⟩) | ⟨hp, hk, hne⟩)
        · exact .inl rfl
        · exact .inr ⟨hm.mpr (.inl hp), hne⟩
        · exact .inr ⟨hm.mpr (.inr ⟨hp, hk⟩), hne.symm⟩

/-- Nothing is added but what is there already, or is not wanted again. -/
theorem Joins.forall_mem_iff (h : Joins policy l added joined) :
    (∀ p ∈ joined.entries, p ∈ l.entries) ↔ ∀ p ∈ added.entries,
      p ∈ l.entries ∨ (policy = .firstWins ∧ l.contains p.key = true) := by
  cases policy with
  | keepAll =>
    constructor
    · exact fun hall p hp => .inl (hall p ((h.mem p).mpr (.inr hp)))
    · intro hall p hp
      rcases (h.mem p).mp hp with hp | hp
      · exact hp
      · simpa using hall p hp
  | firstWins =>
    constructor
    · intro hall p hp
      cases hc : l.contains p.key with
      | true => exact .inr ⟨rfl, rfl⟩
      | false => exact .inl (hall p ((h.mem p).mpr (.inr ⟨hp, hc⟩)))
    · intro hall p hp
      rcases (h.mem p).mp hp with hp | ⟨hp, hc⟩
      · exact hp
      · simpa [hc] using hall p hp
  | lastWins =>
    constructor
    · exact fun hall p hp => .inl (hall p ((h.mem p).mpr (.inl hp)))
    · intro hall p hp
      rcases (h.mem p).mp hp with hp | ⟨hp, -⟩
      · simpa using hall p hp
      · exact hp

end CurlScribe.ParamList
