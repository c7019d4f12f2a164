import Mathlib.Data.List.Basic

/-! Lists that are cut in two where a condition ends, split at every mark, or read part by part, and
what stands behind a mark. -/
namespace CurlScribe.Text

variable {α β : Type} {p : α → Bool} {as bs part : List α} {a b : α} {P : List α → Prop}

theorem takeWhile_append_stop (h : ∀ a ∈ as, p a = true) (hs : ∀ b ∈ bs.head?, p b = false) :
    (as ++ bs).takeWhile p = as := by
  rw [List.takeWhile_append_of_pos h]
  cases bs with
  | nil => simp
  | cons b bs => simp [hs b rfl]

theorem dropWhile_append_stop (h : ∀ a ∈ as, p a = true) (hs : ∀ b ∈ bs.head?, p b = false) :
    (as ++ bs).dropWhile p = bs := by
  rw [List.dropWhile_append_of_pos h]
  cases bs with
  | nil => rfl
  | cons b bs => simp [hs b rfl]

/-- What is cut off the end of a list leaves a first element that is not cut. -/
theorem reverse_dropWhile_cons (h : p a = false) (as : List α) :
    ∃ rest, ((a :: as).reverse.dropWhile p).reverse = a :: rest := by
  rw [List.reverse_cons, List.dropWhile_append]
  split
  · exact ⟨[], by simp [h]⟩
  · exact ⟨_, by rw [List.reverse_append]; rfl⟩

theorem mem_intercalate {parts : List (List α)} {b : α} (h : b ∈ [a].intercalate parts) :
    b = a ∨ ∃ part ∈ parts, b ∈ part := by
  induction parts with
  | nil => simp at h
  | cons part parts ih =>
    cases parts with
    | nil => exact .inr ⟨part, by simp, by simpa using h⟩
    | cons next parts =>
      rw [List.intercalate_cons_cons, List.mem_append, List.mem_append, List.mem_singleton] at h
      rcases h with (h | rfl) | h
      · exact .inr ⟨part, by simp, h⟩
      · exact .inl rfl
      · rcases ih h with rfl | ⟨l, hl, hb⟩
        · exact .inl rfl
        · exact .inr ⟨l, by simp [hl], hb⟩

theorem map_intercalate (f : α → β) (a : α) (parts : List (List α)) :
    ([a].intercalate parts).map f = [f a].intercalate (parts.map (List.map f)) := by
  induction parts with
  | nil => rfl
  | cons part parts ih =>
    cases parts with
    | nil => simp
    | cons next parts =>
      rw [List.intercalate_cons_cons, List.map_append, ih]
      simp [List.intercalate_cons_cons]

theorem mem_of_mapM {f : α → Option β} {bs : List β} (h : as.mapM f = some bs) :
    ∀ b ∈ bs, ∃ a ∈ as, f a = some b := by
  induction as generalizing bs with
  | nil =>
    obtain rfl : bs = [] := by simpa [eq_comm] using h
    simp
  | cons a as ih =>
    simp only [List.mapM_cons, Option.bind_eq_bind, Option.bind_eq_some_iff, Option.pure_def,
      Option.some.injEq] at h
    obtain ⟨b, hb, rest, hr, rfl⟩ := h
    intro c hc
    rcases List.mem_cons.mp hc with rfl | hc
    · exact ⟨a, by simp, hb⟩
    · obtain ⟨x, hx, hf⟩ := ih hr c hc
      exact ⟨x, by simp [hx], hf⟩

theorem length_of_mapM {f : α → Option β} {bs : List β} (h : as.mapM f = some bs) :
    bs.length = as.length := by
  induction as generalizing bs with
  | nil =>
    obtain rfl : bs = [] := by simpa [eq_comm] using h
    rfl
  | cons a as ih =>
    simp only [List.mapM_cons, Option.bind_eq_bind, Option.bind_eq_some_iff, Option.pure_def,
      Option.some.injEq] at h
    obtain ⟨b, -, rest, hr, rfl⟩ := h
    simp [ih hr]

theorem exists_mapM {f : α → Option β} (h : ∀ a ∈ as, (f a).isSome = true) :
    ∃ bs, as.mapM f = some bs := by
  induction as with
  | nil => exact ⟨[], rfl⟩
  | cons a as ih =>
    obtain ⟨ha, has⟩ := List.forall_mem_cons.mp h
    obtain ⟨b, hb⟩ := Option.isSome_iff_exists.mp ha
    obtain ⟨bs, hbs⟩ := ih has
    exact ⟨b :: bs, by rw [List.mapM_cons, hb, hbs]; rfl⟩

/-- Parts that read back one by one read back together. -/
theorem mapM_map {f : β → Option α} {g : α → β} (h : ∀ a ∈ as, f (g a) = some a) :
    (as.map g).mapM f = some as := by
  induction as with
  | nil => rfl
  | cons a as ih =>
    rw [List.map_cons, List.mapM_cons, h a (by simp),
      ih fun b hb => h b (List.mem_cons_of_mem a hb)]
    rfl

/-- A part between marks has no mark, and nothing that was not there before. -/
theorem mem_splitOnP (h : part ∈ as.splitOnP p) : ∀ b ∈ part, p b = false ∧ b ∈ as := by
  induction as generalizing part with
  | nil => simp_all
  | cons a as ih =>
    have hmore {part : List α} (hp : part ∈ as.splitOnP p) :
        ∀ b ∈ part, p b = false ∧ b ∈ a :: as := fun b hb =>
      ⟨(ih hp b hb).1, List.mem_cons_of_mem a (ih hp b hb).2⟩
    rw [List.splitOnP_cons_eq_if_modifyHead] at h
    split at h
    · rcases List.mem_cons.mp h with rfl | h
      · simp
      · exact hmore h
    · rename_i hne
      cases hs : as.splitOnP p with
      | nil => exact (List.splitOnP_ne_nil p as hs).elim
      | cons first more =>
        rw [hs, List.modifyHead_cons] at h
        rcases List.mem_cons.mp h with rfl | h
        · exact List.forall_mem_cons.mpr
            ⟨⟨by simpa using hne, List.mem_cons_self⟩, hmore (by simp [hs])⟩
        · exact hmore (by simp [hs, h])

theorem mem_splitOn [BEq α] [LawfulBEq α] (h : part ∈ as.splitOn a) :
    a ∉ part ∧ ∀ b ∈ part, b ∈ as := by
  have hpart := mem_splitOnP (p := (· == a)) h
  refine ⟨fun ha => ?_, fun b hb => (hpart b hb).2⟩
  simpa using (hpart a ha).1

/-- A part without a mark ends before the first such mark. -/
theorem prefix_of_stop {rest : List α} (ha : a ∉ as) (h : as ++ bs = part ++ a :: rest) :
    as <+: part := by
  rcases List.append_eq_append_iff.mp h with ⟨more, rfl, -⟩ | ⟨more, rfl, hmore⟩
  · exact List.prefix_append _ _
  · cases more with
    | nil => simp
    | cons b more =>
      obtain ⟨rfl, -⟩ := List.cons_eq_cons.mp hmore
      exact (ha (by simp)).elim

/-- Behind one of the marks in a list, the rest is as told. -/
def Behind (a : α) (P : List α → Prop) (as : List α) : Prop := ∃ rest, a :: rest <:+ as ∧ P rest

theorem not_behind_nil : ¬ Behind a P [] := by
  rintro ⟨rest, h, -⟩
  simp at h

theorem behind_cons (b : α) (as : List α) :
    Behind a P (b :: as) ↔ (b = a ∧ P as) ∨ Behind a P as := by
  constructor
  · rintro ⟨rest, h, hP⟩
    rcases List.suffix_cons_iff.mp h with heq | h
    · obtain ⟨rfl, rfl⟩ := List.cons.inj heq
      exact .inl ⟨rfl, hP⟩
    · exact .inr ⟨rest, h, hP⟩
  · rintro (⟨rfl, hP⟩ | ⟨rest, h, hP⟩)
    · exact ⟨as, List.suffix_rfl, hP⟩
    · exact ⟨rest, h.trans (List.suffix_cons b as), hP⟩

theorem behind_mark (as : List α) : Behind a P (a :: as) ↔ P as ∨ Behind a P as := by
  rw [behind_cons, and_iff_right rfl]

theorem behind_other (h : b ≠ a) (as : List α) : Behind a P (b :: as) ↔ Behind a P as := by
  rw [behind_cons, or_iff_right fun hb => h hb.1]

theorem behind_append (h : a ∉ bs) (as : List α) : Behind a P (bs ++ as) ↔ Behind a P as := by
  induction bs with
  | nil => rfl
  | cons b bs ih =>
    rw [List.mem_cons, not_or] at h
    rw [List.cons_append, behind_other (Ne.symm h.1), ih h.2]

/-! Lists that stay as they are, or become shorter where something holds. -/

theorem length_le_of_shorter {Q : Prop} (h : (bs = as ∧ ¬ Q) ∨ (bs.length < as.length ∧ Q)) :
    bs.length ≤ as.length := by
  rcases h with ⟨rfl, -⟩ | ⟨h, -⟩
  · exact Nat.le_refl _
  · exact Nat.le_of_lt h

theorem eq_iff_of_shorter {Q : Prop} (h : (bs = as ∧ ¬ Q) ∨ (bs.length < as.length ∧ Q)) :
    bs = as ↔ ¬ Q := by
  rcases h with ⟨heq, hQ⟩ | ⟨hlt, hQ⟩
  · exact ⟨fun _ => hQ, fun _ => heq⟩
  · exact ⟨fun heq => absurd hlt (by simp [heq]), fun hn => (hn hQ).elim⟩

end CurlScribe.Text
