import CurlScribe.Text.Blank
import Mathlib.Data.List.DropRight

/-! What trimming keeps and drops. -/
namespace CurlScribe.Text

variable {c : Char} {cs ds bs : List Char} {s : String}

theorem trimStart_cons (h : isBlank c = true) (cs : List Char) :
    trimStart (c :: cs) = trimStart cs := by
  simp [trimStart, h]

theorem trimStart_cons_of_not (h : isBlank c = false) (cs : List Char) :
    trimStart (c :: cs) = c :: cs := by
  simp [trimStart, h]

theorem trimEnd_append (h : ∃ c ∈ ds, isBlank c = false) (cs : List Char) :
    trimEnd (cs ++ ds) = cs ++ trimEnd ds := by
  obtain ⟨c, hc, hb⟩ := h
  have hne : (ds.reverse.dropWhile isBlank).isEmpty = false := by
    rw [List.isEmpty_eq_false_iff, ne_eq, List.dropWhile_eq_nil_iff]
    intro hall
    simp [hall c (by simpa using hc)] at hb
  simp [trimEnd, List.dropWhile_append, hne]

theorem trimEnd_append_blanks (h : ∀ b ∈ bs, isBlank b = true) (cs : List Char) :
    trimEnd (cs ++ bs) = trimEnd cs := by
  have hall : bs.reverse.dropWhile isBlank = [] := by simpa using h
  simp [trimEnd, List.dropWhile_append, hall]

theorem trimEnd_isPrefix (cs : List Char) : trimEnd cs <+: cs := List.rdropWhile_prefix isBlank cs

theorem trimStart_isSuffix (cs : List Char) : trimStart cs <:+ cs := List.dropWhile_suffix isBlank

theorem mem_of_mem_trim (h : c ∈ trim cs) : c ∈ cs :=
  (trimStart_isSuffix cs).subset ((trimEnd_isPrefix _).subset h)

theorem mem_trimStart (h : isBlank c = false) (hc : c ∈ cs) : c ∈ trimStart cs := by
  have hm : c ∈ cs.takeWhile isBlank ++ cs.dropWhile isBlank := by
    rwa [List.takeWhile_append_dropWhile]
  rcases List.mem_append.mp hm with hm | hm
  · simp [List.mem_takeWhile_imp hm] at h
  · exact hm

/-- Trimming drops nothing but blanks. -/
theorem mem_trim (h : isBlank c = false) (hc : c ∈ cs) : c ∈ trim cs := by
  have hs := mem_trimStart h hc
  have he : c ∈ trimStart (trimStart cs).reverse := mem_trimStart h (by simpa using hs)
  simpa [trim, trimEnd, trimStart] using he

/-- A text without blank margins. -/
def IsTrim (cs : List Char) : Prop := trim cs = cs

instance (cs : List Char) : Decidable (IsTrim cs) := inferInstanceAs (Decidable (_ = _))

theorem trimStart_trimEnd (h : trimStart cs = cs) : trimStart (trimEnd cs) = trimEnd cs := by
  rcases trimEnd_isPrefix cs with ⟨more, hm⟩
  cases ht : trimEnd cs with
  | nil => rfl
  | cons c rest =>
    rw [ht, List.cons_append] at hm
    rw [← hm] at h
    cases hb : isBlank c with
    | false => exact trimStart_cons_of_not hb rest
    | true =>
      have hl := (trimStart_isSuffix (rest ++ more)).length_le
      rw [trimStart_cons hb] at h
      rw [h] at hl
      simp only [List.length_cons, List.length_append] at hl
      omega

theorem isTrim_trim (cs : List Char) : IsTrim (trim cs) := by
  have hs : trimStart (trimStart cs) = trimStart cs := List.dropWhile_idempotent isBlank cs
  have he : trimEnd (trimEnd (trimStart cs)) = trimEnd (trimStart cs) :=
    List.rdropWhile_idempotent isBlank _
  rw [IsTrim, trim, trim, trimStart_trimEnd hs, he]

theorem trimmed_trimmed (s : String) : trimmed (trimmed s) = trimmed s := by
  have ht : trim (trim s.toList) = trim s.toList := isTrim_trim s.toList
  simp only [trimmed, String.toList_ofList, ht]

theorem trim_cons (h : isBlank c = true) (cs : List Char) : trim (c :: cs) = trim cs := by
  rw [trim, trim, trimStart_cons h]

/-- Trimming a text that starts with something leaves its end to be trimmed. -/
theorem trim_append (hc : isBlank c = false) (cs : List Char)
    (h : ∃ c ∈ ds, isBlank c = false) : trim (c :: cs ++ ds) = c :: cs ++ trimEnd ds := by
  rw [trim, List.cons_append, trimStart_cons_of_not hc, ← List.cons_append, trimEnd_append h]

theorem trimStart_trimEnd_comm (cs : List Char) : trimStart (trimEnd cs) = trim cs := by
  induction cs with
  | nil => rfl
  | cons c cs ih =>
    cases hc : isBlank c with
    | false =>
      rw [trim, trimStart_cons_of_not hc]
      exact trimStart_trimEnd (trimStart_cons_of_not hc cs)
    | true =>
      by_cases h : ∃ d ∈ cs, isBlank d = false
      · rw [trim_cons hc, ← ih, show c :: cs = [c] ++ cs from rfl, trimEnd_append h]
        exact trimStart_cons hc _
      · have hall : ∀ d ∈ c :: cs, isBlank d = true := by
          intro d hd
          cases hb : isBlank d with
          | true => rfl
          | false =>
            rcases List.mem_cons.mp hd with rfl | hd
            · simp [hc] at hb
            · exact (h ⟨d, hd, hb⟩).elim
        have he : trimEnd (c :: cs) = [] := List.rdropWhile_eq_nil_iff.mpr hall
        have hs : trimStart (c :: cs) = [] := List.dropWhile_eq_nil_iff.mpr hall
        rw [he, trim, hs]
        rfl

theorem trim_append_blanks (h : ∀ b ∈ bs, isBlank b = true) (cs : List Char) :
    trim (cs ++ bs) = trim cs := by
  rw [← trimStart_trimEnd_comm, trimEnd_append_blanks h, trimStart_trimEnd_comm]

theorem exists_of_not_blank (h : blank s = false) : ∃ c ∈ s.toList, isBlank c = false := by
  simpa [blank] using h

theorem trimmed_of_blank (h : blank s = true) : trimmed s = "" := by
  have hall : ∀ c ∈ s.toList, isBlank c = true := by simpa [blank] using h
  rw [trimmed, trim, trimStart, List.dropWhile_eq_nil_iff.mpr hall]
  rfl

theorem trimmed_eq_empty_iff : trimmed s = "" ↔ blank s = true := by
  refine ⟨fun h => ?_, trimmed_of_blank⟩
  by_contra hb
  obtain ⟨c, hc, hblank⟩ := exists_of_not_blank (by simpa using hb)
  have hm : c ∈ (trimmed s).toList := by
    rw [trimmed, String.toList_ofList]
    exact mem_trim hblank hc
  simp [h] at hm

theorem blank_append (s t : String) : blank (s ++ t) = (blank s && blank t) := by
  simp [blank]

theorem blank_of_mem (hc : c ∈ s.toList) (h : isBlank c = false) : blank s = false := by
  simp only [blank, List.all_eq_false]
  exact ⟨c, hc, by simp [h]⟩

theorem trim_of_not_blank (h : ∀ c ∈ cs, isBlank c = false) :
    trim cs = cs := by
  have hs : trimStart cs = cs := by
    cases cs with
    | nil => rfl
    | cons c rest => exact trimStart_cons_of_not (h c (by simp)) rest
  have he : trimEnd cs = cs := by
    rw [trimEnd]
    cases hr : cs.reverse with
    | nil => simp_all
    | cons c rest =>
      have hc : isBlank c = false := h c (by rw [← List.mem_reverse, hr]; simp)
      rw [List.dropWhile_cons_of_neg (by simp [hc]), ← hr, List.reverse_reverse]
  rw [trim, hs, he]

theorem nonBlank_eq_some {o : Option String} {t : String} :
    nonBlank o = some t ↔ o = some t ∧ blank t = false := by
  simp [nonBlank, Option.filter_eq_some_iff]

theorem nonBlank_of_spoken {t : Option String} (h : ∀ s, t = some s → blank s = false) :
    nonBlank t = t := by
  cases t with
  | none => rfl
  | some s => simp [nonBlank, Option.filter, h s rfl]

theorem ne_empty_of_spoken {t : String} (h : blank t = false) : t ≠ "" := by
  rintro rfl
  exact absurd h (by decide)

theorem filter_nonBlank (s : Option String) :
    (nonBlank s).filter (· != "") = nonBlank s := by
  cases h : nonBlank s with
  | none => rfl
  | some t => simp [Option.filter, ne_empty_of_spoken (nonBlank_eq_some.mp h).2]

end CurlScribe.Text
