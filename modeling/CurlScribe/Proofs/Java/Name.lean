import CurlScribe.Java.Name
import CurlScribe.Proofs.Number.Digits
import CurlScribe.Proofs.Text.Cut
import CurlScribe.Proofs.Text.Visible

/-! Names made from free text: their characters, their first one, and that fresh ones are new. -/
namespace CurlScribe.Java

variable {c : Char} {cs w : List Char} {s base : String} {taken : List String} {n : Nat}

/-! Characters. -/

def isNameChar (c : Char) : Bool := Text.isAsciiAlnum c || c == '_'

/-- Nothing but letters, digits and low lines. -/
def IsName (cs : List Char) : Prop := ∀ c ∈ cs, isNameChar c = true

instance (cs : List Char) : Decidable (IsName cs) := List.decidableBAll _ cs

theorem isNameChar_of_isAsciiAlnum (h : Text.isAsciiAlnum c = true) : isNameChar c = true :=
  Bool.or_eq_true_iff.mpr (.inl h)

theorem ascii_of_isAsciiAlnum (h : Text.isAsciiAlnum c = true) : c.toNat < 0x80 := by
  rcases Bool.or_eq_true_iff.mp h with h | h
  · exact Text.ascii_of_isAlpha h
  · exact Text.ascii_of_isDigit h

/-- What becomes of a letter or a digit in the other case. -/
structure IsCased (c : Char) : Prop where
  upper : Text.isAsciiAlnum c.toUpper = true
  lower : Text.isAsciiAlnum c.toLower = true
  small : c.toLower.isUpper = false
  capital : c.isUpper = true → c.toUpper = c
  back : c.isUpper = false → c.toUpper.toLower = c

instance (c : Char) : Decidable (IsCased c) :=
  decidable_of_iff
    (Text.isAsciiAlnum c.toUpper = true ∧ Text.isAsciiAlnum c.toLower = true ∧
      c.toLower.isUpper = false ∧ (c.isUpper = true → c.toUpper = c) ∧
        (c.isUpper = false → c.toUpper.toLower = c))
    ⟨fun ⟨hu, hl, hs, hc, hb⟩ => ⟨hu, hl, hs, hc, hb⟩,
      fun ⟨hu, hl, hs, hc, hb⟩ => ⟨hu, hl, hs, hc, hb⟩⟩

set_option maxRecDepth 4000 in
theorem isCased_of_isAsciiAlnum (h : Text.isAsciiAlnum c = true) : IsCased c := by
  have hall : ∀ n < 0x80, Text.isAsciiAlnum (Char.ofNat n) = true → IsCased (Char.ofNat n) := by
    decide
  exact Text.of_ascii (P := fun c => Text.isAsciiAlnum c = true → IsCased c) hall
    (ascii_of_isAsciiAlnum h) h

theorem isNameChar_toUpper (h : isNameChar c = true) : isNameChar c.toUpper = true := by
  rcases Bool.or_eq_true_iff.mp h with h | h
  · exact isNameChar_of_isAsciiAlnum (isCased_of_isAsciiAlnum h).upper
  · obtain rfl := beq_iff_eq.mp h
    rfl

theorem IsName.append {ds : List Char} (hc : IsName cs) (hd : IsName ds) : IsName (cs ++ ds) :=
  fun c h => (List.mem_append.mp h).elim (hc c) (hd c)

theorem IsName.capitalize (h : IsName cs) : IsName (capitalize cs) := by
  cases cs with
  | nil => exact h
  | cons c cs =>
    exact List.forall_mem_cons.mpr ⟨isNameChar_toUpper (h c (by simp)), fun d hd =>
      h d (by simp [hd])⟩

theorem IsName.guardDigit (h : IsName cs) : IsName (guardDigit cs) := by
  unfold Java.guardDigit
  split
  · split
    · exact List.forall_mem_cons.mpr ⟨rfl, h⟩
    · exact h
  · exact h

theorem isName_of_digits (h : ∀ c ∈ cs, c.isDigit = true) : IsName cs := fun c hc => by
  simp [isNameChar, Text.isAsciiAlnum, h c hc]

/-! Words. -/

/-- Nothing but letters and digits. -/
def IsRun (cs : List Char) : Prop := ∀ c ∈ cs, Text.isAsciiAlnum c = true

theorem IsRun.isName (h : IsRun cs) : IsName cs := fun c hc => isNameChar_of_isAsciiAlnum (h c hc)

theorem IsRun.capitalize (h : IsRun cs) : IsRun (capitalize cs) := by
  cases cs with
  | nil => exact h
  | cons c cs =>
    exact List.forall_mem_cons.mpr ⟨(isCased_of_isAsciiAlnum (h c (by simp))).upper, fun d hd =>
      h d (by simp [hd])⟩

theorem IsRun.toLower (h : IsRun cs) : IsRun (cs.map Char.toLower) := by
  intro c hc
  obtain ⟨d, hd, rfl⟩ := List.mem_map.mp hc
  exact (isCased_of_isAsciiAlnum (h d hd)).lower

theorem flatten_humps (cs : List Char) : (humps cs).flatten = cs := by
  fun_induction humps cs <;> simp_all

theorem humps_ne_nil (h : w ∈ humps cs) : w ≠ [] := by
  fun_induction humps cs <;> simp_all <;> grind

/-- A word has at least one letter or digit, and nothing else. -/
theorem mem_words (h : w ∈ words cs) : w ≠ [] ∧ IsRun w := by
  obtain ⟨run, hrun, hw⟩ := List.mem_flatMap.mp h
  refine ⟨humps_ne_nil hw, fun c hc => ?_⟩
  have hmem : c ∈ run := by
    rw [← flatten_humps run]
    exact List.mem_flatten.mpr ⟨w, hw, hc⟩
  have hplain := (Text.mem_splitOnP (List.mem_filter.mp hrun).1 c hmem).1
  simpa using hplain

theorem isName_of_mem_words (h : w ∈ words cs) : IsName w := (mem_words h).2.isName

theorem isRun_capitalized {ws : List (List Char)} (h : ∀ w ∈ ws, IsRun w) :
    IsRun (ws.flatMap capitalize) := by
  intro c hc
  obtain ⟨w, hw, hc⟩ := List.mem_flatMap.mp hc
  exact (h w hw).capitalize c hc

theorem isName_capitalized {ws : List (List Char)} (h : ∀ w ∈ ws, IsName w) :
    IsName (ws.flatMap capitalize) := by
  intro c hc
  obtain ⟨w, hw, hc⟩ := List.mem_flatMap.mp hc
  exact (h w hw).capitalize c hc

/-! Names. -/

theorem isName_pascalCase (s : String) : IsName (pascalCase s).toList := by
  rw [pascalCase, String.toList_ofList]
  exact (isName_capitalized fun w hw => isName_of_mem_words hw).guardDigit

theorem isName_camelCase (s : String) : IsName (camelCase s).toList := by
  unfold camelCase
  split
  · decide
  · rename_i w ws hwords
    have hrun (v : List Char) (hv : v ∈ w :: ws) : IsRun v := (mem_words (hwords ▸ hv)).2
    have hrest : IsName (ws.flatMap capitalize) :=
      isName_capitalized fun v hv => (hrun v (by simp [hv])).isName
    rw [String.toList_ofList]
    exact ((hrun w (by simp)).toLower.isName.append hrest).guardDigit

/-- A text without words has a name of its own, and keywords are changed. -/
theorem identifier_cases (s : String) :
    (camelCase s = "" ∧ identifier s = "value") ∨
      (camelCase s ≠ "" ∧ isKeyword (camelCase s) = true ∧ identifier s = camelCase s ++ "_") ∨
      (camelCase s ≠ "" ∧ isKeyword (camelCase s) = false ∧ identifier s = camelCase s) := by
  simp only [identifier]
  split
  · simp_all
  · split <;> simp_all

theorem isName_identifier (s : String) : IsName (identifier s).toList := by
  obtain ⟨-, heq⟩ | ⟨-, -, heq⟩ | ⟨-, -, heq⟩ := identifier_cases s
  · rw [heq]
    decide
  · rw [heq, String.toList_append]
    exact (isName_camelCase s).append (by decide)
  · rw [heq]
    exact isName_camelCase s

theorem isName_segmentName (segment : List Char) : IsName (segmentName segment).toList := by
  unfold segmentName
  split
  · split
    · rw [String.toList_append]
      exact IsName.append (by decide) (isName_pascalCase _)
    · exact isName_pascalCase _
  · exact isName_pascalCase _

theorem isName_methodName (m : Method) (path : String) : IsName (methodName m path).toList := by
  have hverb : IsName m.lowerName.toList := by cases m <;> decide
  rw [methodName, String.toList_append]
  refine hverb.append ?_
  split
  · decide
  · intro c hc
    rw [String.toList_join, List.mem_flatMap] at hc
    obtain ⟨name, hn, hc⟩ := hc
    obtain ⟨segment, -, rfl⟩ := List.mem_map.mp hn
    exact isName_segmentName segment c hc

/-! The first character. -/

/-- There is a first character, and it is no capital. -/
def StartsLow (cs : List Char) : Prop := ∃ c rest, cs = c :: rest ∧ c.isUpper = false

theorem StartsLow.append {ds : List Char} (h : StartsLow cs) : StartsLow (cs ++ ds) := by
  obtain ⟨c, rest, rfl, hc⟩ := h
  exact ⟨c, rest ++ ds, rfl, hc⟩

theorem StartsLow.guardDigit (h : StartsLow cs) : StartsLow (guardDigit cs) := by
  obtain ⟨c, rest, rfl, hc⟩ := h
  simp only [Java.guardDigit]
  split
  · exact ⟨'_', c :: rest, rfl, rfl⟩
  · exact ⟨c, rest, rfl, hc⟩

/-- The words in one run, which starts with a small letter or a digit. -/
theorem exists_camelCase (h : camelCase s ≠ "") : ∃ c cs,
    camelCase s = String.ofList (guardDigit (c :: cs)) ∧ IsRun (c :: cs) ∧ c.isUpper = false := by
  cases hwords : words s.toList with
  | nil => exact (h (by rw [camelCase, hwords])).elim
  | cons w ws =>
    have hmem (v : List Char) (hv : v ∈ w :: ws) : v ≠ [] ∧ IsRun v := mem_words (hwords ▸ hv)
    obtain ⟨⟨c, rest, rfl⟩, hw⟩ := (hmem w (by simp)).imp_left List.exists_cons_of_ne_nil
    refine ⟨c.toLower, rest.map Char.toLower ++ ws.flatMap capitalize, ?_, ?_, ?_⟩
    · rw [camelCase, hwords]
      rfl
    · have hrest : IsRun (ws.flatMap capitalize) :=
        isRun_capitalized fun v hv => (hmem v (by simp [hv])).2
      exact List.forall_mem_append.mpr ⟨hw.toLower, hrest⟩
    · exact (isCased_of_isAsciiAlnum (hw c (by simp))).small

theorem startsLow_camelCase (h : camelCase s ≠ "") : StartsLow (camelCase s).toList := by
  obtain ⟨c, cs, heq, -, hc⟩ := exists_camelCase h
  have hlow : StartsLow (c :: cs) := ⟨c, cs, rfl, hc⟩
  rw [heq, String.toList_ofList]
  exact hlow.guardDigit

theorem startsLow_identifier (s : String) : StartsLow (identifier s).toList := by
  obtain ⟨-, heq⟩ | ⟨hne, -, heq⟩ | ⟨hne, -, heq⟩ := identifier_cases s
  · rw [heq]
    exact ⟨'v', _, rfl, rfl⟩
  · rw [heq, String.toList_append]
    exact (startsLow_camelCase hne).append
  · rw [heq]
    exact startsLow_camelCase hne

theorem isAsciiAlnum_eq (c : Char) :
    Text.isAsciiAlnum c = (c.isUpper || c.isLower || c.isDigit) := rfl

theorem toUpper_of_not_isLower (h : c.isLower = false) : c.toUpper = c := dif_neg fun hrange => by
  have hlow : c.isLower = true :=
    Bool.and_eq_true_iff.mpr ⟨decide_eq_true hrange.1, decide_eq_true hrange.2⟩
  simp [h] at hlow

theorem toLower_toUpper (h : c.isUpper = false) : c.toUpper.toLower = c := by
  cases hl : c.isLower with
  | true =>
    have hc : Text.isAsciiAlnum c = true := by simp [isAsciiAlnum_eq, hl]
    exact (isCased_of_isAsciiAlnum hc).back h
  | false => rw [toUpper_of_not_isLower hl, Text.toLower_of_not_isUpper h]

/-- Names that do not start with a capital stay apart when they get one. -/
theorem capitalize_inj {ds : List Char} (hc : StartsLow cs) (hd : StartsLow ds)
    (h : capitalize cs = capitalize ds) : cs = ds := by
  obtain ⟨c, cs, rfl, hc⟩ := hc
  obtain ⟨d, ds, rfl, hd⟩ := hd
  obtain ⟨hhead, rfl⟩ := List.cons_eq_cons.mp h
  rw [← toLower_toUpper hc, hhead, toLower_toUpper hd]

/-! Names made from names. -/

theorem humps_cons (c : Char) (cs : List Char) : ∃ w ws, humps (c :: cs) = (c :: w) :: ws := by
  have hflat := flatten_humps (c :: cs)
  cases h : humps (c :: cs) with
  | nil => simp [h] at hflat
  | cons v ws =>
    obtain ⟨d, w, rfl⟩ := List.exists_cons_of_ne_nil (humps_ne_nil (h ▸ List.mem_cons_self))
    rw [h, List.flatten_cons, List.cons_append] at hflat
    obtain ⟨rfl, -⟩ := List.cons_eq_cons.mp hflat
    exact ⟨w, ws, rfl⟩

/-- A run is broken before its capitals only. -/
theorem capitalize_of_mem_humps {ws : List (List Char)} (h : humps cs = w :: ws) :
    ∀ v ∈ ws, capitalize v = v := by
  fun_induction humps cs generalizing w ws with
  | case1 => simp at h
  | case2 c => simp_all
  | case3 c d rest hbreak ih =>
    obtain ⟨-, rfl⟩ := List.cons_eq_cons.mp h
    obtain ⟨v, vs, hv⟩ := humps_cons d rest
    have hup : d.isUpper = true := (Bool.and_eq_true_iff.mp hbreak).2
    have hrun : Text.isAsciiAlnum d = true := by simp [isAsciiAlnum_eq, hup]
    have hd : d.toUpper = d := (isCased_of_isAsciiAlnum hrun).capital hup
    rw [hv]
    refine List.forall_mem_cons.mpr ⟨by simp [capitalize, hd], ih hv⟩
  | case4 c d rest hbreak v vs heq ih =>
    obtain ⟨-, rfl⟩ := List.cons_eq_cons.mp h
    exact ih heq
  | case5 c d rest hbreak heq ih => simp_all

/-- Up to its first break a run that starts low stays low. -/
theorem toLower_of_humps {ws : List (List Char)} (hrun : IsRun (c :: cs)) (hc : c.isUpper = false)
    (h : humps (c :: cs) = w :: ws) : w.map Char.toLower = w := by
  have hlower : c.toLower = c := Text.toLower_of_not_isUpper hc
  induction cs generalizing c w ws with
  | nil =>
    obtain ⟨rfl, -⟩ := List.cons_eq_cons.mp h
    simp [hlower]
  | cons d rest ih =>
    have hlow : (c.isLower || c.isDigit) = true := by
      have halnum := hrun c (by simp)
      simp only [isAsciiAlnum_eq, hc, Bool.false_or] at halnum
      exact halnum
    cases hd : d.isUpper with
    | true =>
      simp only [humps, hlow, hd, Bool.and_true, if_true] at h
      obtain ⟨rfl, -⟩ := List.cons_eq_cons.mp h
      simp [hlower]
    | false =>
      obtain ⟨v, vs, hv⟩ := humps_cons d rest
      simp only [humps, hd, Bool.and_false, Bool.false_eq_true, if_false, hv] at h
      obtain ⟨rfl, -⟩ := List.cons_eq_cons.mp h
      have hrest := ih (fun e he => hrun e (by simp_all)) hd hv (Text.toLower_of_not_isUpper hd)
      rw [List.map_cons, hlower, hrest]

theorem words_guardDigit (h : IsRun cs) (hne : cs ≠ []) : words (guardDigit cs) = humps cs := by
  have hwhole : cs.splitOnP (fun c => !Text.isAsciiAlnum c) = [cs] :=
    List.splitOnP_eq_singleton fun c hc => by simp [h c hc]
  have hsep : (!Text.isAsciiAlnum '_') = true := by decide
  unfold guardDigit
  split
  · split
    · simp [words, List.splitOnP_cons_eq_if_modifyHead, hsep, hwhole]
    · simp [words, hwhole]
  · exact (hne rfl).elim

theorem flatMap_capitalize_tail {ws : List (List Char)} (h : humps cs = w :: ws) :
    ws.flatMap capitalize = ws.flatten := by
  rw [List.flatMap_def, List.map_congr_left (capitalize_of_mem_humps h), List.map_id']

/-- A name in camel case is left as it is. -/
theorem camelCase_idem (s : String) : camelCase (camelCase s) = camelCase s := by
  by_cases hempty : camelCase s = ""
  · rw [hempty]
    rfl
  · obtain ⟨c, cs, heq, hrun, hc⟩ := exists_camelCase hempty
    obtain ⟨w, ws, hhumps⟩ := humps_cons c cs
    have hflat := flatten_humps (c :: cs)
    rw [heq, camelCase, String.toList_ofList, words_guardDigit hrun (by simp), hhumps]
    simp only
    rw [toLower_of_humps hrun hc hhumps, flatMap_capitalize_tail hhumps, ← List.flatten_cons,
      ← hhumps, hflat]

/-! Fresh names. -/

theorem toList_toString (n : Nat) : (toString n).toList = decimalDigits n := Nat.toList_repr

theorem append_toString_inj {m n : Nat} : base ++ toString m = base ++ toString n ↔ m = n := by
  refine ⟨fun h => ?_, fun h => h ▸ rfl⟩
  have hdigits : decimalDigits m = decimalDigits n := by
    have hlist := congrArg String.toList h
    rwa [String.toList_append, String.toList_append, toList_toString, toList_toString,
      List.append_cancel_left_eq] at hlist
  rw [← digitsValue_decimalDigits m, hdigits, digitsValue_decimalDigits]

/-- A numbered name is new, and those with a smaller number are taken. -/
theorem numbered_spec (base : String) (taken : List String) (n : Nat) :
    numbered base taken n ∉ taken ∧ ∃ k ≥ n, numbered base taken n = base ++ toString k ∧
      ∀ j, n ≤ j → j < k → base ++ toString j ∈ taken := by
  fun_induction numbered base taken n with
  | case1 taken n candidate hmem ih =>
    obtain ⟨hnew, k, hk, heq, hbelow⟩ := ih
    refine ⟨?_, k, by omega, heq, ?_⟩
    · intro htaken
      have hne : numbered base (taken.erase candidate) (n + 1) ≠ candidate := by
        rw [heq]
        intro h
        have := append_toString_inj.mp h
        omega
      exact hnew ((List.mem_erase_of_ne hne).mpr htaken)
    · intro j hj hjk
      by_cases hsame : j = n
      · exact hsame ▸ hmem
      · exact List.mem_of_mem_erase (hbelow j (by omega) hjk)
  | case2 taken n candidate hmem =>
    refine ⟨hmem, n, le_refl n, rfl, ?_⟩
    intro j hj hjn
    omega

theorem fresh_not_mem (taken : List String) (base : String) : fresh taken base ∉ taken := by
  unfold fresh
  split
  · exact (numbered_spec base taken 2).1
  · assumption

/-- A fresh name is the name it is made from, with digits behind it. -/
theorem fresh_eq (taken : List String) (base : String) :
    ∃ ds : List Char, (∀ d ∈ ds, d.isDigit = true) ∧
      (fresh taken base).toList = base.toList ++ ds := by
  unfold fresh
  split
  · obtain ⟨-, k, -, hk, -⟩ := numbered_spec base taken 2
    exact ⟨decimalDigits k, fun d hd => isDigit_of_mem_decimalDigits hd, by
      rw [hk, String.toList_append, toList_toString]⟩
  · exact ⟨[], by simp, by simp⟩

theorem isName_fresh (h : IsName base.toList) : IsName (fresh taken base).toList := by
  obtain ⟨ds, hds, heq⟩ := fresh_eq taken base
  rw [heq]
  exact h.append (isName_of_digits hds)

/-- A name that is another one with a number behind it. -/
structure IsNumbered (base name : String) : Prop where
  before : base.toList <+: name.toList
  differs : base ≠ name
  digits : (name.toList.drop base.toList.length).all Char.isDigit = true

instance (base name : String) : Decidable (IsNumbered base name) :=
  decidable_of_iff (base.toList <+: name.toList ∧ base ≠ name ∧
      (name.toList.drop base.toList.length).all Char.isDigit = true)
    ⟨fun h => ⟨h.1, h.2.1, h.2.2⟩, fun h => ⟨h.before, h.differs, h.digits⟩⟩

theorem isNumbered_append (base : String) (n : Nat) : IsNumbered base (base ++ toString n) := by
  have hlist : (base ++ toString n).toList = base.toList ++ decimalDigits n := by
    rw [String.toList_append, toList_toString]
  refine ⟨⟨decimalDigits n, hlist.symm⟩, ?_, ?_⟩
  · intro hsame
    rw [← hsame] at hlist
    exact decimalDigits_ne_nil n (List.self_eq_append_right.mp hlist)
  · rw [hlist, List.drop_left, List.all_eq_true]
    exact fun d hd => isDigit_of_mem_decimalDigits hd

/-- What is tried for a fresh name: the name it is made from, and that name with a number for as
long as all names before it are taken. -/
inductive IsTried (taken : List String) (base : String) : String → Prop
  | plain : IsTried taken base base
  | numbered {n : Nat} : base ∈ taken → 2 ≤ n →
      (∀ k, 2 ≤ k → k < n → base ++ toString k ∈ taken) → IsTried taken base (base ++ toString n)

theorem IsTried.eq_of_not_isNumbered {name : String} (h : IsTried taken base name)
    (hname : ¬ IsNumbered base name) : base = name := by
  cases h with
  | plain => rfl
  | numbered _ _ _ => exact absurd (isNumbered_append base _) hname

/-- The fresh name is the one that is tried and not taken. -/
theorem fresh_eq_iff {name : String} :
    fresh taken base = name ↔ name ∉ taken ∧ IsTried taken base name := by
  constructor
  · rintro rfl
    refine ⟨fresh_not_mem taken base, ?_⟩
    unfold fresh
    split
    · rename_i hbase
      obtain ⟨-, k, hk, heq, hbelow⟩ := numbered_spec base taken 2
      rw [heq]
      exact .numbered hbase hk hbelow
    · exact .plain
  · rintro ⟨hnew, htried⟩
    cases htried with
    | plain => exact if_neg hnew
    | @numbered n hbase hn hbelow =>
      obtain ⟨hfree, k, hk, heq, hall⟩ := numbered_spec base taken 2
      rw [heq] at hfree
      have hge : n ≤ k := by
        by_contra hlt
        exact hfree (hbelow k hk (by omega))
      have hle : k ≤ n := by
        by_contra hlt
        exact hnew (hall n hn (by omega))
      rw [fresh, if_pos hbase, heq, Nat.le_antisymm hle hge]

/-- The last character of a numbered name is a digit. -/
theorem IsNumbered.isDigit_getLast {name : String} (h : IsNumbered base name) :
    ∃ d, name.toList.getLast? = some d ∧ d.isDigit = true := by
  obtain ⟨ds, hlist⟩ := h.before
  rcases List.eq_nil_or_concat ds with rfl | ⟨init, d, rfl⟩
  · rw [List.append_nil] at hlist
    exact (h.differs (String.toList_inj.mp hlist)).elim
  · refine ⟨d, ?_, ?_⟩
    · rw [← hlist, List.concat_eq_append, ← List.append_assoc, List.getLast?_concat]
    · apply List.all_eq_true.mp h.digits
      rw [← hlist, List.drop_left]
      simp

end CurlScribe.Java
