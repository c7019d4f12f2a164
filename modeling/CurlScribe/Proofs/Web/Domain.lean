import CurlScribe.Proofs.Web.Punycode
import CurlScribe.Web.Domain

/-! Names in their ASCII form are their own ASCII form. -/
namespace CurlScribe.Domain

variable {n : Nat} {c : Char} {cs name : List Char} {ns label : List Nat}
  {labels : List (List Nat)}

/-! ASCII is composed already. -/

theorem combiningClass_ascii (h : n < 0x80) : combiningClass n = 0 := by
  rw [combiningClass, if_pos h]

theorem parts_ascii (h : n < 0x80) (table : List (Nat × Nat × Nat)) (depth : Nat) :
    parts table depth n = [n] := by
  cases depth with
  | zero => rw [parts]
  | succ depth => rw [parts, if_pos h]

theorem orderMarks_ascii (h : ∀ n ∈ ns, n < 0x80) : orderMarks ns = ns := by
  induction ns with
  | nil => rfl
  | cons n ns ih =>
    have hrest := ih fun m hm => h m (List.mem_cons_of_mem n hm)
    rw [orderMarks] at hrest
    rw [orderMarks, List.foldr_cons, hrest]
    cases ns with
    | nil => rfl
    | cons m ns => simp [place, combiningClass_ascii (h m (by simp))]

theorem composeFrom_ascii (h : ∀ n ∈ ns, n < 0x80) (starter : Nat) :
    composeFrom starter [] ns = starter :: ns := by
  induction ns generalizing starter with
  | nil => rfl
  | cons n ns ih =>
    have hn := h n (by simp)
    have hc : compose? starter n = none := by rw [compose?, if_pos hn]
    rw [composeFrom, if_pos rfl, hc]
    dsimp only
    rw [if_pos (combiningClass_ascii hn), ih fun m hm => h m (List.mem_cons_of_mem n hm)]
    rfl

theorem normalForm_ascii (h : ∀ n ∈ ns, n < 0x80) : normalForm ns = ns := by
  have hparts : ns.flatMap (parts composed compositionDepth) = ns := by
    refine (List.flatMap_congr fun n hn => parts_ascii (h n hn) _ _).trans ?_
    simp
  rw [normalForm, hparts, orderMarks_ascii h]
  cases ns with
  | nil => rfl
  | cons n ns =>
    rw [composeAll, if_pos (combiningClass_ascii (h n (by simp))),
      composeFrom_ascii fun m hm => h m (List.mem_cons_of_mem n hm)]

theorem joinersFit_ascii (h : ∀ n ∈ ns, n < 0x80) (before : List Nat) :
    joinersFit before ns = true := by
  induction ns generalizing before with
  | nil => rfl
  | cons n ns ih =>
    have hn := h n (by simp)
    have h1 : n ≠ joiner := by
      unfold joiner
      omega
    have h2 : n ≠ nonJoiner := by
      unfold nonJoiner
      omega
    rw [joinersFit, if_neg h1, if_neg h2, ih fun m hm => h m (List.mem_cons_of_mem n hm)]
    rfl

theorem mapAll_kept (h : ∀ n ∈ ns, mapped? n = some [n]) : mapAll? ns = some ns := by
  induction ns with
  | nil => rfl
  | cons n ns ih =>
    rw [mapAll?, h n (by simp), ih fun m hm => h m (List.mem_cons_of_mem n hm)]
    rfl

/-! Labels. -/

/-- A label that a name may have. -/
structure IsLabel (label : List Nat) : Prop where
  sound : isSound label = true
  noDot : '.'.toNat ∉ label

theorem isKept_of_sound (h : isSound label = true) : ∀ n ∈ label, isKept n = true := by
  simp only [isSound, Bool.and_eq_true, List.all_eq_true] at h
  exact h.1.1.1.2

theorem not_coded_of_sound (h : isSound label = true) : codedPrefix.isPrefixOf label = false := by
  simp only [isSound, Bool.and_eq_true, Bool.not_eq_true'] at h
  exact h.2

theorem mapped_of_kept (h : isKept n = true) : n.isValidChar ∧ mapped? n = some [n] := by
  simpa [isKept] using h

theorem map_ofNat_toNat (h : ∀ n ∈ ns, n < 0x80) : (ns.map Char.ofNat).map Char.toNat = ns := by
  rw [List.map_map]
  exact (List.map_congr_left fun n hn => Text.toNat_ofNat (h n hn)).trans (List.map_id ns)

theorem map_toNat_ofNat (cs : List Char) : (cs.map Char.toNat).map Char.ofNat = cs := by
  simp [Function.comp_def]

/-- What is read as the text of a label is one. -/
theorem isLabel_of_labelText {text : List Nat} (h : labelText? label = some text)
    (hdot : '.'.toNat ∉ label) : IsLabel text := by
  unfold labelText? at h
  split at h
  · split at h
    · rename_i hascii
      obtain ⟨found, hfound, ht⟩ := Option.bind_eq_some_iff.mp h
      obtain ⟨hsound, heq⟩ := Option.ite_none_right_eq_some.mp ht
      obtain rfl := Option.some.inj heq
      refine ⟨(Bool.and_eq_true_iff.mp hsound).2, fun hm => ?_⟩
      rcases Punycode.mem_of_decode hfound hm with hm | hm
      · rw [map_ofNat_toNat] at hm
        · exact hdot (List.mem_of_mem_drop hm)
        · intro n hn
          have hall := List.all_eq_true.mp hascii n (List.mem_of_mem_drop hn)
          exact of_decide_eq_true hall
      · exact absurd hm (by decide)
    · simp at h
  · obtain ⟨hsound, heq⟩ := Option.ite_none_right_eq_some.mp h
    obtain rfl := Option.some.inj heq
    exact ⟨hsound, hdot⟩

/-- ASCII, and no capital letter. -/
def isLowAscii (c : Char) : Bool := c.toNat < 0x80 && !(0x41 ≤ c.toNat && c.toNat ≤ 0x5A)

theorem ascii_of_isLowAscii (h : isLowAscii c = true) : c.toNat < 0x80 := by
  simp only [isLowAscii, Bool.and_eq_true, decide_eq_true_eq] at h
  exact h.1

theorem mapped_ascii (h : n < 0x80) :
    mapped? n = some [if 0x41 ≤ n && n ≤ 0x5A then n + 0x20 else n] := by
  rw [mapped?, if_pos h]

theorem mapped_of_isLowAscii (h : isLowAscii c = true) : mapped? c.toNat = some [c.toNat] := by
  simp only [isLowAscii, Bool.and_eq_true, Bool.not_eq_true', decide_eq_true_eq] at h
  rw [mapped_ascii h.1, h.2]
  rfl

theorem isLowAscii_of_kept (hlt : n < 0x80) (h : isKept n = true) :
    isLowAscii (Char.ofNat n) = true := by
  have hm := (mapped_of_kept h).2
  rw [mapped_ascii hlt] at hm
  simp only [isLowAscii, Text.toNat_ofNat hlt, hlt, decide_true, Bool.true_and, Bool.not_eq_true']
  by_contra hcap
  rw [Bool.not_eq_false] at hcap
  simp [hcap] at hm

theorem isLowAscii_of_isDigitChar (h : Punycode.isDigitChar c = true) :
    isLowAscii c = true ∧ c ≠ '.' := by
  obtain ⟨v, hv, hc⟩ := List.any_eq_true.mp h
  have hall : ∀ v ∈ List.range 36, isLowAscii (Punycode.digitChar v) = true ∧
      Punycode.digitChar v ≠ '.' := by
    decide +kernel
  rw [beq_iff_eq.mp hc]
  exact hall v hv

/-- The characters of a written label. -/
theorem mem_asciiLabel (h : IsLabel label) (hc : c ∈ asciiLabel label) :
    isLowAscii c = true ∧ c ≠ '.' := by
  have hplain (n : Nat) (hn : n ∈ label) (hlt : n < 0x80) :
      isLowAscii (Char.ofNat n) = true ∧ Char.ofNat n ≠ '.' := by
    refine ⟨isLowAscii_of_kept hlt (isKept_of_sound h.sound n hn), fun hdot => ?_⟩
    have hn' : n = '.'.toNat := by rw [← hdot, Text.toNat_ofNat hlt]
    exact h.noDot (hn' ▸ hn)
  unfold asciiLabel at hc
  split at hc
  · rename_i hascii
    obtain ⟨n, hn, rfl⟩ := List.mem_map.mp hc
    exact hplain n hn (of_decide_eq_true (List.all_eq_true.mp hascii n hn))
  · rw [Punycode.encode_eq, List.mem_append, List.mem_append] at hc
    rcases hc with hc | hc | hc
    · have hx : "xn--".toList = ['x', 'n', '-', '-'] := rfl
      have hall : ∀ c ∈ ['x', 'n', '-', '-'], isLowAscii c = true ∧ c ≠ '.' := by
        simp [isLowAscii]
      exact hall c (hx ▸ hc)
    · split at hc
      · simp at hc
      · rcases List.mem_append.mp hc with hc | hc
        · obtain ⟨n, hn, rfl⟩ := List.mem_map.mp hc
          obtain ⟨hmem, hlt⟩ := List.mem_filter.mp hn
          exact hplain n hmem (of_decide_eq_true hlt)
        · rw [List.mem_singleton.mp hc]
          decide
    · exact isLowAscii_of_isDigitChar (Punycode.isDigitChar_of_mem_codeOf hc)

/-- The written form of a label is read as the label. -/
theorem labelText_asciiLabel (h : IsLabel label) :
    labelText? ((asciiLabel label).map Char.toNat) = some label := by
  have hcoded := not_coded_of_sound h.sound
  cases hascii : isAscii label with
  | true =>
    have hlt : ∀ n ∈ label, n < 0x80 := by simpa [isAscii] using hascii
    rw [asciiLabel, if_pos hascii, map_ofNat_toNat hlt]
    simp [labelText?, hcoded, h.sound]
  | false =>
    have hvalid : ∀ n ∈ label, n.isValidChar := fun n hn =>
      (mapped_of_kept (isKept_of_sound h.sound n hn)).1
    have hwritten : isAscii ((asciiLabel label).map Char.toNat) = true := by
      simp only [isAscii, List.all_map, List.all_eq_true]
      exact fun c hc => decide_eq_true (ascii_of_isLowAscii (mem_asciiLabel h hc).1)
    have heq : (asciiLabel label).map Char.toNat =
        codedPrefix ++ (Punycode.encode label).map Char.toNat := by
      rw [asciiLabel, if_neg (by simp [hascii]), List.map_append]
      rfl
    have hprefix : codedPrefix.isPrefixOf
        (codedPrefix ++ (Punycode.encode label).map Char.toNat) = true :=
      List.isPrefixOf_iff_prefix.mpr (List.prefix_append _ _)
    rw [heq] at hwritten ⊢
    rw [labelText?, if_pos hprefix, if_pos hwritten, List.drop_left, map_toNat_ofNat,
      Punycode.decode_encode hvalid]
    simp [hascii, h.sound]

/-! Names. -/

/-- The labels of a name agree in their directions. -/
def directionsAgree (labels : List (List Nat)) : Bool :=
  if labels.any fun label => label.any runsRightToLeft then labels.all directionsFit else true

def nameOf (labels : List (List Nat)) : List Char := ['.'].intercalate (labels.map asciiLabel)

theorem toAscii_eq_some_iff : toAscii? cs = some name ↔ ∃ mapped labels,
    mapAll? (cs.map Char.toNat) = some mapped ∧
      ((normalForm mapped).splitOn '.'.toNat).mapM labelText? = some labels ∧
        directionsAgree labels = true ∧ name = nameOf labels ∧ name.any isForbidden = false := by
  simp only [toAscii?, Option.bind_eq_bind, Option.bind_eq_some_iff]
  constructor
  · rintro ⟨mapped, hm, labels, hl, h⟩
    obtain ⟨hfits, heq⟩ := Option.ite_none_right_eq_some.mp h
    obtain rfl := Option.some.inj heq
    rw [Bool.and_eq_true, Bool.not_eq_true'] at hfits
    exact ⟨mapped, labels, hm, hl, hfits.1, rfl, hfits.2⟩
  · rintro ⟨mapped, labels, hm, hl, hfits, rfl, hforbidden⟩
    refine ⟨mapped, hm, labels, hl, Option.ite_none_right_eq_some.mpr ⟨?_, rfl⟩⟩
    rw [Bool.and_eq_true, Bool.not_eq_true']
    exact ⟨hfits, hforbidden⟩

theorem labels_of_toAscii (h : toAscii? cs = some name) : ∃ labels, labels ≠ [] ∧
    (∀ label ∈ labels, IsLabel label) ∧ directionsAgree labels = true ∧ name = nameOf labels ∧
      name.any isForbidden = false := by
  obtain ⟨mapped, labels, -, hl, hfits, hname, hforbidden⟩ := toAscii_eq_some_iff.mp h
  refine ⟨labels, ?_, ?_, hfits, hname, hforbidden⟩
  · rintro rfl
    have hlength := Text.length_of_mapM hl
    exact List.splitOn_ne_nil _ _ (List.length_eq_zero_iff.mp hlength.symm)
  · intro label hlabel
    obtain ⟨part, hp, ht⟩ := Text.mem_of_mapM hl label hlabel
    exact isLabel_of_labelText ht (Text.mem_splitOn hp).1

theorem mem_nameOf (h : ∀ label ∈ labels, IsLabel label) (hc : c ∈ nameOf labels) :
    isLowAscii c = true := by
  rcases Text.mem_intercalate hc with rfl | ⟨part, hp, hc⟩
  · decide
  · obtain ⟨label, hl, rfl⟩ := List.mem_map.mp hp
    exact (mem_asciiLabel (h label hl) hc).1

/-- A name put together from labels is its own ASCII form. -/
theorem toAscii_nameOf (hne : labels ≠ []) (h : ∀ label ∈ labels, IsLabel label)
    (hfits : directionsAgree labels = true) (hforbidden : (nameOf labels).any isForbidden = false) :
    toAscii? (nameOf labels) = some (nameOf labels) := by
  refine toAscii_eq_some_iff.mpr ⟨(nameOf labels).map Char.toNat, labels, ?_, ?_, hfits, rfl,
    hforbidden⟩
  · refine mapAll_kept fun n hn => ?_
    obtain ⟨c, hc, rfl⟩ := List.mem_map.mp hn
    exact mapped_of_isLowAscii (mem_nameOf h hc)
  · have hascii : ∀ n ∈ (nameOf labels).map Char.toNat, n < 0x80 := by
      intro n hn
      obtain ⟨c, hc, rfl⟩ := List.mem_map.mp hn
      exact ascii_of_isLowAscii (mem_nameOf h hc)
    rw [normalForm_ascii hascii, nameOf, Text.map_intercalate, List.splitOn_intercalate,
      List.map_map]
    · exact Text.mapM_map fun label hl => labelText_asciiLabel (h label hl)
    · intro part hp hm
      obtain ⟨_, hcs, rfl⟩ := List.mem_map.mp hp
      obtain ⟨label, hl, rfl⟩ := List.mem_map.mp hcs
      obtain ⟨c, hc, hdot⟩ := List.mem_map.mp hm
      exact (mem_asciiLabel (h label hl) hc).2 (Char.toNat_inj.mp hdot)
    · simpa using hne

/-- The ASCII form of a name is its own ASCII form. -/
theorem toAscii_idem (h : toAscii? cs = some name) : toAscii? name = some name := by
  obtain ⟨labels, hne, hlabels, hfits, rfl, hforbidden⟩ := labels_of_toAscii h
  exact toAscii_nameOf hne hlabels hfits hforbidden

/-! Names of digits. -/

theorem isLowAscii_of_isDigit (h : c.isDigit = true) : isLowAscii c = true ∧ c ≠ '.' ∧ c ≠ 'x' ∧
    isForbidden c = false := by
  have hall : ∀ n < 0x80, (Char.ofNat n).isDigit = true → isLowAscii (Char.ofNat n) = true ∧
      Char.ofNat n ≠ '.' ∧ Char.ofNat n ≠ 'x' ∧ isForbidden (Char.ofNat n) = false := by
    decide +kernel
  exact Text.of_ascii (P := fun c => c.isDigit = true → isLowAscii c = true ∧ c ≠ '.' ∧ c ≠ 'x' ∧
    isForbidden c = false) hall (Text.ascii_of_isDigit h) h

theorem isLabel_digits (h : ∀ c ∈ cs, c.isDigit = true) : IsLabel (cs.map Char.toNat) := by
  have hascii : ∀ n ∈ cs.map Char.toNat, n < 0x80 := by
    intro n hn
    obtain ⟨c, hc, rfl⟩ := List.mem_map.mp hn
    exact ascii_of_isLowAscii (isLowAscii_of_isDigit (h c hc)).1
  have hkept : (cs.map Char.toNat).all isKept = true := by
    rw [List.all_map, List.all_eq_true]
    intro c hc
    have hlow := (isLowAscii_of_isDigit (h c hc)).1
    have hlt := ascii_of_isLowAscii hlow
    simp only [Function.comp_apply, isKept, mapped_of_isLowAscii hlow, Bool.and_eq_true]
    exact ⟨decide_eq_true (.inl (by omega)), beq_self_eq_true _⟩
  have hmark : ((cs.map Char.toNat).head?.map isMark).getD false = false := by
    cases cs with
    | nil => rfl
    | cons c cs =>
      have hc := hascii c.toNat (by simp)
      have hn : ¬ 0x80 ≤ c.toNat := by omega
      simp [isMark, hn]
  have hcoded : codedPrefix.isPrefixOf (cs.map Char.toNat) = false := by
    cases cs with
    | nil => rfl
    | cons c cs =>
      have hc := (isLowAscii_of_isDigit (h c (by simp))).2.2.1
      have hne : 'x'.toNat ≠ c.toNat := fun he => hc (Char.toNat_inj.mp he).symm
      have hx : codedPrefix = 'x'.toNat :: ['n'.toNat, '-'.toNat, '-'.toNat] := rfl
      rw [hx, List.map_cons, List.isPrefixOf, beq_false_of_ne hne, Bool.false_and]
  refine ⟨?_, fun hm => ?_⟩
  · rw [isSound, normalForm_ascii hascii, hkept, hmark, joinersFit_ascii hascii, hcoded]
    simp
  · obtain ⟨c, hc, hdot⟩ := List.mem_map.mp hm
    exact (isLowAscii_of_isDigit (h c hc)).2.1 (Char.toNat_inj.mp hdot)

/-- Numbers between dots are their own ASCII form. -/
theorem toAscii_dotted {parts : List (List Char)} (hne : parts ≠ [])
    (h : ∀ part ∈ parts, ∀ c ∈ part, c.isDigit = true) :
    toAscii? (['.'].intercalate parts) = some (['.'].intercalate parts) := by
  have hascii : ∀ part ∈ parts, ∀ n ∈ part.map Char.toNat, n < 0x80 := by
    intro part hp n hn
    obtain ⟨c, hc, rfl⟩ := List.mem_map.mp hn
    exact ascii_of_isLowAscii (isLowAscii_of_isDigit (h part hp c hc)).1
  have hname : nameOf (parts.map (List.map Char.toNat)) = ['.'].intercalate parts := by
    rw [nameOf, List.map_map]
    congr 1
    refine (List.map_congr_left fun part hp => ?_).trans (List.map_id parts)
    have ha : isAscii (part.map Char.toNat) = true :=
      List.all_eq_true.mpr fun n hn => decide_eq_true (hascii part hp n hn)
    rw [Function.comp_apply, asciiLabel, if_pos ha, map_toNat_ofNat]
    rfl
  have hlabels : ∀ label ∈ parts.map (List.map Char.toNat), IsLabel label := by
    intro label hl
    obtain ⟨part, hp, rfl⟩ := List.mem_map.mp hl
    exact isLabel_digits (h part hp)
  rw [← hname]
  refine toAscii_nameOf (by simpa using hne) hlabels ?_ ?_
  · rw [directionsAgree, if_neg]
    simp only [List.any_eq_true, not_exists, not_and, Bool.not_eq_true]
    intro label hl n hn
    obtain ⟨part, hp, rfl⟩ := List.mem_map.mp hl
    have hlt := hascii part hp n hn
    have hn : ¬ 0x80 ≤ n := by omega
    simp [runsRightToLeft, hn]
  · rw [hname, List.any_eq_false]
    intro c hc
    rcases Text.mem_intercalate hc with rfl | ⟨part, hp, hc⟩
    · decide
    · simp [(isLowAscii_of_isDigit (h part hp c hc)).2.2.2]

end CurlScribe.Domain
