import CurlScribe.Proofs.Text.Cut
import CurlScribe.Proofs.Text.Visible
import CurlScribe.Web.Template

/-! The spellings of placeholders, their names, and templates that are never blank. -/
namespace CurlScribe.Template

variable {c d : Char} {cs name rest : List Char} {ps : List Piece} {atStart : Bool}

/-! Names. -/

/-- A name of a placeholder. -/
def IsName (name : List Char) : Prop :=
  ∃ c tail, name = c :: tail ∧ startsName c = true ∧ ∀ d ∈ tail, continuesName d = true

theorem ascii_of_startsName (h : startsName c = true) : c.toNat < 0x80 := by
  rcases Bool.or_eq_true_iff.mp h with h | h
  · exact Text.ascii_of_isAlpha h
  · obtain rfl := beq_iff_eq.mp h
    decide

theorem continuesName_of_starts (h : startsName c = true) : continuesName c = true := by
  have ha := ascii_of_startsName h
  simp only [startsName, Bool.or_eq_true, beq_iff_eq] at h
  rcases h with h | h <;> simp [continuesName, Text.isWordChar, ha, h]

theorem isBlank_of_starts (h : startsName c = true) : Text.isBlank c = false := by
  have hall : ∀ n < 0x80, startsName (Char.ofNat n) = true →
      Text.isBlank (Char.ofNat n) = false := by
    decide
  exact Text.of_ascii (P := fun c => startsName c = true → Text.isBlank c = false) hall
    (ascii_of_startsName h) h

/-- No blank is part of a name. -/
theorem continuesName_of_blank (h : Text.isBlank c = true) : continuesName c = false := by
  have hascii : ∀ n < 0x80, Text.isBlank (Char.ofNat n) = true →
      continuesName (Char.ofNat n) = false := by
    decide
  -- beyond ASCII, no range of word characters meets one of blanks
  have hranges : (Text.wordRanges.all fun r => [(0x85, 0x85), (0xA0, 0xA0), (0x1680, 0x1680),
      (0x2000, 0x200A), (0x2028, 0x2029), (0x202F, 0x202F), (0x205F, 0x205F),
      (0x3000, 0x3000)].all fun b => r.2 < b.1 || b.2 < r.1) = true := by
    decide +kernel
  by_cases ha : c.toNat < 0x80
  · exact Text.of_ascii (P := fun c => Text.isBlank c = true → continuesName c = false) hascii ha h
  · have hdash : c ≠ '-' := by
      rintro rfl
      exact ha (by decide)
    simp only [continuesName, Text.isWordChar, if_neg ha, Bool.or_eq_false_iff, List.any_eq_false,
      beq_eq_false_iff_ne]
    refine ⟨fun r hr hc => ?_, hdash⟩
    have hapart := List.all_eq_true.mp hranges r hr
    simp only [Text.isBlank, List.all_cons, List.all_nil, Bool.or_eq_true, Bool.and_eq_true,
      decide_eq_true_eq, beq_iff_eq] at h hc hapart
    omega

theorem cutName_eq_some_iff : cutName? cs = some (name, rest) ↔
    cs = name ++ rest ∧ IsName name ∧ ∀ c ∈ rest.head?, continuesName c = false := by
  constructor
  · intro h
    unfold cutName? at h
    split at h
    · simp at h
    · rename_i c tail
      split at h
      · rename_i hc
        obtain ⟨rfl, rfl⟩ := Prod.mk.inj (Option.some.inj h)
        refine ⟨by simp, ⟨c, _, rfl, hc, fun d hd => List.mem_takeWhile_imp hd⟩, fun d hd => ?_⟩
        have hstop := List.head?_dropWhile_not continuesName tail
        simpa [Option.mem_def.mp hd] using hstop
      · simp at h
  · rintro ⟨rfl, ⟨c, tail, rfl, hc, htail⟩, hstop⟩
    rw [List.cons_append, cutName?, if_pos hc, Text.takeWhile_append_stop htail hstop,
      Text.dropWhile_append_stop htail hstop]

theorem IsName.ne_nil (h : IsName name) : name ≠ [] := by
  obtain ⟨c, tail, rfl, -⟩ := h
  simp

theorem IsName.continues (h : IsName name) : ∀ c ∈ name, continuesName c = true := by
  obtain ⟨c, tail, rfl, hc, htail⟩ := h
  exact List.forall_mem_cons.mpr ⟨continuesName_of_starts hc, htail⟩

/-! Spellings. -/

theorem trimStart_blanks {bs : List Char} (hb : ∀ b ∈ bs, Text.isBlank b = true)
    (hs : ∀ c ∈ cs.head?, Text.isBlank c = false) : Text.trimStart (bs ++ cs) = cs :=
  Text.dropWhile_append_stop hb hs

theorem exists_blanks (cs : List Char) : ∃ bs, (∀ b ∈ bs, Text.isBlank b = true) ∧
    cs = bs ++ Text.trimStart cs :=
  ⟨cs.takeWhile Text.isBlank, fun _ hb => List.mem_takeWhile_imp hb,
    List.takeWhile_append_dropWhile.symm⟩

/-- A name with blanks around it. -/
def IsPadded (name cs : List Char) : Prop := ∃ bs bs', cs = bs ++ name ++ bs' ∧ IsName name ∧
  (∀ b ∈ bs, Text.isBlank b = true) ∧ ∀ b ∈ bs', Text.isBlank b = true

theorem cutDouble_eq_some_iff : cutDouble? cs = some (name, rest) ↔
    ∃ inner, IsPadded name inner ∧
      cs = '\x7b' :: '\x7b' :: (inner ++ '\x7d' :: '\x7d' :: rest) := by
  constructor
  · intro h
    unfold cutDouble? at h
    split at h
    · rename_i tail
      split at h
      · simp at h
      · rename_i name' more hn
        split at h
        · rename_i heq
          obtain ⟨rfl, rfl⟩ := Prod.mk.inj (Option.some.inj h)
          obtain ⟨htrim, hname, -⟩ := cutName_eq_some_iff.mp hn
          obtain ⟨bs, hbs, htail⟩ := exists_blanks tail
          obtain ⟨bs', hbs', hmore⟩ := exists_blanks more
          refine ⟨bs ++ name' ++ bs', ⟨bs, bs', rfl, hname, hbs, hbs'⟩, ?_⟩
          rw [htail, htrim, hmore, heq]
          simp
        · simp at h
    · simp at h
  · rintro ⟨inner, ⟨bs, bs', rfl, hname, hbs, hbs'⟩, rfl⟩
    have hstart : ∀ c ∈ (name ++ (bs' ++ '\x7d' :: '\x7d' :: rest)).head?,
        Text.isBlank c = false := by
      obtain ⟨c, tail, rfl, hc, -⟩ := hname
      simpa using isBlank_of_starts hc
    have hstop : ∀ c ∈ (bs' ++ '\x7d' :: '\x7d' :: rest).head?, continuesName c = false := by
      cases bs' with
      | nil => simp [continuesName, Text.isWordChar]
      | cons b bs' => simpa using continuesName_of_blank (hbs' b (by simp))
    have hcut := cutName_eq_some_iff.mpr ⟨rfl, hname, hstop⟩
    have hclose : Text.trimStart (bs' ++ '\x7d' :: '\x7d' :: rest) = '\x7d' :: '\x7d' :: rest :=
      trimStart_blanks hbs' (by simp [Text.isBlank])
    rw [cutDouble?, List.append_assoc, List.append_assoc, trimStart_blanks hbs hstart, hcut]
    simp only [hclose]

theorem cutSingle_eq_some_iff : cutSingle? cs = some (name, rest) ↔
    IsName name ∧ cs = '\x7b' :: (name ++ '\x7d' :: rest) := by
  constructor
  · intro h
    unfold cutSingle? at h
    split at h
    · split at h
      · rename_i hn
        obtain ⟨rfl, rfl⟩ := Prod.mk.inj (Option.some.inj h)
        obtain ⟨rfl, hname, -⟩ := cutName_eq_some_iff.mp hn
        exact ⟨hname, rfl⟩
      · simp at h
    · simp at h
  · rintro ⟨hname, rfl⟩
    have hcut : cutName? (name ++ '\x7d' :: rest) = some (name, '\x7d' :: rest) :=
      cutName_eq_some_iff.mpr ⟨rfl, hname, by simp [continuesName, Text.isWordChar]⟩
    simp only [cutSingle?, hcut]

theorem cutColon_eq_some_iff : cutColon? cs = some (name, rest) ↔
    cs = ':' :: (name ++ rest) ∧ IsName name ∧ ∀ c ∈ rest.head?, continuesName c = false := by
  unfold cutColon?
  split
  · rename_i tail
    rw [cutName_eq_some_iff, List.cons.injEq, and_iff_right rfl]
  · rename_i h
    constructor
    · simp
    · rintro ⟨rfl, -⟩
      exact (h _ rfl).elim

/-- The ways in which a placeholder is spelled. -/
theorem cutSlot_cases (h : cutSlot? atStart cs = some (ps, rest)) : ∃ name,
    (cutDouble? cs = some (name, rest) ∧ ps = [.slot name]) ∨
    (cutSingle? cs = some (name, rest) ∧ ps = [.slot name]) ∨
    (atStart = true ∧ cutColon? cs = some (name, rest) ∧ ps = [.slot name]) ∨
    ∃ tail, cs = '/' :: tail ∧ cutColon? tail = some (name, rest) ∧
      ps = [.plain '/', .slot name] := by
  unfold cutSlot? at h
  split at h
  · rename_i name _ hc
    obtain ⟨rfl, rfl⟩ := Prod.mk.inj (Option.some.inj h)
    exact ⟨name, .inl ⟨hc, rfl⟩⟩
  · split at h
    · rename_i name _ hc
      obtain ⟨rfl, rfl⟩ := Prod.mk.inj (Option.some.inj h)
      exact ⟨name, .inr (.inl ⟨hc, rfl⟩)⟩
    · split at h
      · rename_i name _ hc
        obtain ⟨rfl, rfl⟩ := Prod.mk.inj (Option.some.inj h)
        cases atStart with
        | true => exact ⟨name, .inr (.inr (.inl ⟨rfl, hc, rfl⟩))⟩
        | false => simp at hc
      · split at h
        · split at h
          · rename_i name _ hc
            obtain ⟨rfl, rfl⟩ := Prod.mk.inj (Option.some.inj h)
            exact ⟨name, .inr (.inr (.inr ⟨_, rfl, hc, rfl⟩))⟩
          · simp at h
        · simp at h

theorem cutSlot_eq_none_iff : cutSlot? atStart cs = none ↔ cutDouble? cs = none ∧
    cutSingle? cs = none ∧ (atStart = true → cutColon? cs = none) ∧
      ∀ tail, cs = '/' :: tail → cutColon? tail = none := by
  unfold cutSlot?
  cases cutDouble? cs with
  | some found => simp
  | none =>
  cases cutSingle? cs with
  | some found => simp
  | none =>
  have hcolon : (if atStart then cutColon? cs else none) = none ↔
      (atStart = true → cutColon? cs = none) := by
    cases atStart <;> simp
  rw [and_iff_right rfl, and_iff_right rfl, ← hcolon]
  cases if atStart then cutColon? cs else none with
  | some found => simp
  | none =>
    rw [and_iff_right rfl]
    dsimp only
    split
    · rename_i tail
      cases hc : cutColon? tail with
      | none => simp [hc]
      | some found => simp [hc]
    · rename_i hne
      simp only [true_iff]
      exact fun tail h => (hne tail h).elim

theorem cutSlot_of_double (h : cutDouble? cs = some (name, rest)) :
    cutSlot? atStart cs = some ([.slot name], rest) := by
  simp only [cutSlot?, h]

/-! Slots. -/

/-- What is cut off as a placeholder is a slot with a name, perhaps behind a slash. -/
theorem cutSlot_named (h : cutSlot? atStart cs = some (ps, rest)) :
    ∃ name, IsName name ∧ (ps = [.slot name] ∨ ps = [.plain '/', .slot name]) := by
  obtain ⟨name, ⟨hc, rfl⟩ | ⟨hc, rfl⟩ | ⟨-, hc, rfl⟩ | ⟨tail, -, hc, rfl⟩⟩ := cutSlot_cases h
  · obtain ⟨_, ⟨_, _, _, hname, _⟩, -⟩ := cutDouble_eq_some_iff.mp hc
    exact ⟨name, hname, .inl rfl⟩
  · exact ⟨name, (cutSingle_eq_some_iff.mp hc).1, .inl rfl⟩
  · exact ⟨name, (cutColon_eq_some_iff.mp hc).2.1, .inl rfl⟩
  · exact ⟨name, (cutColon_eq_some_iff.mp hc).2.1, .inr rfl⟩

theorem pieces_named (atStart : Bool) (cs : List Char) :
    ∀ name, Piece.slot name ∈ pieces atStart cs → IsName name := by
  fun_induction pieces atStart cs with
  | case1 atStart cs ps rest h _ ih =>
    intro name hm
    rcases List.mem_append.mp hm with hm | hm
    · obtain ⟨n, hn, rfl | rfl⟩ := cutSlot_named h
      · obtain rfl : name = n := by simpa using hm
        exact hn
      · obtain rfl : name = n := by simpa using hm
        exact hn
    · exact ih name hm
  | case2 => simp
  | case3 atStart c rest h ih => simpa using ih

theorem mem_of_slotNames (ps : List Piece) :
    ∀ name ∈ slotNames ps, Piece.slot name ∈ ps := by
  fun_induction slotNames ps with
  | case1 => simp
  | case2 c rest ih => exact fun name hn => List.mem_cons_of_mem _ (ih name hn)
  | case3 name rest ih =>
    intro n hn
    rcases List.mem_cons.mp hn with rfl | hn
    · exact List.mem_cons_self
    · exact List.mem_cons_of_mem _ (ih n (List.mem_filter.mp hn).1)

/-- Every placeholder has a name. -/
theorem ofEndpoint_named (endpoint : String) : ∀ name ∈ (ofEndpoint endpoint).2, name ≠ "" := by
  intro name hn
  obtain ⟨cs, hcs, rfl⟩ := List.mem_map.mp hn
  have h := pieces_named true endpoint.toList cs (mem_of_slotNames _ cs hcs)
  simpa using h.ne_nil

/-- A character that is not blank is kept, unless the slot in its place brings braces. -/
theorem exists_of_pieces (atStart : Bool) (cs : List Char)
    (h : ∃ c ∈ cs, Text.isBlank c = false) :
    ∃ c ∈ (pieces atStart cs).flatMap Piece.text, Text.isBlank c = false := by
  fun_induction pieces atStart cs with
  | case1 atStart cs ps rest hcut _ ih =>
    obtain ⟨name, -, hps⟩ := cutSlot_named hcut
    have hslot : Piece.slot name ∈ ps := by rcases hps with rfl | rfl <;> simp
    refine ⟨'\x7b', List.mem_flatMap.mpr ⟨.slot name, by simp [hslot], ?_⟩, by decide⟩
    simp [Piece.text]
  | case2 => simp at h
  | case3 atStart c rest hcut ih =>
    obtain ⟨d, hd, hb⟩ := h
    rcases List.mem_cons.mp hd with rfl | hd
    · exact ⟨d, by simp [Piece.text], hb⟩
    · obtain ⟨e, he, hb⟩ := ih ⟨d, hd, hb⟩
      exact ⟨e, by simpa using .inr (List.mem_flatMap.mp he), hb⟩

theorem blank_ofEndpoint {endpoint : String} (h : Text.blank endpoint = false) :
    Text.blank (ofEndpoint endpoint).1 = false := by
  obtain ⟨c, hc, hb⟩ := exists_of_pieces true _ (Text.exists_of_not_blank h)
  exact Text.blank_of_mem (by simpa [ofEndpoint] using hc) hb

end CurlScribe.Template
