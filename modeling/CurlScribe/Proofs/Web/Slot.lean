import CurlScribe.Proofs.Web.Template

/-! Templates in normal form. A template lists the names that its path lists, and is a template of
itself unless braces are left around a slot. -/
namespace CurlScribe.Template

variable {c d : Char} {cs ds name rest s : List Char} {ps : List Piece} {atStart : Bool}

/-! Pieces, one at a time. -/

theorem pieces_of_cut (h : cutSlot? atStart cs = some (ps, rest)) :
    pieces atStart cs = ps ++ pieces false rest := by
  rw [pieces]
  split
  · rename_i heq
    obtain ⟨rfl, rfl⟩ := Prod.mk.inj (Option.some.inj (heq.symm.trans h))
    rfl
  · rename_i heq
    simp [h] at heq

theorem pieces_nil (atStart : Bool) : pieces atStart [] = [] := by
  have h : cutSlot? atStart [] = none := by cases atStart <;> rfl
  rw [pieces]
  split
  · rename_i heq
    simp [h] at heq
  · rfl

theorem pieces_of_plain (h : cutSlot? atStart (c :: cs) = none) :
    pieces atStart (c :: cs) = .plain c :: pieces false cs := by
  rw [pieces]
  split
  · rename_i heq
    simp [h] at heq
  · rfl

theorem cutSlot_plain (hb : c ≠ '\x7b') (hc : c ≠ ':') (hs : c ≠ '/') (cs : List Char) :
    cutSlot? atStart (c :: cs) = none := by
  refine cutSlot_eq_none_iff.mpr ⟨?_, ?_, fun _ => ?_, fun tail h => ?_⟩
  · simp [cutDouble?, hb]
  · simp [cutSingle?, hb]
  · simp [cutColon?, hc]
  · exact (hs (List.cons.inj h).1).elim

/-- The template that pieces spell. -/
def spelled (ps : List Piece) : List Char := ps.flatMap Piece.text

@[simp] theorem spelled_nil : spelled [] = [] := rfl

theorem spelled_cons (p : Piece) (ps : List Piece) : spelled (p :: ps) = p.text ++ spelled ps := rfl

@[simp] theorem spelled_plain (c : Char) (ps : List Piece) :
    spelled (.plain c :: ps) = c :: spelled ps := rfl

@[simp] theorem spelled_slot (name : List Char) (ps : List Piece) :
    spelled (.slot name :: ps) = '\x7b' :: (name ++ '\x7d' :: spelled ps) := by
  simp [spelled, Piece.text]

/-! Characters that stand in a template where they stand in the path. -/

/-- The characters by which a slot starts in a template. -/
def isJoint (c : Char) : Bool := c == '\x7b' || c == '/'

theorem IsName.no_joint (h : IsName name) : ∀ c ∈ name, isJoint c = false := by
  intro c hc
  have hcont := h.continues c hc
  simp only [isJoint, Bool.or_eq_false_iff, beq_eq_false_iff_ne]
  constructor <;> rintro rfl <;> simp [continuesName, Text.isWordChar] at hcont

theorem IsPadded.no_joint (h : IsPadded name cs) : ∀ c ∈ cs, isJoint c = false := by
  obtain ⟨bs, bs', rfl, hname, hbs, hbs'⟩ := h
  have hblank (c : Char) (hc : Text.isBlank c = true) : isJoint c = false := by
    simp only [isJoint, Bool.or_eq_false_iff, beq_eq_false_iff_ne]
    constructor <;> rintro rfl <;> simp [Text.isBlank] at hc
  simp only [List.mem_append]
  rintro c ((hc | hc) | hc)
  · exact hblank c (hbs c hc)
  · exact hname.no_joint c hc
  · exact hblank c (hbs' c hc)

theorem IsName.no_joint_close (h : IsName name) :
    ∀ c ∈ name ++ ['\x7d'], isJoint c = false :=
  List.forall_mem_append.mpr ⟨h.no_joint, by simp [isJoint]⟩

theorem IsPadded.no_joint_close (h : IsPadded name cs) :
    ∀ c ∈ cs ++ ['\x7d', '\x7d'], isJoint c = false :=
  List.forall_mem_append.mpr ⟨h.no_joint, by simp [isJoint]⟩

/-- A character of a template that starts no slot is the one at its place in the path. -/
theorem exists_of_spelled (h : spelled (pieces false cs) = c :: s) (hc : isJoint c = false) :
    ∃ rest, cs = c :: rest ∧ pieces false cs = .plain c :: pieces false rest ∧
      spelled (pieces false rest) = s := by
  cases hcut : cutSlot? false cs with
  | some found =>
    obtain ⟨ps, rest⟩ := found
    obtain ⟨name, -, rfl | rfl⟩ := cutSlot_named hcut
    · rw [pieces_of_cut hcut, List.singleton_append, spelled_slot] at h
      obtain ⟨rfl, -⟩ := List.cons.inj h
      simp [isJoint] at hc
    · rw [pieces_of_cut hcut, List.cons_append, spelled_plain] at h
      obtain ⟨rfl, -⟩ := List.cons.inj h
      simp [isJoint] at hc
  | none =>
    cases cs with
    | nil =>
      rw [pieces_nil] at h
      simp at h
    | cons d rest =>
      rw [pieces_of_plain hcut, spelled_plain] at h
      obtain ⟨rfl, hs⟩ := List.cons.inj h
      exact ⟨rest, rfl, pieces_of_plain hcut, hs⟩

theorem exists_of_pieces_plain (h : pieces false cs = .plain c :: ps) (hc : isJoint c = false) :
    ∃ rest, cs = c :: rest := by
  have hspelled : spelled (pieces false cs) = c :: spelled ps := by rw [h, spelled_plain]
  obtain ⟨rest, rfl, -⟩ := exists_of_spelled hspelled hc
  exact ⟨rest, rfl⟩

theorem exists_of_spelled_append (h : spelled (pieces false cs) = ds ++ s)
    (hd : ∀ c ∈ ds, isJoint c = false) :
    ∃ rest, cs = ds ++ rest ∧ spelled (pieces false rest) = s := by
  induction ds generalizing cs with
  | nil => exact ⟨cs, rfl, h⟩
  | cons c ds ih =>
    obtain ⟨tail, rfl, -, htail⟩ := exists_of_spelled h (hd c (by simp))
    obtain ⟨rest, rfl, hrest⟩ := ih htail fun d hm => hd d (by simp [hm])
    exact ⟨rest, rfl, hrest⟩

/-! Names in braces. -/

theorem cutDouble_single (h : IsName name) (rest : List Char) :
    cutDouble? ('\x7b' :: (name ++ rest)) = none := by
  obtain ⟨c, tail, rfl, hc, -⟩ := h
  have hne : c ≠ '\x7b' := by
    rintro rfl
    simp [startsName] at hc
  simp [cutDouble?, hne]

theorem pieces_slot (h : IsName name) (rest : List Char) :
    pieces atStart ('\x7b' :: (name ++ '\x7d' :: rest)) = .slot name :: pieces false rest := by
  have hcut : cutSlot? atStart ('\x7b' :: (name ++ '\x7d' :: rest)) =
      some ([.slot name], rest) := by
    simp only [cutSlot?, cutDouble_single h, cutSingle_eq_some_iff.mpr ⟨h, rfl⟩]
  rw [pieces_of_cut hcut, List.singleton_append]

theorem pieces_close (rest : List Char) :
    pieces atStart ('\x7d' :: rest) = .plain '\x7d' :: pieces false rest :=
  pieces_of_plain (cutSlot_plain (by decide) (by decide) (by decide) rest)

/-- A name in single braces behind a brace is in double braces where another brace follows. -/
theorem cutDouble_wrapped (h : IsName name) (rest s : List Char) (found : List Char) :
    cutDouble? ('\x7b' :: '\x7b' :: (name ++ '\x7d' :: s)) = some (found, rest) ↔
      found = name ∧ s = '\x7d' :: rest := by
  have hcut : cutName? (name ++ '\x7d' :: s) = some (name, '\x7d' :: s) :=
    cutName_eq_some_iff.mpr ⟨rfl, h, by simp [continuesName, Text.isWordChar]⟩
  have htrim : Text.trimStart (name ++ '\x7d' :: s) = name ++ '\x7d' :: s := by
    obtain ⟨c, tail, rfl, hc, -⟩ := h
    simp [Text.trimStart, isBlank_of_starts hc]
  have hclose : Text.trimStart ('\x7d' :: s) = '\x7d' :: s := rfl
  rw [cutDouble?, htrim, hcut]
  simp only [hclose]
  split
  · rename_i heq
    obtain ⟨-, hs⟩ := List.cons.inj heq
    rw [hs, Option.some.injEq, Prod.mk.injEq, List.cons.injEq, and_iff_right rfl,
      eq_comm (a := name)]
  · rename_i hne
    simp only [reduceCtorEq, false_iff, not_and]
    rintro - rfl
    exact hne _ rfl

/-! Templates as paths. -/

/-- At the start of pieces, a slot and a closing brace. -/
def StartsSlot (ps : List Piece) : Prop := ∃ name rest, ps = .slot name :: .plain '\x7d' :: rest

/-- Pieces without the braces around slots. -/
def collapse : List Piece → List Piece
  | .plain '\x7b' :: .slot name :: .plain '\x7d' :: rest => .slot name :: collapse rest
  | p :: rest => p :: collapse rest
  | [] => []

theorem collapse_wrapped (name : List Char) (ps : List Piece) :
    collapse (.plain '\x7b' :: .slot name :: .plain '\x7d' :: ps) = .slot name :: collapse ps := rfl

theorem collapse_cons {p : Piece} (h : p = .plain '\x7b' → ¬ StartsSlot ps) :
    collapse (p :: ps) = p :: collapse ps := by
  rw [collapse]
  rintro name rest rfl rfl
  exact h rfl ⟨name, rest, rfl⟩

theorem collapse_slot (name : List Char) (ps : List Piece) :
    collapse (.slot name :: ps) = .slot name :: collapse ps :=
  collapse_cons fun h => by simp at h

theorem collapse_plain (hc : c ≠ '\x7b') (ps : List Piece) :
    collapse (.plain c :: ps) = .plain c :: collapse ps :=
  collapse_cons fun h => (hc (Piece.plain.inj h)).elim

theorem cutName_of_spelled (hname : IsName name)
    (h : spelled (pieces false cs) = name ++ rest) : cutName? cs ≠ none := by
  obtain ⟨c, tail, rfl, hc, -⟩ := hname
  have hjoint : isJoint c = false := IsName.no_joint ⟨c, [], rfl, hc, by simp⟩ c (by simp)
  obtain ⟨more, rfl, -, -⟩ := exists_of_spelled h hjoint
  simp [cutName?, hc]

theorem cutSingle_of_spelled (h : cutSingle? (c :: spelled (pieces false cs)) = some (name, rest)) :
    cutSingle? (c :: cs) ≠ none := by
  obtain ⟨hname, heq⟩ := cutSingle_eq_some_iff.mp h
  obtain ⟨rfl, hspelled⟩ := List.cons.inj heq
  obtain ⟨more, rfl, -⟩ := exists_of_spelled_append (s := rest)
    (by simpa using hspelled) hname.no_joint_close
  have hfound : cutSingle? ('\x7b' :: (name ++ ['\x7d'] ++ more)) = some (name, more) :=
    cutSingle_eq_some_iff.mpr ⟨hname, by simp⟩
  exact hfound ▸ Option.some_ne_none _

/-- Double braces that are there only in the template have those of a slot inside. -/
theorem startsSlot_of_double (h : cutDouble? (c :: cs) = none)
    (hc : cutDouble? (c :: spelled (pieces false cs)) = some (name, rest)) :
    c = '\x7b' ∧ StartsSlot (pieces false cs) := by
  obtain ⟨inner, hinner, heq⟩ := cutDouble_eq_some_iff.mp hc
  obtain ⟨rfl, hspelled⟩ := List.cons.inj heq
  refine ⟨rfl, ?_⟩
  cases hcut : cutSlot? false cs with
  | some found =>
    obtain ⟨ps, more⟩ := found
    obtain ⟨n, hn, rfl | rfl⟩ := cutSlot_named hcut
    · rw [pieces_of_cut hcut, List.singleton_append, spelled_slot, cutDouble_wrapped hn] at hc
      obtain ⟨tail, rfl, hpieces, -⟩ := exists_of_spelled hc.2 rfl
      exact ⟨n, _, by rw [pieces_of_cut hcut, hpieces]; rfl⟩
    · rw [pieces_of_cut hcut] at hspelled
      simp at hspelled
  | none =>
    cases cs with
    | nil =>
      rw [pieces_nil] at hspelled
      simp at hspelled
    | cons d cs =>
      rw [pieces_of_plain hcut, spelled_plain] at hspelled
      obtain ⟨rfl, hinside⟩ := List.cons.inj hspelled
      obtain ⟨more, rfl, -⟩ := exists_of_spelled_append (s := rest)
        (by simpa using hinside) hinner.no_joint_close
      have hfound : cutDouble? ('\x7b' :: '\x7b' :: (inner ++ ['\x7d', '\x7d'] ++ more)) =
          some (name, more) := cutDouble_eq_some_iff.mpr ⟨inner, hinner, by simp⟩
      exact (Option.some_ne_none _ (hfound.symm.trans h)).elim

/-- A character that starts no placeholder in a path starts one in the template only where it is the
first of two braces around a slot. -/
theorem startsSlot_of_cut (h : cutSlot? atStart (c :: cs) = none)
    (hs : cutSlot? atStart (c :: spelled (pieces false cs)) ≠ none) :
    c = '\x7b' ∧ StartsSlot (pieces false cs) := by
  obtain ⟨hdouble, hsingle, hcolon, hslash⟩ := cutSlot_eq_none_iff.mp h
  obtain ⟨⟨ps, rest⟩, hcut⟩ := Option.ne_none_iff_exists'.mp hs
  obtain ⟨name, ⟨hc, -⟩ | ⟨hc, -⟩ | ⟨ha, hc, -⟩ | ⟨tail, heq, hc, -⟩⟩ := cutSlot_cases hcut
  · exact startsSlot_of_double hdouble hc
  · exact (cutSingle_of_spelled hc hsingle).elim
  · obtain ⟨heq, hname, -⟩ := cutColon_eq_some_iff.mp hc
    obtain ⟨rfl, hspelled⟩ := List.cons.inj heq
    exact (cutName_of_spelled hname hspelled (hcolon ha)).elim
  · obtain ⟨htail, hname, -⟩ := cutColon_eq_some_iff.mp hc
    obtain ⟨rfl, hspelled⟩ := List.cons.inj heq
    obtain ⟨more, rfl, -, hrest⟩ := exists_of_spelled (hspelled.trans htail) rfl
    exact (cutName_of_spelled hname hrest (hslash _ rfl)).elim

theorem pieces_slash (hname : IsName name) (rest : List Char) :
    pieces atStart ('/' :: '\x7b' :: (name ++ '\x7d' :: rest)) =
      .plain '/' :: .slot name :: pieces false rest := by
  have hcut : cutSlot? atStart ('/' :: '\x7b' :: (name ++ '\x7d' :: rest)) = none :=
    cutSlot_eq_none_iff.mpr ⟨rfl, rfl, fun _ => rfl, fun tail h => by
      obtain rfl := (List.cons.inj h).2
      rfl⟩
  rw [pieces_of_plain hcut, pieces_slot hname]

/-- The pieces of a template are those of its path, but for braces around slots. -/
theorem pieces_spelled (atStart : Bool) (cs : List Char) :
    pieces atStart (spelled (pieces atStart cs)) = collapse (pieces atStart cs) := by
  fun_induction pieces atStart cs with
  | case1 atStart cs ps rest h _ ih =>
    obtain ⟨name, hname, rfl | rfl⟩ := cutSlot_named h
    · rw [List.singleton_append, spelled_slot, pieces_slot hname, ih, collapse_slot]
    · rw [List.cons_append, List.singleton_append, spelled_plain, spelled_slot,
        pieces_slash hname, ih, collapse_plain (by decide), collapse_slot]
  | case2 atStart h => exact pieces_nil atStart
  | case3 atStart c rest h ih =>
    rw [spelled_plain]
    by_cases hw : c = '\x7b' ∧ StartsSlot (pieces false rest)
    · obtain ⟨rfl, name, more, hpieces⟩ := hw
      have hname : IsName name := pieces_named false rest name (by simp [hpieces])
      rw [hpieces, spelled_slot, spelled_plain] at ih ⊢
      rw [pieces_slot hname, pieces_close, collapse_slot, collapse_plain (by decide)] at ih
      have hcut : cutDouble? ('\x7b' :: '\x7b' :: (name ++ '\x7d' :: '\x7d' :: spelled more)) =
          some (name, spelled more) := (cutDouble_wrapped hname ..).mpr ⟨rfl, rfl⟩
      rw [pieces_of_cut (cutSlot_of_double hcut), collapse_wrapped, List.singleton_append]
      exact congrArg _ (List.cons.inj (List.cons.inj ih).2).2
    · have hcut : cutSlot? atStart (c :: spelled (pieces false rest)) = none := by
        by_contra hne
        exact hw (startsSlot_of_cut h hne)
      rw [pieces_of_plain hcut, ih, collapse_cons fun hp hs => hw ⟨Piece.plain.inj hp, hs⟩]

/-! What is lost with the braces. -/

/-- Somewhere among pieces, a slot between braces. -/
def HasWrapped (ps : List Piece) : Prop := Text.Behind (.plain '\x7b') StartsSlot ps

theorem hasWrapped_slot (name : List Char) (ps : List Piece) :
    HasWrapped (.slot name :: ps) ↔ HasWrapped ps :=
  Text.behind_other (by simp) ps

theorem hasWrapped_plain (hc : c ≠ '\x7b') (ps : List Piece) :
    HasWrapped (.plain c :: ps) ↔ HasWrapped ps :=
  Text.behind_other (by simpa using hc) ps

/-- A template is left as it is where no slot in it stands between braces, and becomes shorter where
one does. -/
theorem spelled_collapse (ps : List Piece) :
    (spelled (collapse ps) = spelled ps ∧ ¬ HasWrapped ps) ∨
      ((spelled (collapse ps)).length < (spelled ps).length ∧ HasWrapped ps) := by
  fun_induction collapse ps with
  | case1 name rest ih =>
    have hle := Text.length_le_of_shorter ih
    refine .inr ⟨?_, _, List.suffix_rfl, name, rest, rfl⟩
    simp only [spelled_slot, spelled_plain, List.length_cons, List.length_append]
    omega
  | case2 p rest hne ih =>
    have hstart : ¬ (p = .plain '\x7b' ∧ StartsSlot rest) := fun ⟨hp, name, more, heq⟩ =>
      hne name more hp heq
    have hwrapped : HasWrapped (p :: rest) ↔ HasWrapped rest :=
      (Text.behind_cons p rest).trans (or_iff_right hstart)
    rw [spelled_cons, spelled_cons, hwrapped]
    simpa using ih
  | case3 => exact .inl ⟨rfl, Text.not_behind_nil⟩

theorem slotNames_collapse (ps : List Piece) : slotNames (collapse ps) = slotNames ps := by
  fun_induction collapse ps with
  | case1 name rest ih => rw [slotNames, slotNames, slotNames, slotNames, ih]
  | case2 p rest hne ih => cases p <;> simp only [slotNames, ih]
  | case3 => rfl

/-! The braces in the path itself. -/

/-- At the start of a text, a name in double braces and one more brace behind it. -/
def StartsTriple (cs : List Char) : Prop :=
  ∃ name inner rest, IsPadded name inner ∧
    cs = '\x7b' :: '\x7b' :: (inner ++ '\x7d' :: '\x7d' :: '\x7d' :: rest)

/-- Somewhere in a text, a name in triple braces. -/
def HasTriple (cs : List Char) : Prop := Text.Behind '\x7b' StartsTriple cs

theorem startsTriple_iff :
    StartsTriple cs ↔ ∃ name rest, cutDouble? cs = some (name, '\x7d' :: rest) := by
  constructor
  · rintro ⟨name, inner, rest, h⟩
    exact ⟨name, rest, cutDouble_eq_some_iff.mpr ⟨inner, h⟩⟩
  · rintro ⟨name, rest, h⟩
    obtain ⟨inner, h⟩ := cutDouble_eq_some_iff.mp h
    exact ⟨name, inner, rest, h⟩

theorem no_brace (hd : ∀ c ∈ ds, isJoint c = false) : '\x7b' ∉ ds := fun h => by
  simpa [isJoint] using hd _ h

theorem not_startsTriple (hc : c ≠ '\x7b') (cs : List Char) : ¬ StartsTriple (c :: cs) := by
  rintro ⟨_, _, _, -, heq⟩
  exact hc (List.cons.inj heq).1

theorem not_startsTriple_brace (hc : c ≠ '\x7b') (cs : List Char) :
    ¬ StartsTriple ('\x7b' :: c :: cs) := by
  rintro ⟨_, _, _, -, heq⟩
  exact hc (List.cons.inj (List.cons.inj heq).2).1

/-- A brace in front of what is no brace. -/
theorem hasTriple_brace (hd : '\x7b' ∉ ds) (hne : ds ≠ []) (cs : List Char) :
    HasTriple ('\x7b' :: (ds ++ cs)) ↔ HasTriple cs := by
  obtain ⟨c, tail, rfl⟩ := List.exists_cons_of_ne_nil hne
  have hc : c ≠ '\x7b' := fun h => hd (by simp [h])
  rw [HasTriple, Text.behind_mark, List.cons_append, or_iff_right (not_startsTriple hc _),
    ← List.cons_append, Text.behind_append hd, HasTriple]

/-- A placeholder holds nothing of one in triple braces but what is behind its first character. -/
theorem hasTriple_of_cut (h : cutSlot? atStart cs = some (ps, rest)) :
    HasTriple cs ↔ HasTriple rest := by
  have hcolon {name : List Char} (hname : IsName name) : '\x7b' ∉ ':' :: name :=
    no_brace (List.forall_mem_cons.mpr ⟨rfl, hname.no_joint⟩)
  obtain ⟨name, ⟨hc, -⟩ | ⟨hc, -⟩ | ⟨-, hc, -⟩ | ⟨tail, rfl, hc, -⟩⟩ := cutSlot_cases h
  · obtain ⟨inner, hinner, rfl⟩ := cutDouble_eq_some_iff.mp hc
    have hbrace := no_brace hinner.no_joint_close
    have hne : inner ++ ['\x7d', '\x7d'] ≠ [] := by simp
    have hfirst : ¬ StartsTriple ('\x7b' :: (inner ++ ['\x7d', '\x7d'] ++ rest)) := by
      obtain ⟨c, tail, heq⟩ := List.exists_cons_of_ne_nil hne
      rw [heq]
      exact not_startsTriple_brace (fun h => hbrace (by simp [heq, h])) _
    have hspell : inner ++ '\x7d' :: '\x7d' :: rest = inner ++ ['\x7d', '\x7d'] ++ rest := by simp
    rw [hspell, HasTriple, Text.behind_mark, or_iff_right hfirst]
    exact hasTriple_brace hbrace hne rest
  · obtain ⟨hname, rfl⟩ := cutSingle_eq_some_iff.mp hc
    have hspell : name ++ '\x7d' :: rest = name ++ ['\x7d'] ++ rest := by simp
    rw [hspell, hasTriple_brace (no_brace hname.no_joint_close) (by simp)]
  · obtain ⟨rfl, hname, -⟩ := cutColon_eq_some_iff.mp hc
    exact Text.behind_append (hcolon hname) rest
  · obtain ⟨rfl, hname, -⟩ := cutColon_eq_some_iff.mp hc
    exact (Text.behind_other (by decide) _).trans (Text.behind_append (hcolon hname) rest)

/-- Behind a plain brace there are a slot and another brace exactly where a placeholder in double
braces and another brace are. -/
theorem startsSlot_iff (h : cutSlot? atStart ('\x7b' :: cs) = none) :
    StartsSlot (pieces false cs) ↔ StartsTriple cs := by
  constructor
  · rintro ⟨name, more, hpieces⟩
    cases hcut : cutSlot? false cs with
    | none =>
      cases cs with
      | nil => simp [pieces_nil] at hpieces
      | cons d cs => simp [pieces_of_plain hcut] at hpieces
    | some found =>
      obtain ⟨ps, rest⟩ := found
      rw [pieces_of_cut hcut] at hpieces
      obtain ⟨n, ⟨hc, rfl⟩ | ⟨hc, rfl⟩ | ⟨ha, -, -⟩ | ⟨tail, rfl, hc, rfl⟩⟩ := cutSlot_cases hcut
      · obtain ⟨tail, rfl⟩ := exists_of_pieces_plain (List.cons.inj hpieces).2 rfl
        exact startsTriple_iff.mpr ⟨n, tail, hc⟩
      · -- the outer braces would have been taken with the inner ones
        obtain ⟨tail, rfl⟩ := exists_of_pieces_plain (List.cons.inj hpieces).2 rfl
        obtain ⟨hn, rfl⟩ := cutSingle_eq_some_iff.mp hc
        have hdouble := (cutDouble_wrapped hn tail ('\x7d' :: tail) n).mpr ⟨rfl, rfl⟩
        exact (Option.some_ne_none _ (hdouble.symm.trans (cutSlot_eq_none_iff.mp h).1)).elim
      · simp at ha
      · simp at hpieces
  · intro htriple
    obtain ⟨name, rest, hc⟩ := startsTriple_iff.mp htriple
    exact ⟨name, _, by rw [pieces_of_cut (cutSlot_of_double hc), pieces_close]; rfl⟩

/-- A slot between braces comes from a placeholder in triple braces. -/
theorem hasWrapped_pieces_iff (atStart : Bool) (cs : List Char) :
    HasWrapped (pieces atStart cs) ↔ HasTriple cs := by
  fun_induction pieces atStart cs with
  | case1 atStart cs ps rest h _ ih =>
    rw [hasTriple_of_cut h, ← ih]
    obtain ⟨name, -, rfl | rfl⟩ := cutSlot_named h
    · exact hasWrapped_slot name _
    · exact (hasWrapped_plain (by decide) _).trans (hasWrapped_slot name _)
  | case2 atStart h => exact iff_of_false Text.not_behind_nil Text.not_behind_nil
  | case3 atStart c rest h ih =>
    by_cases hc : c = '\x7b'
    · obtain rfl := hc
      rw [HasWrapped, HasTriple, Text.behind_mark, Text.behind_mark, startsSlot_iff h]
      exact or_congr_right ih
    · exact (hasWrapped_plain hc _).trans (ih.trans (Text.behind_other hc rest).symm)

/-! Templates of endpoints. -/

theorem slotNames_nodup (ps : List Piece) : (slotNames ps).Nodup := by
  fun_induction slotNames ps with
  | case1 => exact List.nodup_nil
  | case2 c rest ih => exact ih
  | case3 name rest ih =>
    exact List.nodup_cons.mpr ⟨fun h => by simpa using (List.mem_filter.mp h).2, ih.filter _⟩

theorem pieces_ofEndpoint (endpoint : String) :
    pieces true (ofEndpoint endpoint).1.toList = collapse (pieces true endpoint.toList) := by
  rw [ofEndpoint, String.toList_ofList]
  exact pieces_spelled true endpoint.toList

/-- The names in an endpoint are listed once each, and its template lists the same. The template is
its own template where no placeholder of the endpoint is in triple braces. -/
theorem template_is_normal_iff (endpoint : String) :
    (ofEndpoint endpoint).2.Nodup ∧
      (ofEndpoint (ofEndpoint endpoint).1).2 = (ofEndpoint endpoint).2 ∧
      (ofEndpoint (ofEndpoint endpoint).1 = ofEndpoint endpoint ↔
        ¬ HasTriple endpoint.toList) := by
  have hnames : (ofEndpoint (ofEndpoint endpoint).1).2 = (ofEndpoint endpoint).2 := by
    rw [ofEndpoint, pieces_ofEndpoint, slotNames_collapse, ofEndpoint]
  have hnodup : (ofEndpoint endpoint).2.Nodup :=
    List.Pairwise.map _ (fun _ _ hne h => hne (String.ofList_injective h)) (slotNames_nodup _)
  refine ⟨hnodup, hnames, ?_⟩
  have htext : (ofEndpoint (ofEndpoint endpoint).1).1 =
      String.ofList (spelled (collapse (pieces true endpoint.toList))) := by
    rw [ofEndpoint, pieces_ofEndpoint, spelled]
  rw [Prod.ext_iff, and_iff_left hnames, htext, ← hasWrapped_pieces_iff true]
  rw [← Text.eq_iff_of_shorter (spelled_collapse (pieces true endpoint.toList)), ofEndpoint,
    ← spelled, String.ofList_inj]

/-- The braces that are left around a slot spell it in double braces. -/
theorem tripled_braces_leave_placeholder :
    ofEndpoint "/\x7b\x7b\x7bid\x7d\x7d\x7d" = ("/\x7b\x7bid\x7d\x7d", ["id"]) ∧
      ofEndpoint "/\x7b\x7bid\x7d\x7d" = ("/\x7bid\x7d", ["id"]) := by
  decide +kernel

end CurlScribe.Template
