import CurlScribe.Proofs.Text.Cut
import CurlScribe.Proofs.Web.Address
import CurlScribe.Proofs.Web.Percent
import Mathlib.Algebra.Order.BigOperators.Group.List
import Mathlib.Algebra.Order.Group.Nat

/-! Paths that are read again after their plain characters were unescaped. -/
namespace CurlScribe.Address

open Percent
variable {k : Kind} {a : Address} {c d : Char} {cs s : List Char} {folders segs : List (List Char)}

theorem plainOf_dot (h : plainOf? c d = some '.') : c = '2' ∧ (d = 'e' ∨ d = 'E') := by
  obtain ⟨byte, hbyte, hplain⟩ := Option.bind_eq_some_iff.mp h
  have hdot : byte = 0x2E := by
    have hv : Char.ofNat byte = '.' := by
      simp only [Option.ite_none_right_eq_some, Option.some.injEq] at hplain
      exact hplain.2
    have hlt : byte < 0x80 := by
      simp only [Option.ite_none_right_eq_some, Bool.and_eq_true, decide_eq_true_eq] at hplain
      exact hplain.1.1
    rw [← Text.toNat_ofNat hlt, hv]
    rfl
  unfold pairByte? at hbyte
  split at hbyte
  · rename_i high low hh hl
    have hsum : 16 * high + low = 0x2E := by rw [Option.some.inj hbyte, hdot]
    have hh' := hexByte_lt hh
    have hl' := hexByte_lt hl
    obtain ⟨rfl, rfl⟩ : high = 2 ∧ low = 14 := by omega
    have h1 : ∀ n < 0x80, hexByte? (Char.ofNat n).toNat = some 2 → Char.ofNat n = '2' := by
      decide
    have h2 : ∀ n < 0x80, hexByte? (Char.ofNat n).toNat = some 14 →
        Char.ofNat n = 'e' ∨ Char.ofNat n = 'E' := by decide
    exact ⟨Text.of_ascii (P := fun c => hexByte? c.toNat = some 2 → c = '2') h1 hh'.1 hh,
      Text.of_ascii (P := fun c => hexByte? c.toNat = some 14 → c = 'e' ∨ c = 'E') h2 hl'.1 hl⟩
  · simp at hbyte

theorem relax_eq_nil (h : relax cs = []) : cs = [] := by
  rcases relax_cases cs with rfl | ⟨c, d, x, rest, -, -, hr⟩ | ⟨c, rest, -, hr⟩
  · rfl
  · simp [hr] at h
  · simp [hr] at h

/-- The spellings of a dot: itself, or its escape in either case. -/
def dots : List (List Char) := [['.'], ['%', '2', 'e'], ['%', '2', 'E']]

/-- A text that becomes one with a dot before it starts with a spelling of a dot. -/
theorem relax_eq_dot (h : relax cs = '.' :: s) :
    ∃ dot ∈ dots, ∃ rest, cs = dot ++ rest ∧ relax rest = s := by
  rcases relax_cases cs with rfl | ⟨c, d, x, rest, rfl, hx, hr⟩ | ⟨c, rest, rfl, hr⟩
  · simp at h
  · obtain ⟨rfl, rfl⟩ := List.cons.inj (hr.symm.trans h)
    obtain ⟨rfl, rfl | rfl⟩ := plainOf_dot hx
    · exact ⟨['%', '2', 'e'], by simp [dots], rest, rfl, rfl⟩
    · exact ⟨['%', '2', 'E'], by simp [dots], rest, rfl, rfl⟩
  · obtain ⟨rfl, rfl⟩ := List.cons.inj (hr.symm.trans h)
    exact ⟨['.'], by simp [dots], rest, rfl, rfl⟩

theorem relax_dot {dot : List Char} (h : dot ∈ dots) (cs : List Char) :
    relax (dot ++ cs) = '.' :: relax cs := by
  simp only [dots, List.mem_cons, List.not_mem_nil, or_false] at h
  rcases h with rfl | rfl | rfl
  · exact relax_cons (by decide) cs
  · exact relax_escape (by decide) cs
  · exact relax_escape (by decide) cs

/-- What is a dot in small letters is a spelling of it. -/
theorem dot_of_lower {dot : List Char} (hd : dot ∈ [['.'], ['%', '2', 'e']])
    (h : s.map Char.toLower = dot ++ cs) :
    ∃ dot' ∈ dots, ∃ rest, s = dot' ++ rest ∧ rest.map Char.toLower = cs := by
  simp only [List.mem_cons, List.not_mem_nil, or_false] at hd
  rcases hd with rfl | rfl
  · obtain ⟨c, rest, rfl, hc, hr⟩ := List.map_eq_cons_iff.mp h
    obtain rfl := Text.eq_of_toLower hc rfl
    exact ⟨['.'], by simp [dots], rest, rfl, hr⟩
  · obtain ⟨c, rest1, rfl, hc, hr1⟩ := List.map_eq_cons_iff.mp h
    obtain ⟨d, rest2, rfl, hd, hr2⟩ := List.map_eq_cons_iff.mp hr1
    obtain ⟨e, rest, rfl, he, hr⟩ := List.map_eq_cons_iff.mp hr2
    obtain rfl := Text.eq_of_toLower hc rfl
    obtain rfl := Text.eq_of_toLower hd rfl
    have hcase : e = 'e' ∨ e = 'E' := by
      cases hu : e.isUpper with
      | true =>
        have hall : ∀ n < 0x80, (Char.ofNat n).toLower = 'e' →
            Char.ofNat n = 'e' ∨ Char.ofNat n = 'E' := by
          decide
        exact Text.of_ascii (P := fun c => c.toLower = 'e' → c = 'e' ∨ c = 'E') hall
          (Text.ascii_of_isUpper hu) he
      | false =>
        rw [Text.toLower_of_not_isUpper hu] at he
        exact .inl he
    rcases hcase with rfl | rfl
    · exact ⟨['%', '2', 'e'], by simp [dots], rest, rfl, hr⟩
    · exact ⟨['%', '2', 'E'], by simp [dots], rest, rfl, hr⟩

theorem isSingleDot_iff : isSingleDot s = true ↔ relax s = ['.'] := by
  constructor
  · intro h
    simp only [isSingleDot, Bool.or_eq_true, beq_iff_eq, ← String.toList_inj,
      String.toList_ofList] at h
    have hs : ∃ dot ∈ [['.'], ['%', '2', 'e']], s.map Char.toLower = dot ++ [] := by
      rcases h with h | h
      · exact ⟨['.'], by simp, h⟩
      · exact ⟨['%', '2', 'e'], by simp, h⟩
    obtain ⟨_, hd, hl⟩ := hs
    obtain ⟨dot, hdot, rest, rfl, hr⟩ := dot_of_lower hd hl
    rw [List.map_eq_nil_iff.mp hr, relax_dot hdot]
    rfl
  · intro h
    obtain ⟨dot, hd, rest, rfl, hr⟩ := relax_eq_dot h
    obtain rfl := relax_eq_nil hr
    rw [List.append_nil]
    revert dot
    decide

theorem isDoubleDot_iff : isDoubleDot s = true ↔ relax s = ['.', '.'] := by
  constructor
  · intro h
    simp only [isDoubleDot, Bool.or_eq_true, beq_iff_eq, ← String.toList_inj,
      String.toList_ofList] at h
    have hs : ∃ dot ∈ [['.'], ['%', '2', 'e']], ∃ dot' ∈ [['.'], ['%', '2', 'e']],
        s.map Char.toLower = dot ++ (dot' ++ []) := by
      rcases h with ((h | h) | h) | h
      · exact ⟨['.'], by simp, ['.'], by simp, h⟩
      · exact ⟨['.'], by simp, ['%', '2', 'e'], by simp, h⟩
      · exact ⟨['%', '2', 'e'], by simp, ['.'], by simp, h⟩
      · exact ⟨['%', '2', 'e'], by simp, ['%', '2', 'e'], by simp, h⟩
    obtain ⟨_, hd, _, hd', hl⟩ := hs
    obtain ⟨dot, hdot, rest, rfl, hr⟩ := dot_of_lower hd hl
    obtain ⟨dot', hdot', rest', rfl, hr'⟩ := dot_of_lower hd' hr
    rw [List.map_eq_nil_iff.mp hr', relax_dot hdot, relax_dot hdot']
    rfl
  · intro h
    obtain ⟨dot, hd, rest, rfl, hr⟩ := relax_eq_dot h
    obtain ⟨dot', hd', rest', rfl, hr'⟩ := relax_eq_dot hr
    obtain rfl := relax_eq_nil hr'
    rw [List.append_nil]
    revert dot' dot
    decide

/-! Segments. -/

theorem pathText_cons (s : List Char) (segs : List (List Char)) :
    pathText (s :: segs) = '/' :: s ++ pathText segs := by
  simp [pathText]

theorem pathText_eq (h : segs ≠ []) : pathText segs = '/' :: ['/'].intercalate segs := by
  induction segs with
  | nil => simp at h
  | cons s segs ih =>
    rw [pathText_cons]
    cases segs with
    | nil => simp [pathText]
    | cons t segs =>
      rw [ih (by simp)]
      simp [List.intercalate_cons_cons]

/-- Unescaping a path is unescaping its segments. -/
theorem relax_pathText (segs : List (List Char)) :
    relax (pathText segs) = pathText (segs.map relax) := by
  induction segs with
  | nil => rfl
  | cons s segs ih =>
    rw [pathText_cons, List.map_cons, pathText_cons, ← ih, List.cons_append,
      relax_cons (by decide)]
    cases segs with
    | nil => simp [pathText]
    | cons t segs =>
      rw [pathText_cons, List.cons_append, relax_append_cons (by decide),
        relax_cons (by decide)]
      rfl

/-- Where no segment has a slash, the segments of a path are known from its text. -/
theorem splitOn_pathText (hne : segs ≠ []) (h : ∀ s ∈ segs, '/' ∉ s) :
    ∃ inner, pathText segs = '/' :: inner ∧ inner.splitOn '/' = segs :=
  ⟨_, pathText_eq hne, List.splitOn_intercalate '/' h hne⟩

/-! Following segments. -/

/-- What holds of the folders, of the segments that are no dots and of an empty one holds of
wherever they lead. -/
theorem forall_walk {P : List Char → Prop} (hf : ∀ s ∈ folders, P s) (hn : P [])
    (hs : ∀ s ∈ segs, isDoubleDot s = false → isSingleDot s = false → P s) :
    ∀ s ∈ walk folders segs, P s := by
  have hup : ∀ fs : List (List Char), (∀ s ∈ fs, P s) → ∀ s ∈ stepUp fs, P s := by
    intro fs hfs s hm
    unfold stepUp at hm
    split at hm
    · split at hm
      · exact hfs s hm
      · exact hfs s ((List.dropLast_sublist fs).subset hm)
    · simp at hm
  fun_induction walk folders segs with
  | case1 fs => simpa [or_imp, forall_and] using ⟨hf, hn⟩
  | case2 fs last hd => simpa [or_imp, forall_and] using ⟨hup fs hf, hn⟩
  | case3 fs last hd h1 => simpa [or_imp, forall_and] using ⟨hf, hn⟩
  | case4 fs last hd h1 =>
    simpa [or_imp, forall_and] using ⟨hf, hs last (by simp) (by simpa using hd) (by simpa using h1)⟩
  | case5 fs s rest _ hd ih => exact ih (hup fs hf) fun t ht => hs t (by simp [ht])
  | case6 fs s rest _ hd h1 ih => exact ih hf fun t ht => hs t (by simp [ht])
  | case7 fs s rest _ hd h1 ih =>
    refine ih ?_ fun t ht => hs t (by simp [ht])
    simpa [or_imp, forall_and] using ⟨hf, hs s (by simp) (by simpa using hd) (by simpa using h1)⟩

/-- Segments that are no dots are followed one after the other. -/
theorem walk_eq_append (hne : segs ≠ [])
    (hs : ∀ s ∈ segs, isDoubleDot s = false ∧ isSingleDot s = false) :
    walk folders segs = folders ++ segs := by
  fun_induction walk folders segs with
  | case1 fs => simp at hne
  | case2 fs last hd => simp [(hs last (by simp)).1] at hd
  | case3 fs last hd h1 => simp [(hs last (by simp)).2] at h1
  | case4 fs last hd h1 => rfl
  | case5 fs s rest _ hd ih => simp [(hs s (by simp)).1] at hd
  | case6 fs s rest _ hd h1 ih => simp [(hs s (by simp)).2] at h1
  | case7 fs s rest hn hd h1 ih =>
    rw [ih (by simpa using hn) fun t ht => hs t (by simp [ht])]
    simp

/-- Nothing is longer after it was followed than it was before. -/
theorem sum_walk_le {f : List Char → Nat} (hf : ∀ s, f [] ≤ f s) (hne : segs ≠ []) :
    ((walk folders segs).map f).sum ≤ (folders.map f).sum + (segs.map f).sum := by
  have hup : ∀ fs : List (List Char), ((stepUp fs).map f).sum ≤ (fs.map f).sum := by
    intro fs
    unfold stepUp
    split
    · split
      · exact Nat.le_refl _
      · exact ((List.dropLast_sublist fs).map f).sum_le_sum fun n _ => Nat.zero_le n
    · simp
  fun_induction walk folders segs with
  | case1 fs => simp at hne
  | case2 fs last hd =>
    have h1 := hup fs
    have h2 := hf last
    simp
    omega
  | case3 fs last hd h1 => simpa using hf last
  | case4 fs last hd h1 => simp
  | case5 fs s rest hn hd ih =>
    have h1 := hup fs
    have h2 := ih (by simpa using hn)
    simp
    omega
  | case6 fs s rest hn hd h1 ih =>
    have h2 := ih (by simpa using hn)
    simp
    omega
  | case7 fs s rest hn hd h1 ih =>
    have h2 := ih (by simpa using hn)
    simp at h2 ⊢
    omega

/-! Paths of addresses. -/

/-- A segment of a path, escaped, and leading down. -/
structure IsStep (k : Kind) (s : List Char) : Prop where
  visible : ∀ c ∈ s, Text.isVisible c = true
  inside : ∀ c ∈ s, isSlash k c = false
  escaped : ∀ c ∈ s, inPath c = false
  noDots : isDoubleDot s = false ∧ isSingleDot s = false

/-- A segment as an endpoint has it: the braces of placeholders and the dots in names stand as they
are. -/
structure IsSegment (k : Kind) (s : List Char) : Prop where
  visible : ∀ c ∈ s, Text.isVisible c = true
  inside : ∀ c ∈ s, isSlash k c = false
  braces : EscapesBraces inPath s
  noDots : s ≠ ['.', '.'] ∧ s ≠ ['.']

theorem visible_of_encoded (h : c.toNat < 0x80) (hp : inPath c = false) :
    Text.isVisible c = true := by
  have hall : ∀ n < 0x80, inPath (Char.ofNat n) = false → Text.isVisible (Char.ofNat n) = true := by
    decide
  exact Text.of_ascii (P := fun c => inPath c = false → Text.isVisible c = true) hall h hp

theorem visible_of_isEscaping (h : isEscaping c = true) :
    Text.isVisible c = true ∧ inPath c = false ∧ isSlash k c = false := by
  have hall : ∀ n < 0x80, isEscaping (Char.ofNat n) = true →
      Text.isVisible (Char.ofNat n) = true ∧ inPath (Char.ofNat n) = false ∧
        Char.ofNat n ≠ '/' ∧ Char.ofNat n ≠ '\\' := by
    decide
  obtain ⟨hv, hp, hs, hb⟩ := Text.of_ascii (P := fun c => isEscaping c = true →
    Text.isVisible c = true ∧ inPath c = false ∧ c ≠ '/' ∧ c ≠ '\\') hall
      (ascii_of_isEscaping h) h
  exact ⟨hv, hp, by simp [isSlash, hs, hb]⟩

theorem inside_of_mem_segments (h : s ∈ segments k cs) : ∀ c ∈ s, isSlash k c = false := by
  intro c hc
  obtain ⟨hslash, hmem⟩ := Text.mem_splitOn h
  obtain ⟨d, -, rfl⟩ := List.mem_map.mp (hmem c hc)
  cases hd : isSlash k d with
  | true => exact (hslash (by simpa [hd] using hc)).elim
  | false => simp [hd]

theorem isStep_of_mem (h : s ∈ pathSegments k cs) : IsStep k s := by
  suffices hall : ∀ s ∈ pathSegments k cs, (∀ c ∈ s, Text.isVisible c = true ∧
      isSlash k c = false ∧ inPath c = false) ∧ isDoubleDot s = false ∧ isSingleDot s = false by
    obtain ⟨hc, hd⟩ := hall s h
    exact ⟨fun c hm => (hc c hm).1, fun c hm => (hc c hm).2.1, fun c hm => (hc c hm).2.2, hd⟩
  refine forall_walk (by simp) ⟨by simp, by decide⟩ fun s hs hdouble hsingle => ?_
  obtain ⟨t, ht, rfl⟩ := List.mem_map.mp hs
  refine ⟨fun c hc => ?_, hdouble, hsingle⟩
  rcases mem_encode hc with ⟨hm, hascii, hp⟩ | hx
  · exact ⟨visible_of_encoded hascii hp, inside_of_mem_segments ht c hm, hp⟩
  · obtain ⟨hv, hp, hi⟩ := visible_of_isEscaping (k := k) hx
    exact ⟨hv, hi, hp⟩

theorem isSegment_relax (h : IsStep k s) : IsSegment k (relax s) := by
  have hplain : ∀ n < 0x80, isPlain (Char.ofNat n) = true → Text.isVisible (Char.ofNat n) = true ∧
      Char.ofNat n ≠ '/' ∧ Char.ofNat n ≠ '\\' ∧ (inPath (Char.ofNat n) = true →
        Char.ofNat n = '\x7b' ∨ Char.ofNat n = '\x7d') := by
    decide
  have hmem (c : Char) (hc : c ∈ relax s) : Text.isVisible c = true ∧ isSlash k c = false ∧
      (inPath c = true → c = '\x7b' ∨ c = '\x7d') := by
    rcases mem_relax hc with hm | ⟨hascii, hp⟩
    · exact ⟨h.visible c hm, h.inside c hm, by simp [h.escaped c hm]⟩
    · obtain ⟨hv, hs, hb, hbrace⟩ := Text.of_ascii (P := fun c => isPlain c = true →
        Text.isVisible c = true ∧ c ≠ '/' ∧ c ≠ '\\' ∧
          (inPath c = true → c = '\x7b' ∨ c = '\x7d')) hplain hascii hp
      exact ⟨hv, by simp [isSlash, hs, hb], hbrace⟩
  refine ⟨fun c hc => (hmem c hc).1, fun c hc => (hmem c hc).2.1,
    fun c hc => ⟨Text.ascii_of_isVisible (hmem c hc).1, (hmem c hc).2.2⟩, ?_, ?_⟩
  · intro hd
    exact absurd h.noDots.1 (by simp [isDoubleDot_iff.mpr hd])
  · intro hd
    exact absurd h.noDots.2 (by simp [isSingleDot_iff.mpr hd])

theorem isSegment_nil (k : Kind) : IsSegment k [] :=
  ⟨by simp, by simp, fun c hc => by simp at hc, by simp⟩

/-- An endpoint is a path of such segments. -/
theorem endpoint_eq_pathText (h : ofChars? cs = some a) (hk : a.kind ≠ .file) :
    ∃ segs, segs ≠ [] ∧ (∀ s ∈ segs, IsSegment a.kind s) ∧ a.endpoint = pathText segs := by
  obtain ⟨_, rest, early, -, -, -, -, hpath, -⟩ := ofChars_eq_some_iff.mp h
  generalize pathPart (early ++ afterAuthority a.kind rest) = path at hpath
  unfold readPath at hpath
  split at hpath
  · exact ⟨[[]], by simp, by simp [isSegment_nil], by simp [endpoint, hpath, pathText]⟩
  · rw [tidySegments, if_neg hk] at hpath
    have hne : (pathSegments a.kind path).map relax ≠ [] := by
      rw [ne_eq, List.map_eq_nil_iff]
      exact walk_ne_nil [] _
    refine ⟨_, hne, ?_, ?_⟩
    · intro s hs
      obtain ⟨t, ht, rfl⟩ := List.mem_map.mp hs
      exact isSegment_relax (isStep_of_mem ht)
    · rw [endpoint, hpath, relax_pathText, pathText_eq hne]
      rfl

theorem not_mem_slash (h : IsSegment k s) : '/' ∉ s := fun hm => by
  simpa [isSlash] using h.inside '/' hm

theorem readPath_pathText (hk : k ≠ .file) (hne : segs ≠ []) (h : ∀ s ∈ segs, IsSegment k s) :
    readPath k (pathText segs) = pathText (walk [] (segs.map (encode inPath))) := by
  obtain ⟨inner, hp, hsplit⟩ := splitOn_pathText hne fun s hs => not_mem_slash (h s hs)
  have hmap : inner.map (fun c => if isSlash k c then '/' else c) = inner := by
    refine (List.map_congr_left fun c hc => ?_).trans (List.map_id inner)
    have hm : c ∈ pathText segs := by simp [hp, hc]
    obtain ⟨s, hs, hcs⟩ := List.mem_flatMap.mp hm
    rcases List.mem_cons.mp hcs with rfl | hcs
    · simp
    · simp [(h s hs).inside c hcs]
  have hslash : isSlash k '/' = true := rfl
  rw [hp, readPath, tidySegments, if_neg hk]
  simp [pathSegments, segments, hslash, hmap, hsplit]

theorem length_pathText (segs : List (List Char)) :
    (pathText segs).length = (segs.map fun s => s.length + 1).sum := by
  simp [pathText, List.length_flatMap]

/-- The segments of an endpoint stay segments where nothing in them is unescaped. -/
theorem map_relax_eq (hne : segs ≠ []) (h : ∀ s ∈ segs, IsSegment k s)
    (hr : relax (pathText segs) = pathText segs) : segs.map relax = segs := by
  have hslash : ∀ s ∈ segs.map relax, '/' ∉ s := by
    intro t ht hm
    obtain ⟨s, hs, rfl⟩ := List.mem_map.mp ht
    rcases mem_relax hm with hm | ⟨-, hp⟩
    · exact not_mem_slash (h s hs) hm
    · exact absurd hp (by decide)
  obtain ⟨inner, hp, hsplit⟩ := splitOn_pathText hne fun s hs => not_mem_slash (h s hs)
  obtain ⟨inner', hp', hsplit'⟩ := splitOn_pathText (by simpa using hne) hslash
  rw [relax_pathText, hp, hp', List.cons.injEq] at hr
  rw [← hsplit', hr.2, hsplit]

/-- An endpoint that is read as a path gives the same endpoint exactly where no escape of a plain
character is left in it. -/
theorem relax_readPath_iff (hk : k ≠ .file) (hne : segs ≠ []) (h : ∀ s ∈ segs, IsSegment k s) :
    relax (readPath k (pathText segs)) = pathText segs ↔ relax (pathText segs) = pathText segs := by
  have hencode : ∀ s ∈ segs, relax (encode inPath s) = relax s := fun s hs =>
    relax_encode (h s hs).braces
  have hmap : (segs.map (encode inPath)).map relax = segs.map relax := by
    simpa using hencode
  rw [readPath_pathText hk hne h, relax_pathText]
  constructor
  · intro heq
    have hle : ((walk [] (segs.map (encode inPath))).map fun s => (relax s).length + 1).sum ≤ _ :=
      sum_walk_le (by simp) (by simpa using hne)
    have hlength : (pathText segs).length ≤ (relax (pathText segs)).length := by
      rw [relax_pathText, ← hmap, ← heq]
      simpa [length_pathText, Function.comp_def] using hle
    exact (relax_eq_or_shorter _).resolve_right (by omega)
  · intro hr
    have hself := map_relax_eq hne h hr
    have hdots : ∀ t ∈ segs.map (encode inPath), isDoubleDot t = false ∧ isSingleDot t = false := by
      intro t ht
      obtain ⟨s, hs, rfl⟩ := List.mem_map.mp ht
      have hs' : relax s = s := (List.map_eq_map_iff (g := id)).mp (by simpa using hself) s hs
      obtain ⟨hdouble, hsingle⟩ := (h s hs).noDots
      rw [Bool.eq_false_iff, Bool.eq_false_iff, ne_eq, ne_eq, isDoubleDot_iff, isSingleDot_iff,
        hencode s hs, hs']
      exact ⟨hdouble, hsingle⟩
    rw [walk_eq_append (by simpa using hne) hdots, List.nil_append, hmap, hself]

end CurlScribe.Address
