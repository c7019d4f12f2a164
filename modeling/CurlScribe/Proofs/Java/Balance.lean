import CurlScribe.Java.Literal
import CurlScribe.Java.Source
import CurlScribe.Proofs.Java.Name

/-! Source text in which braces and parentheses balance and literals end on their line. -/
namespace CurlScribe.Java

variable {cs ds : List Char} {s t : String} {ls ms : List Line} {l : Line} {c : Char}

/-- In the code, in a literal, or behind a backslash in one. -/
inductive Place where
  | code
  | literal
  | escape
deriving DecidableEq

/-- How many braces and parentheses are open at a place in a source text. -/
structure Nesting where
  braces : Nat := 0
  parens : Nat := 0
  place : Place := .code
deriving DecidableEq

def isLineEnd (c : Char) : Bool := c == '\n' || c == '\x0d'

namespace Nesting

variable {s t u : Nesting}

/-- The nesting after one more character. Nothing can be closed that is not open, and no line can
end inside a literal. -/
def next? (s : Nesting) (c : Char) : Option Nesting :=
  match s.place with
  | .code =>
    if c = '"' then some { s with place := .literal }
    else if c = '\x7b' then some { s with braces := s.braces + 1 }
    else if c = '\x7d' then if s.braces = 0 then none else some { s with braces := s.braces - 1 }
    else if c = '(' then some { s with parens := s.parens + 1 }
    else if c = ')' then if s.parens = 0 then none else some { s with parens := s.parens - 1 }
    else some s
  | .literal =>
    if isLineEnd c then none
    else if c = '"' then some { s with place := .code }
    else if c = '\\' then some { s with place := .escape }
    else some s
  | .escape => if isLineEnd c then none else some { s with place := .literal }

def after? (s : Nesting) (cs : List Char) : Option Nesting := cs.foldlM next? s

/-- The same place inside so many further braces and parentheses. -/
def within (braces parens : Nat) (s : Nesting) : Nesting :=
  ⟨s.braces + braces, s.parens + parens, s.place⟩

theorem after?_append : s.after? (cs ++ ds) = (s.after? cs).bind (·.after? ds) :=
  List.foldlM_append ..

theorem after?_cons : s.after? (c :: cs) = (s.next? c).bind (·.after? cs) := rfl

theorem next?_within (b p : Nat) (h : s.next? c = some t) :
    (s.within b p).next? c = some (t.within b p) := by
  obtain ⟨braces, parens, place⟩ := s
  cases place with
  | code => simp only [next?, within] at h ⊢; grind
  | literal => simp only [next?, within] at h ⊢; grind
  | escape => simp only [next?, within] at h ⊢; grind

theorem after?_within (b p : Nat) (h : s.after? cs = some t) :
    (s.within b p).after? cs = some (t.within b p) := by
  induction cs generalizing s with
  | nil =>
    obtain rfl : s = t := by simpa [after?] using h
    rfl
  | cons c cs ih =>
    rw [after?_cons] at h ⊢
    obtain ⟨u, hu, h⟩ := Option.bind_eq_some_iff.mp h
    rw [next?_within b p hu]
    exact ih h

end Nesting

/-- Nothing is closed that is not open, no line ends inside a literal, and in the end everything is
closed. -/
def IsBalanced (cs : List Char) : Prop := Nesting.after? {} cs = some {}

instance (cs : List Char) : Decidable (IsBalanced cs) :=
  inferInstanceAs (Decidable (Nesting.after? {} cs = some {}))

/-- However deep it stands, a balanced text leads back to where it starts. -/
theorem IsBalanced.after (h : IsBalanced cs) (b p : Nat) :
    Nesting.after? ⟨b, p, .code⟩ cs = some ⟨b, p, .code⟩ := by
  simpa [Nesting.within] using Nesting.after?_within b p h

theorem balanced_nil : IsBalanced [] := rfl

theorem IsBalanced.append (hc : IsBalanced cs) (hd : IsBalanced ds) : IsBalanced (cs ++ ds) := by
  rw [IsBalanced, Nesting.after?_append, hc]
  exact hd

/-! Texts on one line. -/

/-- The text stays on one line, and reading it leads from one nesting to another. -/
structure Leads (a : Nesting) (s : String) (b : Nesting) : Prop where
  reads : a.after? s.toList = some b
  oneLine : ∀ c ∈ s.toList, isLineEnd c = false

instance (a b : Nesting) (s : String) : Decidable (Leads a s b) :=
  have : Decidable (∀ c ∈ s.toList, isLineEnd c = false) := List.decidableBAll _ s.toList
  decidable_of_iff (a.after? s.toList = some b ∧ ∀ c ∈ s.toList, isLineEnd c = false)
    ⟨fun h => ⟨h.1, h.2⟩, fun h => ⟨h.1, h.2⟩⟩

namespace Leads

variable {x y z : Nesting}

theorem append (hs : Leads x s y) (ht : Leads y t z) : Leads x (s ++ t) z where
  reads := by rw [String.toList_append, Nesting.after?_append, hs.reads]; exact ht.reads
  oneLine := by
    rw [String.toList_append]
    exact List.forall_mem_append.mpr ⟨hs.oneLine, ht.oneLine⟩

theorem within (h : Leads x s y) (b p : Nat) : Leads (x.within b p) s (y.within b p) :=
  ⟨Nesting.after?_within b p h.reads, h.oneLine⟩

end Leads

/-- A text that leads back to where it starts. -/
def IsText (s : String) : Prop := Leads {} s {}

/-- A text that leaves one brace open. -/
def Opens (s : String) : Prop := Leads {} s { braces := 1 }

instance (s : String) : Decidable (IsText s) := inferInstanceAs (Decidable (Leads {} s {}))

instance (s : String) : Decidable (Opens s) :=
  inferInstanceAs (Decidable (Leads {} s { braces := 1 }))

theorem IsText.append (hs : IsText s) (ht : IsText t) : IsText (s ++ t) := Leads.append hs ht

theorem IsText.opens (hs : IsText s) (ht : Opens t) : Opens (s ++ t) := Leads.append hs ht

/-- However deep it stands, it leads back. -/
theorem IsText.deep (h : IsText s) (b p : Nat) : Leads ⟨b, p, .code⟩ s ⟨b, p, .code⟩ := by
  simpa [Nesting.within] using Leads.within h b p

/-- What is opened before a text may be closed behind it. -/
theorem IsText.between {start rest : String} {z : Nesting} (b p : Nat) (h : IsText s)
    (hstart : Leads {} start ⟨b, p, .code⟩) (hrest : Leads ⟨b, p, .code⟩ rest z) :
    Leads {} (start ++ s ++ rest) z :=
  (hstart.append (h.deep b p)).append hrest

theorem isText_intercalate {sep : String} {ts : List String} (hs : IsText sep)
    (h : ∀ t ∈ ts, IsText t) : IsText (sep.intercalate ts) := by
  induction ts with
  | nil => exact (by decide : IsText "")
  | cons t ts ih =>
    have ht : IsText t := h t (by simp)
    by_cases hnil : ts = []
    · simpa [hnil] using ht
    · rw [String.intercalate_cons_of_ne_nil hnil]
      exact (ht.append hs).append (ih fun u hu => h u (by simp [hu]))

/-- The characters that a reader of code takes notice of. -/
def marks : List Char := ['"', '\x7b', '\x7d', '(', ')', '\n', '\x0d']

theorem isBalanced_of_plain (h : ∀ c ∈ cs, c ∉ marks) : IsBalanced cs := by
  induction cs with
  | nil => exact balanced_nil
  | cons c cs ih =>
    have hnext : Nesting.next? {} c = some {} := by
      have hc : c ∉ marks := h c (by simp)
      simp only [marks, List.mem_cons, not_or] at hc
      simp [Nesting.next?, hc]
    rw [IsBalanced, Nesting.after?_cons, hnext]
    exact ih fun d hd => h d (by simp [hd])

/-- A text of characters among which there are no marks. -/
theorem isText_of_class {p : Char → Bool} (hp : marks.all (fun d => !p d) = true)
    (h : ∀ c ∈ s.toList, p c = true) : IsText s := by
  have hplain : ∀ c ∈ s.toList, c ∉ marks := by
    intro c hc hm
    have hoff := List.all_eq_true.mp hp c hm
    simp [h c hc] at hoff
  refine ⟨isBalanced_of_plain hplain, fun c hc => ?_⟩
  have hne := hplain c hc
  simp only [marks, List.mem_cons, not_or] at hne
  simp [isLineEnd, hne]

theorem IsName.isText (h : IsName s.toList) : IsText s := isText_of_class (by decide) h

/-! Literals. -/

/-- Characters that neither end a literal nor start an escape in it nor end its line. -/
def isInner (c : Char) : Bool := c != '"' && c != '\\' && !isLineEnd c

theorem isInner_iff : isInner c = true ↔ (c ≠ '"' ∧ c ≠ '\\') ∧ isLineEnd c = false := by
  simp [isInner]

theorem isInner_digitChar {n : Nat} (h : n < 16) : isInner (Nat.digitChar n) = true := by
  have hall : ∀ n < 16, isInner (Nat.digitChar n) = true := by decide
  exact hall n h

/-- The character that stands behind a backslash for another one. -/
def resolved? : Char → Option Char
  | 'b' => some '\x08'
  | 't' => some '\t'
  | 'n' => some '\n'
  | 'f' => some '\x0c'
  | 'r' => some '\x0d'
  | '"' => some '"'
  | '\\' => some '\\'
  | _ => none

/-- The four digits of one of the first characters. -/
def latinDigits (n : Nat) : List Char := ['0', '0', Nat.digitChar (n / 16), Nat.digitChar (n % 16)]

theorem isInner_of_mem_latinDigits {n : Nat} (hn : n < 0x100) (h : c ∈ latinDigits n) :
    isInner c = true := by
  simp only [latinDigits, List.mem_cons, List.not_mem_nil, or_false] at h
  rcases h with rfl | rfl | rfl | rfl
  · rfl
  · rfl
  · exact isInner_digitChar (by omega)
  · exact isInner_digitChar (by omega)

/-- A character is written as it is, by a backslash and another one, or by its number. -/
theorem exists_escapeChar (c : Char) :
    (escapeChar c = [c] ∧ isInner c = true) ∨
      (∃ e, escapeChar c = ['\\', e] ∧ resolved? e = some c) ∨
        (escapeChar c = '\\' :: 'u' :: latinDigits c.toNat ∧ c.toNat < 0x100 ∧
          isInner c = true) := by
  unfold escapeChar
  split
  case h_8 hquote hslash hfeed hreturn htab hback hform =>
    have hinner : isInner c = true := by simp_all [isInner, isLineEnd]
    split
    · rename_i hcontrol
      have hlt : c.toNat < 0x100 := by
        simp only [Text.isControl, Bool.or_eq_true, Bool.and_eq_true, decide_eq_true_eq] at hcontrol
        omega
      exact .inr (.inr ⟨rfl, hlt, hinner⟩)
    · exact .inl ⟨rfl, hinner⟩
  all_goals exact .inr (.inl ⟨_, rfl, rfl⟩)

/-- A character stands in a literal as it is, or behind a backslash. -/
theorem escapeChar_cases (c : Char) :
    (escapeChar c = [c] ∧ isInner c = true) ∨
      ∃ d ds, escapeChar c = '\\' :: d :: ds ∧ isLineEnd d = false ∧
        ∀ e ∈ ds, isInner e = true := by
  rcases exists_escapeChar c with hc | ⟨e, hc, he⟩ | ⟨hc, hlt, -⟩
  · exact .inl hc
  · have hend : isLineEnd e = false := by
      by_contra hline
      rcases Bool.or_eq_true_iff.mp (Bool.not_eq_false _ ▸ hline) with hline | hline
      · obtain rfl := beq_iff_eq.mp hline
        simp [resolved?] at he
      · obtain rfl := beq_iff_eq.mp hline
        simp [resolved?] at he
    exact .inr ⟨e, [], hc, hend, by simp⟩
  · exact .inr ⟨'u', latinDigits c.toNat, hc, rfl, fun e he => isInner_of_mem_latinDigits hlt he⟩

theorem not_isLineEnd_of_isInner (h : isInner c = true) : isLineEnd c = false :=
  (isInner_iff.mp h).2

theorem isInner_of_isNameChar (h : isNameChar c = true) : isInner c = true := by
  have hne (d : Char) (hd : isNameChar d = false) : c ≠ d := by
    rintro rfl
    simp [h] at hd
  simp [isInner, isLineEnd, hne '"' (by decide), hne '\\' (by decide), hne '\n' (by decide),
    hne '\x0d' (by decide)]

namespace Nesting

theorem after?_inner (b p : Nat) (h : ∀ c ∈ cs, isInner c = true) :
    after? ⟨b, p, .literal⟩ cs = some ⟨b, p, .literal⟩ := by
  induction cs with
  | nil => rfl
  | cons c cs ih =>
    have hc := isInner_iff.mp (h c (by simp))
    have hnext : next? ⟨b, p, .literal⟩ c = some ⟨b, p, .literal⟩ := by simp [next?, hc]
    rw [after?_cons, hnext]
    exact ih fun d hd => h d (by simp [hd])

/-- An escaped character leads back into its literal. -/
theorem after?_escapeChar (b p : Nat) (c : Char) :
    after? ⟨b, p, .literal⟩ (escapeChar c) = some ⟨b, p, .literal⟩ := by
  rcases escapeChar_cases c with ⟨hc, hinner⟩ | ⟨d, ds, hc, hd, hds⟩
  · rw [hc]
    exact after?_inner b p (by simpa using hinner)
  · have hslash : next? ⟨b, p, .literal⟩ '\\' = some ⟨b, p, .escape⟩ := rfl
    have hnext : next? ⟨b, p, .escape⟩ d = some ⟨b, p, .literal⟩ := by simp [next?, hd]
    rw [hc, after?_cons, hslash, Option.bind_some, after?_cons, hnext]
    exact after?_inner b p hds

theorem after?_escaped (b p : Nat) (cs : List Char) :
    after? ⟨b, p, .literal⟩ (cs.flatMap escapeChar) = some ⟨b, p, .literal⟩ := by
  induction cs with
  | nil => rfl
  | cons c cs ih => rw [List.flatMap_cons, after?_append, after?_escapeChar, Option.bind_some, ih]

end Nesting

theorem not_isLineEnd_of_mem_escapeChar {d : Char} (h : c ∈ escapeChar d) :
    isLineEnd c = false := by
  rcases escapeChar_cases d with ⟨hd, hinner⟩ | ⟨e, es, hd, he, hes⟩
  · obtain rfl : c = d := by simpa [hd] using h
    exact not_isLineEnd_of_isInner hinner
  · rw [hd, List.mem_cons, List.mem_cons] at h
    rcases h with rfl | rfl | h
    · rfl
    · exact he
    · exact not_isLineEnd_of_isInner (hes c h)

theorem leads_inner (b p : Nat) (h : ∀ c ∈ s.toList, isInner c = true) :
    Leads ⟨b, p, .literal⟩ s ⟨b, p, .literal⟩ :=
  ⟨Nesting.after?_inner b p h, fun c hc => not_isLineEnd_of_isInner (h c hc)⟩

/-- A literal is read to its end, whatever text it stands for. -/
theorem isText_literal (s : String) : IsText (literal s) := by
  have hescaped : Leads ⟨0, 0, .literal⟩ (escape s) ⟨0, 0, .literal⟩ := by
    rw [escape]
    refine ⟨?_, fun c hc => ?_⟩
    · rw [String.toList_ofList]
      exact Nesting.after?_escaped 0 0 s.toList
    · rw [String.toList_ofList] at hc
      obtain ⟨d, -, hd⟩ := List.mem_flatMap.mp hc
      exact not_isLineEnd_of_mem_escapeChar hd
  have hopen : Leads {} "\"" ⟨0, 0, .literal⟩ := by decide
  have hclose : Leads ⟨0, 0, .literal⟩ "\"" {} := by decide
  exact (hopen.append hescaped).append hclose

/-! Lines. -/

/-- The text of lines without their indentation. -/
def unindented (ls : List Line) : List Char := ls.flatMap fun l => l.text.toList ++ ['\n']

/-- Lines that each are one line and together lead back to where they start. -/
structure AreLines (ls : List Line) : Prop where
  balanced : IsBalanced (unindented ls)
  oneLine : ∀ l ∈ ls, ∀ c ∈ l.text.toList, isLineEnd c = false

theorem unindented_cons (l : Line) (ls : List Line) :
    unindented (l :: ls) = l.text.toList ++ '\n' :: unindented ls := by
  simp [unindented]

theorem unindented_append (ls ms : List Line) :
    unindented (ls ++ ms) = unindented ls ++ unindented ms :=
  List.flatMap_append

theorem text_deeper (n : Nat) (l : Line) : (l.deeper n).text = l.text := by
  unfold Line.deeper
  split <;> rfl

theorem unindented_deeper (n : Nat) (ls : List Line) :
    unindented (ls.map (Line.deeper n)) = unindented ls := by
  simp [unindented, List.flatMap_map, text_deeper]

instance (ls : List Line) : Decidable (AreLines ls) :=
  have (l : Line) : Decidable (∀ c ∈ l.text.toList, isLineEnd c = false) :=
    List.decidableBAll _ l.text.toList
  have : Decidable (∀ l ∈ ls, ∀ c ∈ l.text.toList, isLineEnd c = false) :=
    List.decidableBAll _ ls
  decidable_of_iff
    (IsBalanced (unindented ls) ∧ ∀ l ∈ ls, ∀ c ∈ l.text.toList, isLineEnd c = false)
    ⟨fun h => ⟨h.1, h.2⟩, fun h => ⟨h.1, h.2⟩⟩

theorem areLines_nil : AreLines [] := ⟨balanced_nil, by simp⟩

theorem AreLines.append (hl : AreLines ls) (hm : AreLines ms) : AreLines (ls ++ ms) where
  balanced := by
    rw [unindented_append]
    exact hl.balanced.append hm.balanced
  oneLine := List.forall_mem_append.mpr ⟨hl.oneLine, hm.oneLine⟩

theorem areLines_cons (h : IsText l.text) (hl : AreLines ls) : AreLines (l :: ls) where
  balanced := by
    have hend : IsBalanced ['\n'] := by decide
    rw [unindented_cons, List.append_cons]
    exact (IsBalanced.append h.reads hend).append hl.balanced
  oneLine := List.forall_mem_cons.mpr ⟨h.oneLine, hl.oneLine⟩

theorem areLines_singleton (h : IsText l.text) : AreLines [l] := areLines_cons h areLines_nil

theorem areLines_of_texts (h : ∀ l ∈ ls, IsText l.text) : AreLines ls := by
  induction ls with
  | nil => exact areLines_nil
  | cons l ls ih => exact areLines_cons (h l (by simp)) (ih fun m hm => h m (by simp [hm]))

theorem areLines_flatMap {α : Type} {f : α → List Line} {as : List α}
    (h : ∀ a ∈ as, AreLines (f a)) : AreLines (as.flatMap f) := by
  induction as with
  | nil => exact areLines_nil
  | cons a as ih =>
    rw [List.flatMap_cons]
    exact (h a (by simp)).append (ih fun b hb => h b (by simp [hb]))

theorem areLines_block {opening : String} (ho : Opens opening) (h : AreLines ls) :
    AreLines (block opening ls) where
  balanced := by
    have heq : unindented (block opening ls) =
        (opening.toList ++ ['\n']) ++ (unindented ls ++ "\x7d\n".toList) := by
      simp only [block, List.cons_append, unindented_cons, unindented_append, unindented_deeper]
      simp [unindented]
    have hline : Nesting.after? {} (opening.toList ++ ['\n']) = some { braces := 1 } := by
      rw [Nesting.after?_append, ho.reads]
      rfl
    rw [heq, IsBalanced, Nesting.after?_append, hline, Option.bind_some, Nesting.after?_append,
      h.balanced.after]
    rfl
  oneLine := by
    have hinside : ∀ l ∈ ls.map (Line.deeper 1), ∀ c ∈ l.text.toList, isLineEnd c = false := by
      intro l hl
      obtain ⟨m, hm, rfl⟩ := List.mem_map.mp hl
      rw [text_deeper]
      exact h.oneLine m hm
    refine List.forall_mem_append.mpr ⟨List.forall_mem_cons.mpr ⟨ho.oneLine, hinside⟩, ?_⟩
    simp [isLineEnd]

theorem render_cons (l : Line) (ls : List Line) : (render (l :: ls)).toList =
    List.replicate (4 * l.depth) ' ' ++ (l.text.toList ++ '\n' :: (render ls).toList) := by
  simp [render, Line.render, String.join_cons]

/-- Lines start outside of literals, so that their indentation is not read. -/
theorem after?_render {b p : Nat} {z : Nesting}
    (h : Nesting.after? ⟨b, p, .code⟩ (unindented ls) = some z) :
    Nesting.after? ⟨b, p, .code⟩ (render ls).toList = some z := by
  induction ls generalizing b p with
  | nil => exact h
  | cons l ls ih =>
    have hindent : IsBalanced (List.replicate (4 * l.depth) ' ') := by
      refine isBalanced_of_plain fun c hc => ?_
      obtain rfl : c = ' ' := List.eq_of_mem_replicate hc
      decide
    rw [unindented_cons, Nesting.after?_append] at h
    obtain ⟨⟨b', p', place⟩, htext, h⟩ := Option.bind_eq_some_iff.mp h
    rw [render_cons, Nesting.after?_append, hindent.after, Option.bind_some, Nesting.after?_append,
      htext, Option.bind_some]
    cases place with
    | code => exact ih h
    | literal => cases h
    | escape => cases h

theorem AreLines.isBalanced (h : AreLines ls) : IsBalanced (render ls).toList :=
  after?_render h.balanced

end CurlScribe.Java
