import CurlScribe.Proofs.Java.Balance

/-! The types and methods that the lines of a source text name. -/
namespace CurlScribe.Java

variable {cs ds w : List Char} {s t name : String} {ls ms : List Line} {c : Char}

/-- What a line imports or declares. -/
inductive Naming where
  | imported (type : String)
  | declared (type : String)
  | method (name : String)
deriving DecidableEq

/-- The words of a line, between which there are blanks. -/
def lineWords (line : List Char) : List (List Char) := (line.splitOn ' ').filter (!·.isEmpty)

/-- A type without its package. -/
def simpleName (type : String) : String :=
  String.ofList ((type.toList.splitOn '.').getLast?.getD [])

/-- An import ends in a semicolon, and the name of a method at its parameters. Static imports name
no type, and of the methods only those without a result are read. -/
def naming? (line : List Char) : Option Naming :=
  match (lineWords line).map String.ofList with
  | ["import", type] => some (.imported (simpleName (String.ofList type.toList.dropLast)))
  | "public" :: "class" :: name :: _ => some (.declared name)
  | "public" :: "static" :: "class" :: name :: _ => some (.declared name)
  | "public" :: "void" :: name :: _ =>
    some (.method (String.ofList (name.toList.takeWhile (· ≠ '('))))
  | _ => none

def namings (source : String) : List Naming := (source.toList.splitOn '\n').filterMap naming?

def Naming.type? : Naming → Option String
  | imported type => some type
  | declared type => some type
  | method _ => none

def Naming.method? : Naming → Option String
  | method name => some name
  | _ => none

/-- No two of the types that are imported or declared have one name, and no two of the methods. -/
structure NoClash (source : String) : Prop where
  types : ((namings source).filterMap Naming.type?).Nodup
  methods : ((namings source).filterMap Naming.method?).Nodup

/-! Words. -/

theorem lineWords_blank (cs : List Char) : lineWords (' ' :: cs) = lineWords cs := by
  simp [lineWords, List.splitOn_cons_eq_if_modifyHead]

theorem lineWords_append (hw : ' ' ∉ w) (hne : w ≠ []) (cs : List Char) :
    lineWords (w ++ ' ' :: cs) = w :: lineWords cs := by
  simp [lineWords, List.splitOn_append_cons_self_of_not_mem hw, hne]

/-- What does not start with a blank starts with a word. -/
theorem exists_lineWords (h : c ≠ ' ') (cs : List Char) :
    ∃ w ws, lineWords (c :: cs) = (c :: w) :: ws := by
  cases hs : cs.splitOn ' ' with
  | nil => exact (List.splitOn_ne_nil ' ' cs hs).elim
  | cons first more =>
    exact ⟨first, more.filter (!·.isEmpty), by
      simp [lineWords, List.splitOn_cons_eq_if_modifyHead, h, hs]⟩

/-! Lines. -/

theorem naming?_indented (n : Nat) (cs : List Char) :
    naming? (List.replicate n ' ' ++ cs) = naming? cs := by
  induction n with
  | zero => rfl
  | succ n ih =>
    rw [List.replicate_succ, List.cons_append, naming?, lineWords_blank]
    exact ih

/-- Names are read from the lines that a source is rendered from. -/
theorem namings_render (h : ∀ l ∈ ls, ∀ c ∈ l.text.toList, isLineEnd c = false) :
    namings (render ls) = ls.filterMap fun l => naming? l.text.toList := by
  induction ls with
  | nil => rfl
  | cons l ls ih =>
    have hline : '\n' ∉ List.replicate (4 * l.depth) ' ' ++ l.text.toList := by
      intro hmem
      rcases List.mem_append.mp hmem with hmem | hmem
      · simp at hmem
      · simpa [isLineEnd] using h l (by simp) _ hmem
    rw [namings, render_cons, ← List.append_assoc,
      List.splitOn_append_cons_self_of_not_mem hline, List.filterMap_cons, naming?_indented,
      List.filterMap_cons]
    rw [namings] at ih
    rw [ih fun m hm => h m (by simp [hm])]

/-- Starts neither with a blank nor as `import` and `public` do. -/
def isSilent (s : String) : Bool :=
  match s.toList with
  | [] => true
  | c :: _ => c ≠ ' ' && c ≠ 'i' && c ≠ 'p'

theorem naming?_of_isSilent (h : isSilent s = true) : naming? s.toList = none := by
  unfold isSilent at h
  split at h
  · rename_i hnil
    rw [hnil]
    rfl
  · rename_i c cs hcons
    simp only [ne_eq, decide_not, Bool.and_eq_true, Bool.not_eq_true', decide_eq_false_iff_not] at h
    obtain ⟨w, ws, hwords⟩ := exists_lineWords h.1.1 cs
    have hfirst {v : String} {d : Char} {ds : List Char} (hv : v.toList = d :: ds) (hne : c ≠ d) :
        String.ofList (c :: w) ≠ v := by
      rintro rfl
      rw [String.toList_ofList] at hv
      exact hne (List.cons_eq_cons.mp hv).1
    have himport : String.ofList (c :: w) ≠ "import" := hfirst rfl h.1.2
    have hpublic : String.ofList (c :: w) ≠ "public" := hfirst rfl h.2
    rw [hcons, naming?, hwords, List.map_cons]
    split <;> simp_all

theorem isSilent_append (hs : isSilent s = true) (hne : s ≠ "") : isSilent (s ++ t) = true := by
  unfold isSilent at hs ⊢
  rw [String.toList_append]
  cases hcs : s.toList with
  | nil => exact (hne (String.toList_eq_nil_iff.mp hcs)).elim
  | cons c cs => simpa [hcs] using hs

/-! Blocks. -/

/-- What lines name, read without their indentation. -/
def named (ls : List Line) : List Naming := ls.filterMap fun l => naming? l.text.toList

theorem named_append (ls ms : List Line) : named (ls ++ ms) = named ls ++ named ms :=
  List.filterMap_append

theorem named_singleton (l : Line) : named [l] = (naming? l.text.toList).toList := by
  rw [named, List.filterMap_cons]
  cases naming? l.text.toList <;> rfl

theorem named_of_isSilent (h : ∀ l ∈ ls, isSilent l.text = true) : named ls = [] :=
  List.filterMap_eq_nil_iff.mpr fun l hl => naming?_of_isSilent (h l hl)

theorem named_block (opening : String) (inside : List Line) :
    named (block opening inside) = (naming? opening.toList).toList ++ named inside := by
  have hend : naming? "\x7d".toList = none := naming?_of_isSilent (by decide)
  have hinside : named (inside.map (Line.deeper 1)) = named inside := by
    rw [named, List.filterMap_map]
    simp only [Function.comp_def, text_deeper]
    rfl
  rw [block, named_append, ← List.singleton_append, named_append, named_singleton, named_singleton,
    hend, hinside]
  simp

/-! Imports, and the openings of classes and methods. -/

theorem IsName.not_mem (h : IsName cs) (hc : isNameChar c = false) : c ∉ cs := fun hmem => by
  simp [h c hmem] at hc

theorem naming?_import (h : ' ' ∉ name.toList) :
    naming? ("import " ++ name ++ ";").toList = some (.imported (simpleName name)) := by
  have hblank : ' ' ∉ name.toList ++ ";".toList := by simpa using h
  have hwords : lineWords ("import " ++ name ++ ";").toList =
      ["import".toList, name.toList ++ ";".toList] := by
    have heq : ("import " ++ name ++ ";").toList =
        "import".toList ++ ' ' :: (name.toList ++ ";".toList) := by simp
    rw [heq, lineWords_append (by decide) (by decide), lineWords,
      List.splitOn_eq_singleton hblank]
    simp
  rw [naming?, hwords]
  simp

/-- What is imported statically is no type. -/
theorem naming?_static (h : ' ' ∉ name.toList) :
    naming? ("import static " ++ name ++ ";").toList = none := by
  have hblank : ' ' ∉ name.toList ++ ";".toList := by simpa using h
  have hwords : lineWords ("import static " ++ name ++ ";").toList =
      ["import".toList, "static".toList, name.toList ++ ";".toList] := by
    have heq : ("import static " ++ name ++ ";").toList = "import".toList ++ ' ' ::
        ("static".toList ++ ' ' :: (name.toList ++ ";".toList)) := by simp
    rw [heq, lineWords_append (by decide) (by decide), lineWords_append (by decide) (by decide),
      lineWords, List.splitOn_eq_singleton hblank]
    simp
  rw [naming?, hwords]
  simp

theorem naming?_class (h : IsName name.toList) (hne : name ≠ "") :
    naming? ("public class " ++ name ++ " \x7b").toList = some (.declared name) := by
  have hblank : ' ' ∉ name.toList := h.not_mem (by decide)
  have hwords : lineWords ("public class " ++ name ++ " \x7b").toList =
      ["public".toList, "class".toList, name.toList, "\x7b".toList] := by
    have heq : ("public class " ++ name ++ " \x7b").toList = "public".toList ++ ' ' ::
        ("class".toList ++ ' ' :: (name.toList ++ ' ' :: "\x7b".toList)) := by simp
    rw [heq, lineWords_append (by decide) (by decide), lineWords_append (by decide) (by decide),
      lineWords_append hblank (by simpa using hne)]
    rfl
  rw [naming?, hwords]
  simp only [List.map_cons, String.ofList_toList]

theorem naming?_method (h : IsName name.toList) :
    naming? ("public void " ++ name ++ "() \x7b").toList = some (.method name) := by
  have hblank : ' ' ∉ name.toList ++ "()".toList := by
    simpa using h.not_mem (by decide : isNameChar ' ' = false)
  have hwords : lineWords ("public void " ++ name ++ "() \x7b").toList =
      ["public".toList, "void".toList, name.toList ++ "()".toList, "\x7b".toList] := by
    have heq : ("public void " ++ name ++ "() \x7b").toList = "public".toList ++ ' ' ::
        ("void".toList ++ ' ' :: ((name.toList ++ "()".toList) ++ ' ' :: "\x7b".toList)) := by simp
    rw [heq, lineWords_append (by decide) (by decide), lineWords_append (by decide) (by decide),
      lineWords_append hblank (by simp)]
    rfl
  have hparens : (name.toList ++ "()".toList).takeWhile (· ≠ '(') = name.toList := by
    have hno : '(' ∉ name.toList := h.not_mem (by decide)
    refine Text.takeWhile_append_stop (fun c hc => ?_) (by simp)
    simpa using fun hparen : c = '(' => hno (hparen ▸ hc)
  rw [naming?, hwords]
  simp only [List.map_cons, String.ofList_toList, String.ofList_append, String.toList_append,
    hparens]

end CurlScribe.Java
