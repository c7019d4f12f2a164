import CurlScribe.Text.Ascii
import CurlScribe.Text.Blank
import Mathlib.Data.List.TakeWhile

/-! Markup read into its tags and into its elements with their texts, and texts read with their
entities resolved. -/
namespace CurlScribe.Markup

/-! Contents. -/

/-- An element, with the names of the elements around it from the outermost on, and the text that
stands in it but in no element inside it. -/
structure Element where
  around : List String
  name : String
  text : List Char
deriving DecidableEq

/-- What stands in a document or in an element: the text that is in no element inside it, what is
written between the brackets of each tag, and the elements, in the order in which they end. -/
structure Content where
  text : List Char := []
  tags : List String := []
  elements : List Element := []
deriving DecidableEq

namespace Content

/-- The texts of the elements of a name that stand right inside those of the other names. -/
def texts (k : Content) (around : List String) (name : String) : List (List Char) :=
  (k.elements.filter fun e => e.around = around ∧ e.name = name).map Element.text

/-- One content behind the other. -/
def append (k l : Content) : Content :=
  ⟨k.text ++ l.text, k.tags ++ l.tags, k.elements ++ l.elements⟩

instance : Append Content := ⟨append⟩

/-- The same content inside some elements. -/
def inside (names : List String) (k : Content) : Content :=
  { k with elements := k.elements.map fun e => { e with around := names ++ e.around } }

/-- A content as the only element of another one. -/
def enclosed (tag name : String) (k : Content) : Content where
  tags := tag :: k.tags ++ ["/" ++ name]
  elements := (k.inside [name]).elements ++ [⟨[], name, k.text⟩]

variable {k l : Content} {around : List String} {name other outer tag : String}

theorem append_def (k l : Content) :
    k ++ l = ⟨k.text ++ l.text, k.tags ++ l.tags, k.elements ++ l.elements⟩ := rfl

theorem append_assoc (k l m : Content) : k ++ l ++ m = k ++ (l ++ m) := by
  simp [append_def]

theorem inside_append (names : List String) (k l : Content) :
    (k ++ l).inside names = k.inside names ++ l.inside names := by
  simp [inside, append_def]

theorem tags_append : (k ++ l).tags = k.tags ++ l.tags := rfl

theorem texts_append :
    (k ++ l).texts around name = k.texts around name ++ l.texts around name := by
  simp [texts, append_def]

theorem texts_plain (cs : List Char) : ({ text := cs } : Content).texts around name = [] := rfl

theorem tags_enclosed : (k.enclosed tag name).tags = tag :: k.tags ++ ["/" ++ name] := rfl

theorem texts_enclosed :
    (k.enclosed tag name).texts [] other = if name = other then [k.text] else [] := by
  have hinner :
      (k.inside [name]).elements.filter (fun e => e.around = [] ∧ e.name = other) = [] := by
    simp [inside, List.filter_map]
  rw [texts, enclosed, List.filter_append, hinner]
  by_cases h : name = other <;> simp [h]

theorem texts_enclosed_cons :
    (k.enclosed tag name).texts (outer :: around) other =
      if name = outer then k.texts around other else [] := by
  by_cases h : name = outer <;>
    simp [texts, enclosed, inside, List.filter_map, Function.comp_def, h]

end Content

/-! Tags. -/

/-- The brackets of tags, and the quotes of values in them. -/
def marks : List Char := ['<', '>', '"', '\'']

inductive Tag where
  | declaration
  | opening (name : String)
  | closing (name : String)
deriving DecidableEq

def isTagNameChar (c : Char) : Bool :=
  Text.isAsciiAlnum c || c == '.' || c == '-' || c == '_' || c == ':'

/-- The name of an opening tag ends with it or at a blank. Comments, sections and elements without a
closing tag are not read. -/
def Tag.ofChars? (tag : List Char) : Option Tag :=
  match tag with
  | '?' :: _ => some .declaration
  | '/' :: name => some (.closing (String.ofList name))
  | cs =>
    let name := cs.takeWhile isTagNameChar
    if name = [] ∨ cs.getLast? = some '/' ∨
      (cs.dropWhile isTagNameChar).head?.all Text.isBlank = false then none
    else some (.opening (String.ofList name))

/-- Outside the tags, in a tag, or between quotes in a tag. -/
inductive Place where
  | content
  | tag
  | value (quote : Char)
deriving DecidableEq

/-- The place after one more character of a tag, in which no opening bracket may stand. -/
def Place.next? (p : Place) (c : Char) : Option Place :=
  match p with
  | .content => none
  | .tag =>
    if c = '<' ∨ c = '>' then none
    else if c = '"' ∨ c = '\'' then some (.value c)
    else some .tag
  | .value quote => if c = '<' then none else if c = quote then some .tag else some (.value quote)

/-! Reading. -/

/-- How far a document has been read: what there is of the tag in which the place is; the elements
that are open, the innermost first, each with the text around it so far; and the text of the
innermost one with all tags and elements that are complete. -/
structure Reading where
  place : Place := .content
  tag : List Char := []
  opened : List (String × List Char) := []
  content : Content := {}
deriving DecidableEq

/-- The names of elements that are open, the outermost first. -/
def names (opened : List (String × List Char)) : List String := (opened.map Prod.fst).reverse

namespace Reading

/-- The reading after the end of a tag, which opens an element or closes the innermost one. -/
def complete? (opened : List (String × List Char)) (k : Content) (tag : List Char) :
    Option Reading :=
  let tags := k.tags ++ [String.ofList tag]
  match Tag.ofChars? tag, opened with
  | some .declaration, _ => some ⟨.content, [], opened, { k with tags := tags }⟩
  | some (.opening name), _ => some ⟨.content, [], (name, k.text) :: opened, ⟨[], tags, k.elements⟩⟩
  | some (.closing name), (innermost, text) :: outer =>
    if innermost = name then
      some ⟨.content, [], outer, ⟨text, tags, k.elements ++ [⟨names outer, name, k.text⟩]⟩⟩
    else none
  | some (.closing _), [] => none
  | none, _ => none

/-- The reading after one more character. -/
def next? (r : Reading) (c : Char) : Option Reading :=
  match r.place with
  | .content =>
    if c = '<' then some { r with place := .tag }
    else some { r with content := { r.content with text := r.content.text ++ [c] } }
  | .tag =>
    if c = '>' then complete? r.opened r.content r.tag
    else (r.place.next? c).map fun p => { r with place := p, tag := r.tag ++ [c] }
  | .value _ => (r.place.next? c).map fun p => { r with place := p, tag := r.tag ++ [c] }

def after? (r : Reading) (cs : List Char) : Option Reading := cs.foldlM next? r

end Reading

/-- Reads a document, in which every element is closed and there is no text outside of them. -/
def read? (s : String) : Option Content :=
  match Reading.after? {} s.toList with
  | some ⟨.content, _, [], k⟩ => if k.text.all Text.isBlank then some k else none
  | _ => none

namespace Reading

variable {r : Reading} {cs ds tag : List Char} {opened : List (String × List Char)} {k : Content}
  {p q : Place} {c : Char}

theorem after?_append : r.after? (cs ++ ds) = (r.after? cs).bind (·.after? ds) :=
  List.foldlM_append ..

theorem after?_cons : r.after? (c :: cs) = (r.next? c).bind (·.after? cs) := rfl

/-- What holds no opening bracket is text. -/
theorem after?_text (h : '<' ∉ cs) :
    after? ⟨.content, [], opened, k⟩ cs = some ⟨.content, [], opened, k ++ { text := cs }⟩ := by
  induction cs generalizing k with
  | nil => simp [after?, Content.append_def]
  | cons c cs ih =>
    rw [List.mem_cons, not_or] at h
    have hnext : next? ⟨.content, [], opened, k⟩ c =
        some ⟨.content, [], opened, { k with text := k.text ++ [c] }⟩ := if_neg (Ne.symm h.1)
    rw [after?_cons, hnext, Option.bind_some, ih h.2]
    simp [Content.append_def]

theorem next?_of_place (h : p.next? c = some q) :
    next? ⟨p, tag, opened, k⟩ c = some ⟨q, tag ++ [c], opened, k⟩ := by
  cases p with
  | content => simp [Place.next?] at h
  | tag =>
    have hc : c ≠ '>' := by
      rintro rfl
      simp [Place.next?] at h
    simp [next?, hc, h]
  | value quote => simp [next?, h]

theorem after?_of_place (h : cs.foldlM Place.next? p = some q) :
    after? ⟨p, tag, opened, k⟩ cs = some ⟨q, tag ++ cs, opened, k⟩ := by
  induction cs generalizing p tag with
  | nil =>
    obtain rfl : p = q := by simpa using h
    rw [List.append_nil]
    rfl
  | cons c cs ih =>
    rw [List.foldlM_cons] at h
    obtain ⟨p', hp, h⟩ := Option.bind_eq_some_iff.mp h
    rw [after?_cons, next?_of_place hp, Option.bind_some, ih h, List.append_assoc]
    rfl

end Reading

/-! Tags and their elements. -/

/-- Brackets around it make a text one tag. -/
def IsTag (cs : List Char) : Prop := cs.foldlM Place.next? .tag = some .tag

instance (cs : List Char) : Decidable (IsTag cs) := inferInstanceAs (Decidable (_ = _))

/-- A tag opens an element of a name, and the name with a slash closes it. -/
structure Encloses (tag : List Char) (name : String) : Prop where
  opening : IsTag tag
  closing : IsTag ('/' :: name.toList)
  isNamed : Tag.ofChars? tag = some (.opening name)

theorem isTag_of_plain {cs : List Char} (h : ∀ c ∈ cs, c ∉ marks) : IsTag cs := by
  induction cs with
  | nil => rfl
  | cons c cs ih =>
    obtain ⟨hc, hcs⟩ := List.forall_mem_cons.mp h
    have hnext : Place.next? .tag c = some .tag := by
      simp only [marks, List.mem_cons, not_or] at hc
      simp [Place.next?, hc]
    rw [IsTag, List.foldlM_cons, hnext]
    exact ih hcs

/-- The name of an element, which is itself a tag. -/
def IsTagName (name : String) : Prop :=
  name.toList ≠ [] ∧ ∀ c ∈ name.toList, isTagNameChar c = true

instance (name : String) : Decidable (IsTagName name) :=
  have : Decidable (∀ c ∈ name.toList, isTagNameChar c = true) := List.decidableBAll _ _
  inferInstanceAs (Decidable (_ ∧ _))

theorem IsTagName.encloses {name : String} (h : IsTagName name) : Encloses name.toList name := by
  obtain ⟨hne, hall⟩ := h
  have hoff {d : Char} (hd : isTagNameChar d = false) : d ∉ name.toList := fun hmem => by
    simp [hall d hmem] at hd
  have hplain : ∀ c ∈ name.toList, c ∉ marks := fun c hc hmark => by
    have hmarks : marks.all (fun d => !isTagNameChar d) = true := by decide
    simpa [hall c hc] using List.all_eq_true.mp hmarks c hmark
  refine ⟨isTag_of_plain hplain, ?_, ?_⟩
  · exact isTag_of_plain (List.forall_mem_cons.mpr ⟨by decide, hplain⟩)
  · unfold Tag.ofChars?
    split
    · rename_i rest heq
      exact (hoff (by decide : isTagNameChar '?' = false) (by simp [heq])).elim
    · rename_i rest heq
      exact (hoff (by decide : isTagNameChar '/' = false) (by simp [heq])).elim
    · have htake : name.toList.takeWhile isTagNameChar = name.toList :=
        List.takeWhile_eq_self_iff.mpr hall
      have hdrop : name.toList.dropWhile isTagNameChar = [] :=
        List.dropWhile_eq_nil_iff.mpr hall
      have hlast : name.toList.getLast? ≠ some '/' := fun hlast =>
        hoff (by decide) (List.mem_of_getLast? hlast)
      simp [htake, hdrop, hlast, hne]

theorem after?_tag {opened : List (String × List Char)} {k : Content} {tag : List Char}
    (h : IsTag tag) : Reading.after? ⟨.content, [], opened, k⟩ ('<' :: tag ++ ['>']) =
      Reading.complete? opened k tag := by
  have hopen : Reading.next? ⟨.content, [], opened, k⟩ '<' = some ⟨.tag, [], opened, k⟩ := rfl
  have hclose : Reading.next? ⟨.tag, tag, opened, k⟩ '>' = Reading.complete? opened k tag := by
    simp [Reading.next?]
  rw [Reading.after?_append, Reading.after?_cons, hopen, Option.bind_some,
    Reading.after?_of_place h, Option.bind_some, List.nil_append, Reading.after?_cons, hclose]
  cases Reading.complete? opened k tag <;> rfl

/-! Texts that are read alike in every element. -/

/-- Wherever the text stands outside a tag, it is read as this content. -/
def Reads (s : String) (k : Content) : Prop :=
  ∀ opened before, Reading.after? ⟨.content, [], opened, before⟩ s.toList =
    some ⟨.content, [], opened, before ++ k.inside (names opened)⟩

variable {s t tag name : String} {k l : Content}

theorem reads_text (h : '<' ∉ s.toList) : Reads s { text := s.toList } := fun opened before => by
  rw [Reading.after?_text h]
  rfl

theorem Reads.append (hs : Reads s k) (ht : Reads t l) : Reads (s ++ t) (k ++ l) := by
  intro opened before
  rw [String.toList_append, Reading.after?_append, hs, Option.bind_some, ht, Content.append_assoc,
    Content.inside_append]

theorem toList_tag (tag : String) : ("<" ++ tag ++ ">").toList = '<' :: tag.toList ++ ['>'] := by
  simp

theorem reads_declaration (h : IsTag tag.toList)
    (hd : Tag.ofChars? tag.toList = some .declaration) :
    Reads ("<" ++ tag ++ ">") { tags := [tag] } := by
  intro opened before
  rw [toList_tag, after?_tag h]
  simp [Reading.complete?, hd, Content.append_def, Content.inside]

theorem Reads.enclosed (h : Encloses tag.toList name) (hs : Reads s k) :
    Reads ("<" ++ tag ++ ">" ++ s ++ ("<" ++ ("/" ++ name) ++ ">")) (k.enclosed tag name) := by
  intro opened before
  have hslash : ("/" ++ name).toList = '/' :: name.toList := by simp
  have hname : String.ofList ('/' :: name.toList) = "/" ++ name := by
    rw [← hslash, String.ofList_toList]
  have hopening : Reading.after? ⟨.content, [], opened, before⟩ ("<" ++ tag ++ ">").toList =
      some ⟨.content, [], (name, before.text) :: opened,
        ⟨[], before.tags ++ [tag], before.elements⟩⟩ := by
    rw [toList_tag, after?_tag h.opening]
    simp [Reading.complete?, h.isNamed]
  rw [String.toList_append, String.toList_append, Reading.after?_append, Reading.after?_append,
    hopening, Option.bind_some, hs, Option.bind_some, toList_tag, hslash, after?_tag h.closing]
  simp [Reading.complete?, Tag.ofChars?, hname, Content.append_def, Content.enclosed,
    Content.inside, names]

/-- What is read without text outside its elements is a document. -/
theorem read?_of_reads (h : Reads s k) (hblank : k.text.all Text.isBlank = true) :
    read? s = some k := by
  rw [read?, h]
  simp [Content.append_def, Content.inside, names, hblank]

/-- An element inside another one, and two that cross. -/
example : read? "<a x='<'/><b>c</b></a>" = none ∧ read? "<a><b></a></b>" = none ∧
    read? "<a x='>'>c<b>d</b></a>" = some
      ⟨[], ["a x='>'", "b", "/b", "/a"], [⟨["a"], "b", ['d']⟩, ⟨[], "a", ['c']⟩]⟩ := by
  decide

/-! Entities. -/

/-- The text that stands in an element, with each entity resolved. There are five of them. -/
def resolve? : List Char → Option (List Char)
  | [] => some []
  | '&' :: 'a' :: 'm' :: 'p' :: ';' :: rest => (resolve? rest).map ('&' :: ·)
  | '&' :: 'l' :: 't' :: ';' :: rest => (resolve? rest).map ('<' :: ·)
  | '&' :: 'g' :: 't' :: ';' :: rest => (resolve? rest).map ('>' :: ·)
  | '&' :: 'q' :: 'u' :: 'o' :: 't' :: ';' :: rest => (resolve? rest).map ('"' :: ·)
  | '&' :: 'a' :: 'p' :: 'o' :: 's' :: ';' :: rest => (resolve? rest).map ('\'' :: ·)
  | c :: rest => if c = '&' then none else (resolve? rest).map (c :: ·)

theorem resolve?_plain {c : Char} (h : c ≠ '&') (cs : List Char) :
    resolve? (c :: cs) = (resolve? cs).map (c :: ·) := by
  rw [resolve?, if_neg h] <;> simp_all

end CurlScribe.Markup
