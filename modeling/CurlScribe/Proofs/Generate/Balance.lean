import CurlScribe.Proofs.Generate.Checks
import CurlScribe.Proofs.Pojo.Classes
import CurlScribe.Proofs.Test.Balance

/-! All source that is generated balances. -/
namespace CurlScribe

namespace Pojo

open Java

variable {root t : String} {names annotations : List String} {f : JavaField}
  {fields : List JavaField} {c : JavaClass} {nested : List JavaClass}

theorem isText_type (hn : ∀ n ∈ names, IsName n.toList) (h : IsType names t) : IsText t := by
  induction h with
  | named hmem =>
    have hscalar : ∀ n ∈ scalarTypes, IsName n.toList := by decide
    rcases List.mem_append.mp hmem with hmem | hmem
    · exact (hscalar _ hmem).isText
    · exact (hn _ hmem).isText
  | list _ ih => exact ih.between 0 0 (by decide) (by decide)

/-- A field whose name and type are read without a mark. -/
structure IsPlainField (f : JavaField) : Prop where
  name : IsName f.name.toList
  javaType : IsText f.javaType

theorem AreFields.plain (hn : ∀ n ∈ names, IsName n.toList) (h : AreFields names fields) :
    ∀ f ∈ fields, IsPlainField f :=
  fun f hf => ⟨h.isName f hf, isText_type hn (h.typed f hf)⟩

theorem areLines_declaration (h : IsPlainField f) : AreLines (declaration f) := by
  have hstart : IsText ("private " ++ f.javaType ++ " ") :=
    h.javaType.between 0 0 (by decide) (by decide)
  have hprivate : IsText ("private " ++ f.javaType ++ " " ++ f.name ++ ";") :=
    (hstart.append h.name.isText).append (by decide)
  refine AreLines.append ?_ (areLines_singleton hprivate)
  split
  · exact areLines_singleton ((isText_literal f.key).between 0 1 (by decide) (by decide))
  · exact areLines_nil

theorem isText_capitalized (h : IsName f.name.toList) :
    IsText (String.ofList (capitalize f.name.toList)) := by
  refine IsName.isText ?_
  rw [String.toList_ofList]
  exact h.capitalize

theorem isText_getter (h : IsPlainField f) : IsText (getter f) :=
  IsText.append (by decide) (isText_capitalized h.name)

theorem isText_setter (h : IsPlainField f) : IsText (setter f) :=
  IsText.append (by decide) (isText_capitalized h.name)

theorem opens_getter (h : IsPlainField f) :
    Opens ("public " ++ f.javaType ++ " " ++ getter f ++ "() \x7b") := by
  have hstart : IsText ("public " ++ f.javaType ++ " ") :=
    h.javaType.between 0 0 (by decide) (by decide)
  exact (hstart.append (isText_getter h)).opens (by decide)

theorem opens_setter (h : IsPlainField f) :
    Opens ("public void " ++ setter f ++ "(" ++ f.javaType ++ " " ++ f.name ++ ") \x7b") := by
  have hparameter : IsText (f.javaType ++ " " ++ f.name) :=
    (h.javaType.append (by decide)).append h.name.isText
  have hopens : Opens ("(" ++ (f.javaType ++ " " ++ f.name) ++ ") \x7b") :=
    hparameter.between 0 1 (by decide) (by decide)
  have hstart : IsText ("public void " ++ setter f) := IsText.append (by decide) (isText_setter h)
  simpa [String.append_assoc] using hstart.opens hopens

theorem areLines_accessors (h : IsPlainField f) : AreLines (accessors f) := by
  have hblank : AreLines [Line.blank] := by decide
  have hreturn : IsText ("return " ++ f.name ++ ";") :=
    h.name.isText.between 0 0 (by decide) (by decide)
  have htarget : IsText ("this." ++ f.name ++ " = ") :=
    h.name.isText.between 0 0 (by decide) (by decide)
  have hassign : IsText ("this." ++ f.name ++ " = " ++ f.name ++ ";") :=
    (htarget.append h.name.isText).append (by decide)
  exact (hblank.append (areLines_block (opens_getter h) (areLines_singleton hreturn))).append
    (hblank.append (areLines_block (opens_setter h) (areLines_singleton hassign)))

theorem areLines_classLines {header : String} {inner : List Line} (hh : IsText header)
    (ha : ∀ a ∈ annotations, IsText a) (hc : IsName c.name.toList)
    (hf : ∀ f ∈ c.fields, IsPlainField f) (hi : AreLines inner) :
    AreLines (classLines header annotations c inner) := by
  have hopen : Opens (header ++ " " ++ c.name ++ " \x7b") :=
    ((hh.append (by decide)).append hc.isText).opens (by decide)
  refine AreLines.append (areLines_of_texts fun l hl => ?_) (areLines_block hopen ?_)
  · obtain ⟨a, hmem, rfl⟩ := List.mem_map.mp hl
    exact ha a hmem
  · refine AreLines.append (AreLines.append ?_ ?_) hi
    · exact areLines_flatMap fun f hmem => areLines_declaration (hf f hmem)
    · split
      · exact areLines_flatMap fun f hmem => areLines_accessors (hf f hmem)
      · exact areLines_nil

theorem areLines_importLines (fields : List JavaField) : AreLines (importLines fields) := by
  unfold importLines
  split <;> split <;> decide

theorem balanced_sourceOf (ha : ∀ a ∈ annotations, IsText (Text.trimmed a))
    (hr : IsName root.toList) {body : Json} (h : classesOf? root body = some (c, nested)) :
    IsBalanced (sourceOf annotations c nested).toList := by
  obtain ⟨hroot, hnested, hfields⟩ := classesOf_spec h
  have hnames : ∀ n ∈ nested.map JavaClass.name, IsName n.toList := by
    intro n hn
    obtain ⟨k, hk, rfl⟩ := List.mem_map.mp hn
    exact hnested.isName k hk
  have hannotations : ∀ a ∈ (annotations.map Text.trimmed).filter (· != ""), IsText a := by
    intro a hmem
    obtain ⟨b, hb, rfl⟩ := List.mem_map.mp (List.mem_filter.mp hmem).1
    exact ha b hb
  have hname : IsName c.name.toList := hroot ▸ hr
  have hblank : AreLines [Line.blank] := by decide
  have hinner : AreLines (nested.flatMap fun k => Line.blank :: classLines "public static class"
      ((annotations.map Text.trimmed).filter (· != "")) k []) :=
    areLines_flatMap fun k hk => hblank.append (areLines_classLines (by decide) hannotations
      (hnested.isName k hk) ((hnested.fields k hk).plain hnames) areLines_nil)
  exact ((areLines_importLines _).append (areLines_classLines (by decide) hannotations hname
    (hfields.plain hnames) hinner)).isBalanced

end Pojo

namespace Generate

variable {r : Request} {c : Config} {g : GeneratedCode}

theorem isName_rootClassName (c : Config) : Java.IsName (rootClassName c).toList := by
  simp only [rootClassName]
  split
  · decide
  · rw [String.toList_append]
    exact (Java.isName_pascalCase c.serviceName).append (by decide)

theorem classes_of_pojo {p : String} (h : pojo? r c = some p) :
    ∃ body root nested, Pojo.classesOf? (rootClassName c) body = some (root, nested) ∧
      p = Pojo.sourceOf c.pojoAnnotations root nested := by
  unfold pojo? at h
  split at h
  · obtain ⟨body, -, hsource⟩ := Option.bind_eq_some_iff.mp h
    obtain ⟨⟨root, nested⟩, hclasses, rfl⟩ := Option.map_eq_some_iff.mp hsource
    exact ⟨body, root, nested, hclasses, rfl⟩
  · cases h

/-- Braces and parentheses balance in a generated test, and every literal ends on its line. The same
holds of the classes for a body, unless annotations are copied into them. -/
theorem source_balances (h : code r c = .ok g) : Java.IsBalanced g.test.toList ∧
    ((∀ a ∈ c.pojoAnnotations, Text.blank a = true) →
      ∀ p, g.pojo = some p → Java.IsBalanced p.toList) := by
  obtain ⟨hconfig, -, t, status, htest, hpojo⟩ := parts_of_code h
  refine ⟨?_, fun hblank p hp => ?_⟩
  · rw [htest]
    exact (Test.areLines_source hconfig r t status).isBalanced
  · have htrimmed : ∀ a ∈ c.pojoAnnotations, Java.IsText (Text.trimmed a) := by
      intro a ha
      rw [Text.trimmed_of_blank (hblank a ha)]
      decide
    obtain ⟨body, root, nested, hclasses, rfl⟩ := classes_of_pojo (hpojo.symm.trans hp)
    exact Pojo.balanced_sourceOf htrimmed (isName_rootClassName c) hclasses

/-- A body with a key that is no name. -/
def markedBody : Json := .obj [("a(\"", .obj [("\n\x7b", .arr [])])]

/-- A request whose texts hold quotes, backslashes, marks and the ends of lines. -/
def marked : Request where
  baseUrl := "http://[::1]/)"
  pathTemplate := "/\x7bclass\x7d/\""
  headers := ⟨[⟨"X-(\"", "\\", true⟩, ⟨"authorization", "Bearer \x7d\n", true⟩]⟩
  body := some (Body.ofJson markedBody)

/-- Settings whose texts hold the same, for a test with all its parts. -/
def marking : Config where
  serviceName := "1 (service)"
  methodName := "class"
  useFluentApi := false
  needPojo := true
  includeRetry := true
  assertResponseTime := true
  loggingRequired := true
  testGroups := ["\x7b", "\""]
  testDescription := some "\\\x0d("
  packageName := some " com.example$ "
  pojoAnnotations := ["", " \t"]

theorem marked_balances : ∃ g p, code marked marking = .ok g ∧ g.pojo = some p ∧
    Java.IsBalanced g.test.toList ∧ Java.IsBalanced p.toList := by
  have htarget : (Target.ofRequest? marked).isSome = true := by decide
  have hvalid : validate marked marking = .ok () := validate_eq_ok_iff.mpr
    ⟨by decide, by decide, by decide, Option.isSome_iff_exists.mp htarget⟩
  obtain ⟨g, hg⟩ := exists_code hvalid
  have hbody : marked.spokenBody.bind Body.json = some markedBody := by cbv
  have hpojo : (pojo? marked marking).isSome = true := by
    have hneed : marking.needPojo = true := rfl
    rw [pojo?, hbody, if_pos hneed, Option.bind_some, Pojo.source?, Option.isSome_map,
      Pojo.classesOf?, Option.isSome_map]
    rfl
  obtain ⟨p, hp⟩ := Option.isSome_iff_exists.mp hpojo
  obtain ⟨-, -, -, -, -, hg'⟩ := parts_of_code hg
  obtain ⟨htest, hclasses⟩ := source_balances hg
  have hblank : ∀ a ∈ marking.pojoAnnotations, Text.blank a = true := by decide
  exact ⟨g, p, hg, hg'.trans hp, htest, hclasses hblank p (hg'.trans hp)⟩

end Generate

end CurlScribe
