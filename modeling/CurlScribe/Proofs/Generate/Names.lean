import CurlScribe.Proofs.Generate.Checks
import CurlScribe.Proofs.Java.Declared
import CurlScribe.Proofs.Test.Balance
import Mathlib.Data.List.Nodup

/-! The names that a generated test imports and declares, and when two of them clash. -/
namespace CurlScribe

namespace Test

open Java

variable {r : Request} {c : Config} {t : Target} {status : Nat} {calls : List String}
  {verb : String} {ls : List Line}

/-! The test method. -/

theorem isSilent_endStatement (h : ∀ l ∈ ls, isSilent l.text = true ∧ l.text ≠ "") :
    ∀ l ∈ endStatement ls, isSilent l.text = true := by
  fun_induction endStatement ls with
  | case1 => simp
  | case2 l =>
    intro k hk
    obtain rfl := List.mem_singleton.mp hk
    exact isSilent_append (h l (by simp)).1 (h l (by simp)).2
  | case3 l rest hne ih =>
    intro k hk
    rcases List.mem_cons.mp hk with rfl | hk
    · exact (h k (by simp)).1
    · exact ih (fun l hl => h l (by simp [hl])) k hk

theorem named_fluent : named (fluent c calls verb status) = [] := by
  have hstep (call : String) : isSilent ("." ++ call) = true ∧ "." ++ call ≠ "" :=
    ⟨isSilent_append (by decide) (by decide), by simp⟩
  refine named_of_isSilent (isSilent_endStatement fun l hl => ?_)
  simp only [List.cons_append, List.mem_cons, List.mem_append, List.mem_map, List.not_mem_nil,
    or_false] at hl
  rcases hl with rfl | (⟨call, -, rfl⟩ | rfl | rfl) | hl
  · decide
  · exact hstep call
  · decide
  · exact hstep verb
  · split at hl
    · simp at hl
    · rcases List.mem_cons.mp hl with rfl | hl
      · decide
      · obtain ⟨check, -, rfl⟩ := List.mem_map.mp hl
        exact hstep check

theorem isSilent_assertions : ∀ a ∈ assertions c status, isSilent a = true := by
  intro a ha
  simp only [assertions, List.mem_append, List.mem_ite_nil_right, List.mem_singleton] at ha
  rcases ha with (⟨-, rfl⟩ | ⟨-, rfl⟩) | ⟨-, rfl⟩
  · rw [String.append_assoc]
    exact isSilent_append (by decide) (by decide)
  · simp only [String.append_assoc]
    exact isSilent_append (by decide) (by decide)
  · decide

theorem named_statements : named (statements c calls verb status) = [] := by
  refine named_of_isSilent fun l hl => ?_
  simp only [statements, List.cons_append, List.mem_cons, List.mem_append, List.mem_map,
    List.not_mem_nil, or_false] at hl
  rcases hl with rfl | (⟨call, -, rfl⟩ | rfl | rfl) | hl
  · decide
  · rw [String.append_assoc]
    exact isSilent_append (by decide) (by decide)
  · decide
  · rw [String.append_assoc]
    exact isSilent_append (by decide) (by decide)
  · have hassertions : ∀ a ∈ assertions c status, isSilent a = true := isSilent_assertions
    split at hl
    · simp at hl
    · rcases List.mem_cons.mp hl with rfl | hl
      · decide
      · obtain ⟨a, ha, rfl⟩ := List.mem_map.mp hl
        exact hassertions a ha

theorem isSilent_attributes {attributes : List String} :
    isSilent (if attributes.isEmpty then "@Test"
      else "@Test(" ++ ", ".intercalate attributes ++ ")") = true := by
  split
  · decide
  · rw [String.append_assoc]
    exact isSilent_append (by decide) (by decide)

/-- A test method names nothing but itself. -/
theorem named_method : named (method r c t status) = [.method (testName r c t)] := by
  have hdeclaration (name : String) : isSilent ("String " ++ name ++ " = \"\";") = true := by
    rw [String.append_assoc]
    exact isSilent_append (by decide) (by decide)
  have hannotation : named [⟨0, annotation c⟩] = [] :=
    named_of_isSilent fun l hl => by
      obtain rfl := List.mem_singleton.mp hl
      exact isSilent_attributes
  rw [method, ← List.singleton_append, named_append, hannotation, List.nil_append, named_block,
    naming?_method (isName_testName r c t), named_append, Option.toList_some, List.singleton_append]
  congr 1
  rw [List.append_eq_nil_iff]
  constructor
  · refine named_of_isSilent fun l hl => ?_
    split at hl
    · simp at hl
    · rcases List.mem_append.mp hl with hl | hl
      · obtain ⟨p, -, rfl⟩ := List.mem_map.mp hl
        exact hdeclaration p.2
      · obtain rfl := List.mem_singleton.mp hl
        decide
  · split
    · exact named_fluent
    · exact named_statements

/-! The class. -/

/-- The types that a test imports, without their packages. -/
def importedTypes (c : Config) : List String := (imports c).map simpleName

/-- The nested class. -/
def nestedTypes (c : Config) : List String := if c.includeRetry then ["RetryAnalyzer"] else []

theorem named_preamble : named (preamble c) = (importedTypes c).map .imported := by
  have hblank : ∀ n ∈ imports c ++ staticImports c, ' ' ∉ n.toList := fun n hn hmem => by
    have hoff : isPackageChar ' ' = false := by decide
    simp [isPackageChar_of_mem_importable (mem_importable n hn) _ hmem] at hoff
  have hpackage (p : String) : naming? ("package " ++ p ++ ";").toList = none := by
    have heq : ("package " ++ p ++ ";").toList =
        "package".toList ++ ' ' :: (p ++ ";").toList := by simp
    rw [heq, naming?, lineWords_append (by decide) (by decide)]
    simp
  have himports : named ((imports c).map fun n => ⟨0, "import " ++ n ++ ";"⟩) =
      (importedTypes c).map .imported := by
    rw [named, List.filterMap_map, importedTypes, List.map_map, ← List.filterMap_eq_map]
    exact List.filterMap_congr fun n hn =>
      naming?_import (hblank n (List.mem_append_left _ hn))
  have hend : named [Line.blank] = [] := by decide
  have hmiddle {before after : List Naming} (hb : before = []) (ha : after = []) :
      before ++ (importedTypes c).map .imported ++ after ++ [] =
        (importedTypes c).map .imported := by simp [hb, ha]
  rw [preamble, named_append, named_append, named_append, himports, hend]
  refine hmiddle ?_ ?_
  · split
    · rename_i p hp
      rw [← List.singleton_append, named_append, named_singleton, hpackage, hend]
      rfl
    · rfl
  · split
    · rfl
    · refine List.filterMap_eq_nil_iff.mpr fun l hl => ?_
      rcases List.mem_cons.mp hl with rfl | hl
      · rfl
      · obtain ⟨n, hn, rfl⟩ := List.mem_map.mp hl
        exact naming?_static (hblank n (List.mem_append_right _ hn))

theorem named_setup : named (setup t) = [.method "setup"] := by
  have hbase : isSilent ("RestAssured.baseURI = " ++ literal t.baseUrl ++ ";") = true := by
    rw [String.append_assoc]
    exact isSilent_append (by decide) (by decide)
  have hinside : named [⟨0, "RestAssured.baseURI = " ++ literal t.baseUrl ++ ";"⟩] = [] := by
    rw [named_singleton, naming?_of_isSilent hbase]
    rfl
  rw [setup, ← List.singleton_append, named_append, named_block, hinside]
  decide

theorem named_testClass (h : Java.pascalCase c.serviceName ≠ "") :
    named (testClass r c t status) = .declared (Java.pascalCase c.serviceName) ::
      .method "setup" :: .method (testName r c t) :: (nestedTypes c).map .declared := by
  have hblank : named [Line.blank] = [] := by decide
  have hnested : named (if c.includeRetry then .blank :: retryAnalyzer else []) =
      (nestedTypes c).map .declared := by
    unfold nestedTypes
    split
    · decide
    · rfl
  rw [testClass, named_block, naming?_class (isName_pascalCase c.serviceName) h]
  simp only [named_append, hblank, named_setup, named_method, hnested]
  rfl

end Test

namespace Generate

open Java Test

variable {r : Request} {c : Config} {g : GeneratedCode}

theorem checkNames_full (hfull : c.isFull = true) (h : checkNames c = .ok ()) :
    pascalCase c.serviceName ≠ "" ∧ camelCase c.methodName ≠ "" := by
  unfold checkNames at h
  simp only [hfull, Bool.not_true, Bool.false_eq_true, if_false] at h
  split at h
  · simp at h
  · split at h
    · simp at h
    · exact ⟨‹_›, ‹_›⟩

/-- What the lines of a test class name, in their order. -/
theorem namings_code (hfull : c.isFull = true) (h : code r c = .ok g) :
    namings g.test = (importedTypes c).map .imported ++ .declared (pascalCase c.serviceName) ::
      .method "setup" :: .method (identifier (camelCase c.methodName)) ::
        (nestedTypes c).map .declared := by
  obtain ⟨hconfig, hnames, t, status, htest, -⟩ := parts_of_code h
  obtain ⟨hclass, hmethod⟩ := checkNames_full hfull hnames
  have hlines := areLines_source hconfig r t status
  have hname : testName r c t = identifier (camelCase c.methodName) := by
    simp only [testName, if_neg hmethod]
  rw [htest, source, namings_render hlines.oneLine, if_pos hfull, ← named, named_append,
    named_preamble, named_testClass hclass, hname]

/-- No identifier that is kept off a keyword is the name of the setup. -/
theorem identifier_eq_setup_iff (s : String) :
    identifier (camelCase s) = "setup" ↔ camelCase s = "setup" := by
  have hkeywords : ∀ k ∈ keywords, k ++ "_" ≠ "setup" := by decide
  obtain ⟨hempty, heq⟩ | ⟨-, hkey, heq⟩ | ⟨-, -, heq⟩ := identifier_cases (camelCase s)
  · rw [camelCase_idem] at hempty
    rw [heq, hempty]
    decide
  · rw [camelCase_idem] at hkey heq
    have hmem : camelCase s ∈ keywords := List.contains_iff_mem.mp hkey
    have hne : camelCase s ≠ "setup" := by
      have hnone : "setup" ∉ keywords := by decide
      exact fun h => hnone (h ▸ hmem)
    simp [heq, hne, hkeywords _ hmem]
  · rw [heq, camelCase_idem]

/-- What a test class imports and what it nests never clash among themselves. -/
theorem nodup_fixedTypes (c : Config) : (importedTypes c ++ nestedTypes c).Nodup := by
  unfold importedTypes imports nestedTypes
  cases c.useFluentApi <;> cases c.includeRetry <;>
    cases c.assertionRequired || c.assertResponseTime <;> decide

theorem noClash_iff (hfull : c.isFull = true) (h : code r c = .ok g) : NoClash g.test ↔
    pascalCase c.serviceName ∉ importedTypes c ++ nestedTypes c ∧
      camelCase c.methodName ≠ "setup" := by
  have himported (names : List String) :
      (names.map Naming.imported).filterMap Naming.type? = names ∧
      (names.map Naming.imported).filterMap Naming.method? = [] := by
    simp [List.filterMap_map, Function.comp_def, Naming.type?, Naming.method?]
  have hdeclared (names : List String) :
      (names.map Naming.declared).filterMap Naming.type? = names ∧
      (names.map Naming.declared).filterMap Naming.method? = [] := by
    simp [List.filterMap_map, Function.comp_def, Naming.type?, Naming.method?]
  have htypes : (namings g.test).filterMap Naming.type? =
      importedTypes c ++ pascalCase c.serviceName :: nestedTypes c := by
    simp [namings_code hfull h, himported, hdeclared, List.filterMap_cons, Naming.type?]
  have hmethods : (namings g.test).filterMap Naming.method? =
      ["setup", identifier (camelCase c.methodName)] := by
    simp [namings_code hfull h, himported, hdeclared, List.filterMap_cons, Naming.method?]
  have hfirst : (importedTypes c ++ pascalCase c.serviceName :: nestedTypes c).Nodup ↔
      pascalCase c.serviceName ∉ importedTypes c ++ nestedTypes c := by
    rw [List.nodup_middle, List.nodup_cons]
    exact and_iff_left (nodup_fixedTypes c)
  have hsecond : ["setup", identifier (camelCase c.methodName)].Nodup ↔
      camelCase c.methodName ≠ "setup" := by
    rw [Ne, ← identifier_eq_setup_iff]
    simp [eq_comm]
  rw [← hfirst, ← hsecond, ← htypes, ← hmethods]
  exact ⟨fun ⟨ht, hm⟩ => ⟨ht, hm⟩, fun ⟨ht, hm⟩ => ⟨ht, hm⟩⟩

/-- A test class imports the types its settings ask for, and declares itself, its setup, its test
and what it nests. Two of these names clash exactly where the name of the service is that of an
imported or nested type, or the name of the method is that of the setup. -/
theorem names_stay_apart_iff (hfull : c.isFull = true) (h : code r c = .ok g) :
    namings g.test = (importedTypes c).map .imported ++ .declared (pascalCase c.serviceName) ::
        .method "setup" :: .method (identifier (camelCase c.methodName)) ::
          (nestedTypes c).map .declared ∧
      (NoClash g.test ↔ pascalCase c.serviceName ∉ importedTypes c ++ nestedTypes c ∧
        camelCase c.methodName ≠ "setup") :=
  ⟨namings_code hfull h, noClash_iff hfull h⟩

/-- A request with nothing but an address. -/
def located : Request := { baseUrl := "http://[::1]" }

/-- Code is generated for it under any settings that pass the checks. -/
theorem exists_code_located (hconfig : c.validate = .ok ()) (hnames : checkNames c = .ok ())
    (hpom : checkPom c = .ok ()) : ∃ g, code located c = .ok g := by
  have htarget : (Target.ofRequest? located).isSome = true := by decide
  exact exists_code (validate_eq_ok_iff.mpr
    ⟨hconfig, hnames, hpom, Option.isSome_iff_exists.mp htarget⟩)

/-- Settings with names like those of a retried test. -/
def spoken : Config where
  serviceName := "retry-analyzer test"
  methodName := "set up"
  useFluentApi := false
  includeRetry := true

theorem spoken_stays_apart : spoken.isFull = true ∧
    ∃ g, code located spoken = .ok g ∧ NoClash g.test := by
  have hfull : spoken.isFull = true := rfl
  obtain ⟨g, hg⟩ : ∃ g, code located spoken = .ok g :=
    exists_code_located (by decide) (by decide) (by decide)
  exact ⟨hfull, g, hg, (names_stay_apart_iff hfull hg).2.mpr (by decide)⟩

/-- Settings whose service is named like an annotation. -/
def annotated : Config := { serviceName := "Test", methodName := "get" }

theorem annotated_clashes : annotated.isFull = true ∧ ∃ g, code located annotated = .ok g ∧
    .imported "Test" ∈ namings g.test ∧ .declared "Test" ∈ namings g.test ∧ ¬ NoClash g.test := by
  have hfull : annotated.isFull = true := rfl
  obtain ⟨g, hg⟩ : ∃ g, code located annotated = .ok g :=
    exists_code_located (by decide) (by decide) (by decide)
  have hclash : pascalCase annotated.serviceName ∈
      importedTypes annotated ++ nestedTypes annotated := by decide
  refine ⟨hfull, g, hg, ?_, ?_, fun hno => ((noClash_iff hfull hg).mp hno).1 hclash⟩
  · rw [namings_code hfull hg]
    decide
  · rw [namings_code hfull hg]
    decide

end Generate

end CurlScribe
