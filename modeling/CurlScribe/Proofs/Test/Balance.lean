import CurlScribe.Proofs.Java.Balance
import CurlScribe.Proofs.Test.Locals

/-! The lines of a generated test, whatever texts a request and its settings hold. -/
namespace CurlScribe

namespace Test

open Java

variable {r : Request} {c : Config} {t : Target} {status : Nat} {s name a b : String}
  {calls : List String} {locals : List (String × String)}

theorem isText_call1 (hn : IsText name) (ha : IsText a) : IsText (call1 name a) := by
  have hargs : IsText ("(" ++ a ++ ")") := ha.between 0 1 (by decide) (by decide)
  have heq : call1 name a = name ++ ("(" ++ a ++ ")") := by simp [call1, String.append_assoc]
  rw [heq]
  exact hn.append hargs

theorem isText_call2 (hn : IsText name) (ha : IsText a) (hb : IsText b) :
    IsText (call2 name a b) := by
  have hargs : IsText (a ++ ", " ++ b) := (ha.append (by decide)).append hb
  have heq : call2 name a b = call1 name (a ++ ", " ++ b) := by
    simp [call1, call2, String.append_assoc]
  rw [heq]
  exact isText_call1 hn hargs

/-! The calls that describe a request. -/

/-- A call with the key and the value of an entry. -/
theorem isText_entryCalls {entries : List Param} (hn : IsText name) :
    ∀ call ∈ entries.map fun p => call2 name (literal p.key) (literal p.value), IsText call := by
  intro call hc
  obtain ⟨p, -, rfl⟩ := List.mem_map.mp hc
  exact isText_call2 hn (isText_literal _) (isText_literal _)

theorem isText_builderCalls : ∀ call ∈ builderCalls r, IsText call := by
  intro call hc
  simp only [builderCalls, List.mem_append, List.mem_ite_nil_right, List.mem_singleton,
    Option.mem_toList, Option.map_eq_some_iff] at hc
  rcases hc with ⟨-, rfl⟩ | ⟨p, -, rfl⟩
  · decide
  · exact isText_call1 (by decide) (isText_literal p)

theorem isText_ownHeader {value : Option String} :
    ∀ call ∈ ownHeader r name value, IsText call := by
  intro call hc
  cases value with
  | none => simp [ownHeader] at hc
  | some v =>
    simp only [ownHeader, List.mem_ite_nil_left, List.mem_singleton] at hc
    obtain ⟨-, rfl⟩ := hc
    exact isText_call2 (by decide) (isText_literal _) (isText_literal _)

theorem isText_headerCalls : ∀ call ∈ headerCalls r, IsText call := by
  intro call hc
  simp only [headerCalls, List.mem_append] at hc
  rcases hc with ((hc | hc) | hc) | hc
  · exact isText_entryCalls (by decide) call hc
  · exact isText_entryCalls (by decide) call hc
  · exact isText_ownHeader call hc
  · exact isText_ownHeader call hc

theorem isText_authorizationCall (p : Param) : IsText (authorizationCall p) := by
  unfold authorizationCall
  simp only
  split
  · exact isText_call1 (by decide) (isText_literal _)
  · exact isText_call2 (by decide) (isText_literal _) (isText_literal _)

theorem isText_authCalls : ∀ call ∈ authCalls r, IsText call := by
  intro call hc
  simp only [authCalls, List.mem_append, List.mem_map] at hc
  rcases hc with ⟨p, -, rfl⟩ | hc
  · exact isText_authorizationCall p
  · split at hc
    · obtain rfl := List.mem_singleton.mp hc
      exact isText_call2 (by decide) (isText_literal _) (isText_literal _)
    · obtain rfl := List.mem_singleton.mp hc
      exact isText_call1 (by decide) (isText_literal _)
    · simp at hc
    · simp at hc

theorem isName_of_mem_localsFrom {taken parameters : List String} {p : String × String}
    (h : p ∈ localsFrom taken parameters) : IsName p.2.toList := by
  obtain ⟨earlier, hname⟩ := mem_localsFrom h
  rw [hname]
  exact isName_fresh (isName_identifier p.1)

theorem isText_parameterCalls (hl : ∀ p ∈ locals, IsName p.2.toList) :
    ∀ call ∈ parameterCalls r locals, IsText call := by
  intro call hc
  rcases List.mem_append.mp hc with hc | hc
  · obtain ⟨p, hp, rfl⟩ := List.mem_map.mp hc
    exact isText_call2 (by decide) (isText_literal _) (hl p hp).isText
  · exact isText_entryCalls (by decide) call hc

theorem isText_payloadCalls : ∀ call ∈ payloadCalls r, IsText call := by
  intro call hc
  unfold payloadCalls at hc
  split at hc
  · obtain rfl := List.mem_singleton.mp hc
    exact isText_call1 (by decide) (isText_literal _)
  · exact isText_entryCalls (by decide) call hc

theorem isText_specCalls (hl : ∀ p ∈ locals, IsName p.2.toList) :
    ∀ call ∈ specCalls r locals, IsText call := by
  intro call hc
  simp only [specCalls, List.mem_append] at hc
  rcases hc with (((hc | hc) | hc) | hc) | hc
  · exact isText_builderCalls call hc
  · exact isText_headerCalls call hc
  · exact isText_authCalls call hc
  · exact isText_parameterCalls hl call hc
  · exact isText_payloadCalls call hc

theorem isText_verbCall (m : Method) (path : String) : IsText (verbCall m path) := by
  have hname : IsText m.lowerName := by cases m <;> decide
  unfold verbCall
  split
  · exact isText_call2 (by decide) (isText_literal _) (isText_literal _)
  · exact isText_call2 (by decide) (isText_literal _) (isText_literal _)
  · exact isText_call1 hname (isText_literal _)

/-! The test method. -/

theorem isName_numeral (n : Nat) : IsName (numeral n).toList := by
  rw [numeral, String.toList_ofList]
  exact isName_of_digits fun c hc => isDigit_of_mem_decimalDigits hc

theorem isText_numeral (n : Nat) : IsText (numeral n) := (isName_numeral n).isText

theorem isText_signedNumeral (n : Int32) : IsText (signedNumeral n) := by
  refine IsText.append ?_ (isText_numeral _)
  split <;> decide

theorem isText_groups (groups : List String) :
    IsText ("groups = \x7b" ++ ", ".intercalate (groups.map literal) ++ "\x7d") := by
  have hlist : IsText (", ".intercalate (groups.map literal)) := by
    refine isText_intercalate (by decide) fun g hg => ?_
    obtain ⟨group, -, rfl⟩ := List.mem_map.mp hg
    exact isText_literal group
  exact hlist.between 1 0 (by decide) (by decide)

theorem isText_attributes {attributes : List String} (h : ∀ a ∈ attributes, IsText a) :
    IsText (if attributes.isEmpty then "@Test"
      else "@Test(" ++ ", ".intercalate attributes ++ ")") := by
  split
  · decide
  · exact (isText_intercalate (by decide) h).between 0 1 (by decide) (by decide)

theorem isText_annotated (c : Config) : IsText <| annotation c := by
  refine isText_attributes fun a ha => ?_
  simp only [List.mem_append, List.mem_ite_nil_left, List.mem_ite_nil_right, List.mem_singleton,
    Option.mem_toList, Option.map_eq_some_iff] at ha
  rcases ha with ((⟨-, rfl⟩ | ⟨n, -, rfl⟩) | ⟨d, -, rfl⟩) | ⟨-, rfl⟩
  · exact isText_groups c.testGroups
  · exact IsText.append (by decide) (isText_signedNumeral n)
  · exact IsText.append (by decide) (isText_literal d)
  · decide

theorem isText_checks (c : Config) (status : Nat) : ∀ check ∈ checks c status, IsText check := by
  intro check hc
  simp only [checks, List.mem_append, List.mem_ite_nil_right, List.mem_singleton] at hc
  rcases hc with (⟨-, rfl⟩ | ⟨-, rfl⟩) | ⟨-, rfl⟩
  · exact isText_call1 (by decide) (isText_numeral status)
  · exact (isText_numeral _).between 0 2 (by decide) (by decide)
  · decide

/-- The limit is written twice, the second time inside a literal. -/
theorem isText_timeAssertion (n : Nat) :
    IsText ("Assert.assertTrue(response.getTime() < " ++ numeral n ++
      "L, \"Response time exceeded " ++ numeral n ++ " ms\");") := by
  have hopen : Leads {} "Assert.assertTrue(response.getTime() < " ⟨0, 1, .code⟩ := by decide
  have hmessage : Leads ⟨0, 1, .code⟩ "L, \"Response time exceeded " ⟨0, 1, .literal⟩ := by decide
  have hinner : ∀ c ∈ (numeral n).toList, isInner c = true := fun c hc =>
    isInner_of_isNameChar (isName_numeral n c hc)
  have hclose : Leads ⟨0, 1, .literal⟩ " ms\");" {} := by decide
  exact (((hopen.append ((isText_numeral n).deep 0 1)).append hmessage).append
    (leads_inner 0 1 hinner)).append hclose

theorem isText_assertions (c : Config) (status : Nat) :
    ∀ assertion ∈ assertions c status, IsText assertion := by
  intro assertion ha
  simp only [assertions, List.mem_append, List.mem_ite_nil_right, List.mem_singleton] at ha
  rcases ha with (⟨-, rfl⟩ | ⟨-, rfl⟩) | ⟨-, rfl⟩
  · exact (isText_numeral status).between 0 1 (by decide) (by decide)
  · exact isText_timeAssertion _
  · decide

theorem isText_endStatement {ls : List Line} (h : ∀ l ∈ ls, IsText l.text) :
    ∀ l ∈ endStatement ls, IsText l.text := by
  fun_induction endStatement ls with
  | case1 => simp
  | case2 l =>
    intro k hk
    obtain rfl := List.mem_singleton.mp hk
    exact (h l (by simp)).append (by decide)
  | case3 l rest hne ih =>
    intro k hk
    rcases List.mem_cons.mp hk with rfl | hk
    · exact h k (by simp)
    · exact ih (fun l hl => h l (by simp [hl])) k hk

theorem areLines_fluent {verb : String} (hs : ∀ call ∈ calls, IsText call) (hv : IsText verb) :
    AreLines (fluent c calls verb status) := by
  have hstep {call : String} (h : IsText call) : IsText ("." ++ call) :=
    IsText.append (by decide) h
  refine areLines_of_texts (isText_endStatement ?_)
  intro l hl
  simp only [List.cons_append, List.mem_cons, List.mem_append, List.mem_map, List.not_mem_nil,
    or_false] at hl
  rcases hl with rfl | (⟨call, hcall, rfl⟩ | rfl | rfl) | hl
  · decide
  · exact hstep (hs call hcall)
  · decide
  · exact hstep hv
  · have hchecks := isText_checks c status
    split at hl
    · simp at hl
    · rename_i cs hcs
      rcases List.mem_cons.mp hl with rfl | hl
      · decide
      · obtain ⟨check, hcheck, rfl⟩ := List.mem_map.mp hl
        exact hstep (hchecks check hcheck)

theorem areLines_statements {verb : String} (hs : ∀ call ∈ calls, IsText call) (hv : IsText verb) :
    AreLines (statements c calls verb status) := by
  have hstatement {start text : String} (hstart : IsText start) (h : IsText text) :
      IsText (start ++ text ++ ";") := (hstart.append h).append (by decide)
  refine areLines_of_texts fun l hl => ?_
  simp only [statements, List.cons_append, List.mem_cons, List.mem_append, List.mem_map,
    List.not_mem_nil, or_false] at hl
  rcases hl with rfl | (⟨call, hcall, rfl⟩ | rfl | rfl) | hl
  · decide
  · exact hstatement (by decide) (hs call hcall)
  · decide
  · exact hstatement (by decide) hv
  · have hassertions := isText_assertions c status
    split at hl
    · simp at hl
    · rcases List.mem_cons.mp hl with rfl | hl
      · decide
      · obtain ⟨assertion, ha, rfl⟩ := List.mem_map.mp hl
        exact hassertions assertion ha

theorem isName_testName (r : Request) (c : Config) (t : Target) :
    IsName (testName r c t).toList := by
  unfold testName
  simp only
  split
  · exact isName_methodName r.method t.path
  · exact isName_identifier (Java.camelCase c.methodName)

theorem isText_declaration (h : IsName name.toList) : IsText ("String " ++ name ++ " = \"\";") :=
  h.isText.between 0 0 (by decide) (by decide)

theorem areLines_method (r : Request) (c : Config) (t : Target) (status : Nat) :
    AreLines (method r c t status) := by
  have hl : ∀ p ∈ pathLocals t.pathParameters, IsName p.2.toList := fun p =>
    isName_of_mem_localsFrom
  have hopen : Opens ("public void " ++ testName r c t ++ "() \x7b") :=
    (isName_testName r c t).isText.between 0 0 (by decide) (by decide)
  refine areLines_cons (isText_annotated c) (areLines_block hopen ?_)
  refine AreLines.append (areLines_of_texts fun l hmem => ?_) ?_
  · split at hmem
    · simp at hmem
    · rcases List.mem_append.mp hmem with hmem | hmem
      · obtain ⟨p, hp, rfl⟩ := List.mem_map.mp hmem
        exact isText_declaration (hl p hp)
      · obtain rfl := List.mem_singleton.mp hmem
        decide
  · split
    · exact areLines_fluent (isText_specCalls hl) (isText_verbCall _ _)
    · exact areLines_statements (isText_specCalls hl) (isText_verbCall _ _)

/-! The class. -/

theorem isWordChar_of_isAlpha {c : Char} (h : c.isAlpha = true) : Text.isWordChar c = true := by
  simp [Text.isWordChar, Text.ascii_of_isAlpha h, h]

/-- The characters of a package name. -/
def isPackageChar (c : Char) : Bool := Text.isWordChar c || c == '$' || c == '.'

theorem isPackageChar_of_isPackage {p : String} (h : Config.isPackage p = true) :
    ∀ c ∈ p.toList, isPackageChar c = true := by
  intro c hc
  have hjoin : ['.'].intercalate (p.toList.splitOn '.') = p.toList := List.intercalate_splitOn '.'
  rw [← hjoin] at hc
  rcases Text.mem_intercalate hc with rfl | ⟨part, hpart, hc⟩
  · rfl
  · have hp := List.all_eq_true.mp h part hpart
    cases part with
    | nil => simp at hc
    | cons d part =>
      simp only [Config.isPackagePart, Bool.and_eq_true, Bool.or_eq_true, List.all_eq_true] at hp
      rw [isPackageChar, Bool.or_eq_true, Bool.or_eq_true]
      rcases List.mem_cons.mp hc with rfl | hc
      · rcases hp.1 with (hd | hd) | hd
        · exact .inl (.inl (isWordChar_of_isAlpha hd))
        · obtain rfl := beq_iff_eq.mp hd
          exact .inl (.inl rfl)
        · exact .inl (.inr hd)
      · exact .inl (hp.2 c hc)

theorem isText_package (h : c.validate = .ok ()) {p : String} (hp : c.package? = some p) :
    IsText p := by
  obtain ⟨-, -, hpackage⟩ := Config.validate_ok_iff.mp h
  exact isText_of_class (by decide) (isPackageChar_of_isPackage (hpackage p hp))

/-- Everything that a test may import. -/
def importable : List String :=
  ["io.restassured.RestAssured", "io.restassured.response.Response",
    "io.restassured.specification.RequestSpecification", "org.testng.Assert",
    "org.testng.IRetryAnalyzer", "org.testng.ITestResult", "org.testng.annotations.BeforeClass",
    "org.testng.annotations.Test", "io.restassured.RestAssured.given",
    "org.hamcrest.Matchers.lessThan"]

theorem mem_importable : ∀ n ∈ imports c ++ staticImports c, n ∈ importable := by
  intro n hn
  simp only [imports, staticImports, List.mem_append, List.mem_ite_nil_right, List.mem_cons,
    List.not_mem_nil, or_false] at hn
  simp only [importable, List.mem_cons, List.not_mem_nil, or_false]
  tauto

theorem isPackageChar_of_mem_importable {n : String} (h : n ∈ importable) :
    ∀ c ∈ n.toList, isPackageChar c = true := by
  have hall : importable.all (fun n => n.toList.all isPackageChar) = true := by decide
  exact List.all_eq_true.mp (List.all_eq_true.mp hall n h)

theorem areLines_preamble (h : c.validate = .ok ()) : AreLines (preamble c) := by
  have hnames : ∀ n ∈ imports c ++ staticImports c, IsText n := fun n hn =>
    isText_of_class (by decide) (isPackageChar_of_mem_importable (mem_importable n hn))
  have himport {start n : String} (hs : IsText start) (hn : IsText n) :
      IsText (start ++ n ++ ";") := (hs.append hn).append (by decide)
  refine areLines_of_texts fun l hl => ?_
  simp only [preamble, List.mem_append, List.mem_map, List.mem_singleton] at hl
  rcases hl with ((hl | ⟨n, hn, rfl⟩) | hl) | rfl
  · split at hl
    · rename_i p hp
      rcases List.mem_cons.mp hl with rfl | hl
      · exact himport (by decide) (isText_package h hp)
      · obtain rfl := List.mem_singleton.mp hl
        decide
    · simp at hl
  · exact himport (by decide) (hnames n (List.mem_append_left _ hn))
  · split at hl
    · simp at hl
    · rcases List.mem_cons.mp hl with rfl | hl
      · decide
      · obtain ⟨n, hn, rfl⟩ := List.mem_map.mp hl
        exact himport (by decide) (hnames n (List.mem_append_right _ hn))
  · decide

theorem areLines_retryAnalyzer : AreLines retryAnalyzer := by
  have hfields : AreLines [⟨0, "private static final int MAX_RETRIES = 2;"⟩,
      ⟨0, "private int attempts = 0;"⟩, .blank, ⟨0, "@Override"⟩] := areLines_of_texts (by decide)
  have htwice : AreLines (block "if (attempts < MAX_RETRIES) \x7b"
      [⟨0, "attempts++;"⟩, ⟨0, "return true;"⟩]) :=
    areLines_block (by decide) (areLines_of_texts (by decide))
  have hlast : AreLines [⟨0, "return false;"⟩] := areLines_singleton (by decide)
  exact areLines_block (by decide)
    (hfields.append (areLines_block (by decide) (htwice.append hlast)))

theorem areLines_testClass (r : Request) (c : Config) (t : Target) (status : Nat) :
    AreLines (testClass r c t status) := by
  have hopen : Opens ("public class " ++ Java.pascalCase c.serviceName ++ " \x7b") :=
    (isName_pascalCase c.serviceName).isText.between 0 0 (by decide) (by decide)
  have hblank : AreLines [Line.blank] := by decide
  have hsetup : AreLines (setup t) := by
    have hbase : IsText ("RestAssured.baseURI = " ++ literal t.baseUrl ++ ";") :=
      (isText_literal t.baseUrl).between 0 0 (by decide) (by decide)
    exact areLines_cons (by decide) (areLines_block (by decide) (areLines_singleton hbase))
  refine areLines_block hopen ?_
  refine (((hblank.append hsetup).append hblank).append
    (areLines_method r c t status)).append ?_
  split
  · exact hblank.append areLines_retryAnalyzer
  · exact areLines_nil

/-- What the source of a test is made of, whole or without its class. -/
theorem areLines_source (h : c.validate = .ok ()) (r : Request) (t : Target) (status : Nat) :
    AreLines (if c.isFull then preamble c ++ testClass r c t status else method r c t status) := by
  split
  · exact (areLines_preamble h).append (areLines_testClass r c t status)
  · exact areLines_method r c t status

end Test

end CurlScribe
