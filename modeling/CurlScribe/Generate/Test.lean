import CurlScribe.Generate.Config
import CurlScribe.Generate.Target
import CurlScribe.Java.Literal
import CurlScribe.Java.Name
import CurlScribe.Java.Source

/-! The source of a test: a class around one test method, or the method alone. -/
namespace CurlScribe.Test

open Java (Line block literal render)

/-! The request, step by step. -/

/-- Names that a test written in statements declares itself. -/
def reservedLocals : List String := ["request", "response"]

/-- A local variable for each path parameter, all of them distinct. -/
def localsFrom (taken : List String) : List String → List (String × String)
  | [] => []
  | parameter :: rest =>
    let name := Java.fresh (reservedLocals ++ taken) (Java.identifier parameter)
    (parameter, name) :: localsFrom (taken ++ [name]) rest

def pathLocals (parameters : List String) : List (String × String) := localsFrom [] parameters

def call2 (name a b : String) : String := name ++ "(" ++ a ++ ", " ++ b ++ ")"

def call1 (name a : String) : String := name ++ "(" ++ a ++ ")"

def isHeader (name : String) (p : Param) : Bool :=
  Text.sameIgnoringCase p.key.toList name.toList

/-- The token of a bearer value, whose first word may be in any case. -/
def bearerToken? (value : List Char) : Option (List Char) :=
  if Text.sameIgnoringCase (value.take 7) "bearer ".toList then some (Text.trim (value.drop 7))
  else none

/-- The authorization headers come after all others, and bearer tokens get a call of their own. -/
def authorizationCall (p : Param) : String :=
  let value := Text.trim p.value.toList
  match bearerToken? value with
  | some token => call1 "auth().oauth2" (literal (String.ofList token))
  | none => call2 "header" (literal p.key) (literal (String.ofList value))

def builderCalls (r : Request) : List String :=
  (if r.flag "insecure" then ["relaxedHTTPSValidation()"] else []) ++
    (r.proxy.map fun p => call1 "proxy" (literal p)).toList

/-- A header for a value of its own, unless the request has that header. -/
def ownHeader (r : Request) (name : String) (value : Option String) : List String :=
  match value with
  | some v =>
    if r.headers.enabled.any (isHeader name) then []
    else [call2 "header" (literal name) (literal v)]
  | none => []

def headerCalls (r : Request) : List String :=
  ((r.headers.enabled.filter fun p => !isHeader "authorization" p).map fun p =>
      call2 "header" (literal p.key) (literal p.value)) ++
    (r.cookies.enabled.map fun p => call2 "cookie" (literal p.key) (literal p.value)) ++
    ownHeader r "User-Agent" r.userAgent ++ ownHeader r "Referer" r.referer

def authCalls (r : Request) : List String :=
  (r.headers.enabled.filter (isHeader "authorization")).map authorizationCall ++
    match r.enabledScheme with
    | some (.basic username password) =>
      [call2 "auth().preemptive().basic" (literal username) (literal password)]
    | some (.bearer token) => [call1 "auth().oauth2" (literal token)]
    | some .none => []
    | none => []

def parameterCalls (r : Request) (locals : List (String × String)) : List String :=
  (locals.map fun (parameter, name) => call2 "pathParam" (literal parameter) name) ++
    r.queryParams.enabled.map fun p => call2 "queryParam" (literal p.key) (literal p.value)

/-- Form fields count only where there is no body. -/
def payloadCalls (r : Request) : List String :=
  match r.spokenBody with
  | some b => [call1 "body" (literal b.raw)]
  | none => r.formData.enabled.map fun p => call2 "multiPart" (literal p.key) (literal p.value)

/-- Everything said about the request before it is sent. -/
def specCalls (r : Request) (locals : List (String × String)) : List String :=
  builderCalls r ++ headerCalls r ++ authCalls r ++ parameterCalls r locals ++ payloadCalls r

/-- Two methods have no call of their own. -/
def verbCall (m : Method) (path : String) : String :=
  match m with
  | .trace => call2 "request" (literal m.name) (literal path)
  | .connect => call2 "request" (literal m.name) (literal path)
  | _ => call1 m.lowerName (literal path)

/-! The test method. -/

def numeral (n : Nat) : String := String.ofList (decimalDigits n)

def signedNumeral (n : Int32) : String :=
  (if n < 0 then "-" else "") ++ numeral n.toInt.natAbs

def annotation (c : Config) : String :=
  let groups :=
    if c.testGroups.isEmpty then []
    else ["groups = \x7b" ++ ", ".intercalate (c.testGroups.map literal) ++ "\x7d"]
  let attributes :=
    groups ++ (c.testPriority.map fun n => "priority = " ++ signedNumeral n).toList ++
      ((Text.nonBlank c.testDescription).map fun d => "description = " ++ literal d).toList ++
      (if c.includeRetry then ["retryAnalyzer = RetryAnalyzer.class"] else [])
  if attributes.isEmpty then "@Test" else "@Test(" ++ ", ".intercalate attributes ++ ")"

/-- What is asked of the response, in one chain. -/
def checks (c : Config) (status : Nat) : List String :=
  (if c.assertionRequired then [call1 "statusCode" (numeral status)] else []) ++
    (if c.assertResponseTime then
      ["time(lessThan(" ++ numeral c.maxResponseTimeMs.toNat ++ "L))"] else []) ++
    (if c.loggingRequired then ["log().all()"] else [])

/-- Ends the last line with a semicolon. -/
def endStatement : List Line → List Line
  | [] => []
  | [l] => [⟨l.depth, l.text ++ ";"⟩]
  | l :: rest => l :: endStatement rest

def fluent (c : Config) (spec : List String) (verb : String) (status : Nat) : List Line :=
  let step (call : String) : Line := ⟨1, "." ++ call⟩
  let tail :=
    match checks c status with
    | [] => []
    | cs => ⟨0, ".then()"⟩ :: cs.map step
  endStatement (⟨0, "given()"⟩ :: spec.map step ++ [⟨0, ".when()"⟩, step verb] ++ tail)

/-- What is asked of the response, as statements. -/
def assertions (c : Config) (status : Nat) : List String :=
  let ms := numeral c.maxResponseTimeMs.toNat
  (if c.assertionRequired then
    ["Assert.assertEquals(response.getStatusCode(), " ++ numeral status ++ ");"] else []) ++
    (if c.assertResponseTime then
      ["Assert.assertTrue(response.getTime() < " ++ ms ++
        "L, \"Response time exceeded " ++ ms ++ " ms\");"] else []) ++
    (if c.loggingRequired then ["response.then().log().all();"] else [])

def statements (c : Config) (spec : List String) (verb : String) (status : Nat) : List Line :=
  let tail :=
    match assertions c status with
    | [] => []
    | lines => .blank :: lines.map (Line.mk 0)
  ⟨0, "RequestSpecification request = RestAssured.given();"⟩ ::
    (spec.map fun call => ⟨0, "request." ++ call ++ ";"⟩) ++
    [.blank, ⟨0, "Response response = request." ++ verb ++ ";"⟩] ++ tail

/-- The name from the settings, or one derived from the request. -/
def testName (r : Request) (c : Config) (t : Target) : String :=
  let name := Java.camelCase c.methodName
  if name = "" then Java.methodName r.method t.path else Java.identifier name

def method (r : Request) (c : Config) (t : Target) (status : Nat) : List Line :=
  let locals := pathLocals t.pathParameters
  let declarations :=
    match locals with
    | [] => []
    | _ => (locals.map fun (_, name) => ⟨0, "String " ++ name ++ " = \"\";"⟩) ++ [.blank]
  let spec := specCalls r locals
  let verb := verbCall r.method (if c.isFull then t.path else t.absolute)
  let body := if c.useFluentApi then fluent c spec verb status else statements c spec verb status
  ⟨0, annotation c⟩ ::
    block ("public void " ++ testName r c t ++ "() \x7b") (declarations ++ body)

/-! The class. -/

/-- The classes that a test imports, in the order of their names. -/
def imports (c : Config) : List String :=
  let plain := !c.useFluentApi
  ["io.restassured.RestAssured"] ++
    (if plain then
      ["io.restassured.response.Response", "io.restassured.specification.RequestSpecification"]
    else []) ++
    (if plain && (c.assertionRequired || c.assertResponseTime) then ["org.testng.Assert"]
    else []) ++
    (if c.includeRetry then ["org.testng.IRetryAnalyzer", "org.testng.ITestResult"] else []) ++
    ["org.testng.annotations.BeforeClass", "org.testng.annotations.Test"]

def staticImports (c : Config) : List String :=
  if c.useFluentApi then
    ["io.restassured.RestAssured.given"] ++
      (if c.assertResponseTime then ["org.hamcrest.Matchers.lessThan"] else [])
  else []

def preamble (c : Config) : List Line :=
  let package :=
    match c.package? with
    | some p => [⟨0, "package " ++ p ++ ";"⟩, .blank]
    | none => []
  let static :=
    match staticImports c with
    | [] => []
    | names => .blank :: names.map fun n => ⟨0, "import static " ++ n ++ ";"⟩
  package ++ ((imports c).map fun n => ⟨0, "import " ++ n ++ ";"⟩) ++ static ++ [.blank]

def setup (t : Target) : List Line :=
  ⟨0, "@BeforeClass"⟩ ::
    block "public void setup() \x7b" [⟨0, "RestAssured.baseURI = " ++ literal t.baseUrl ++ ";"⟩]

/-- A nested class that runs a failed test again. -/
def retryAnalyzer : List Line :=
  block "public static class RetryAnalyzer implements IRetryAnalyzer \x7b" (
    [⟨0, "private static final int MAX_RETRIES = 2;"⟩, ⟨0, "private int attempts = 0;"⟩, .blank,
      ⟨0, "@Override"⟩] ++
    block "public boolean retry(ITestResult result) \x7b" (
      block "if (attempts < MAX_RETRIES) \x7b" [⟨0, "attempts++;"⟩, ⟨0, "return true;"⟩] ++
      [⟨0, "return false;"⟩]))

def testClass (r : Request) (c : Config) (t : Target) (status : Nat) : List Line :=
  block ("public class " ++ Java.pascalCase c.serviceName ++ " \x7b") (
    [.blank] ++ setup t ++ [.blank] ++ method r c t status ++
    (if c.includeRetry then .blank :: retryAnalyzer else []))

/-- The source of a test. -/
def source (r : Request) (c : Config) (t : Target) (status : Nat) : String :=
  render (if c.isFull then preamble c ++ testClass r c t status else method r c t status)

end CurlScribe.Test
