import CurlScribe.Maven.Pom
import CurlScribe.Text.Word

/-! What to generate and how: settings, their JSON form, and which of them make sense. -/
namespace CurlScribe

/-- A whole test class, or a test method alone. -/
inductive Extent where
  | full
  | method
deriving DecidableEq

def Extent.name : Extent → String
  | full => "full"
  | method => "method"

structure Config where
  extent : Extent := .full
  serviceName : String := ""
  methodName : String := ""
  assertionRequired : Bool := true
  statusCode : String := "200"
  loggingRequired : Bool := false
  needPojo : Bool := false
  useFluentApi : Bool := true
  includeRetry : Bool := false
  testGroups : List String := []
  testPriority : Option Int32 := none
  testDescription : Option String := none
  assertResponseTime : Bool := false
  maxResponseTimeMs : UInt64 := 2000
  generatePom : Bool := false
  pomConfig : Maven.PomConfig := {}
  packageName : Option String := none
  pojoAnnotations : List String := []
deriving DecidableEq

/-- Why settings are refused. -/
inductive ConfigError where
  | misfit (m : Misfit)
  | statusCode (text : String)
  | responseTime
  | packageName (text : String)
deriving DecidableEq

/-- The text of an error, where it has one of its own. -/
def ConfigError.message? : ConfigError → Option String
  | misfit m => m.reason?.map ("Invalid configuration JSON: " ++ ·)
  | statusCode text =>
    some ("Invalid configuration: statusCode '" ++ text ++ "' is not an HTTP status code")
  | responseTime => some "Invalid configuration: maxResponseTimeMs must be greater than 0"
  | packageName text =>
    some ("Invalid configuration: packageName '" ++ text ++ "' is not a valid Java package")

namespace Config

/-- Groups are a list, or one text with commas between them; blank ones are dropped. -/
def groupsCodec : Json.Codec (List String) where
  write := (Json.Codec.list .text).write
  read v :=
    let tidy (groups : List String) := (groups.map Text.trimmed).filter (· != "")
    match v with
    | .str s => .ok (tidy ((s.toList.splitOn ',').map String.ofList))
    | v => ((Json.Codec.list .text).read v).map tidy

/-- A status is text, or a number by its text. -/
def statusCodec : Json.Codec String where
  write := .str
  read := Maven.textOrNumber

open Json.Field in
def record : Json.Record Config where
  start := {}
  fields := [
    always "option" (.named Extent.name [.full, .method]) extent
      fun a r => { r with extent := a },
    always "serviceName" .text serviceName fun a r => { r with serviceName := a },
    always "methodName" .text methodName fun a r => { r with methodName := a },
    always "assertionRequired" .switch assertionRequired
      fun a r => { r with assertionRequired := a },
    always "statusCode" statusCodec statusCode fun a r => { r with statusCode := a },
    always "loggingRequired" .switch loggingRequired fun a r => { r with loggingRequired := a },
    always "needPojo" .switch needPojo fun a r => { r with needPojo := a },
    always "useFluentApi" .switch useFluentApi fun a r => { r with useFluentApi := a },
    always "includeRetry" .switch includeRetry fun a r => { r with includeRetry := a },
    always "testGroups" groupsCodec testGroups fun a r => { r with testGroups := a },
    always "testPriority" (.nullable .integer32) testPriority
      fun a r => { r with testPriority := a },
    always "testDescription" (.nullable .text) testDescription
      fun a r => { r with testDescription := a },
    always "assertResponseTime" .switch assertResponseTime
      fun a r => { r with assertResponseTime := a },
    always "maxResponseTimeMs" .count64 maxResponseTimeMs
      fun a r => { r with maxResponseTimeMs := a },
    always "generatePom" .switch generatePom fun a r => { r with generatePom := a },
    always "pomConfig" Maven.PomConfig.record.codec pomConfig
      fun a r => { r with pomConfig := a },
    always "packageName" (.nullable .text) packageName fun a r => { r with packageName := a },
    always "pojoAnnotations" (.list .text) pojoAnnotations
      fun a r => { r with pojoAnnotations := a }]

def codec : Json.Codec Config := record.codec

def isFull (c : Config) : Bool := c.extent == .full

/-- The expected status, where it is one: three digits from 100 to 599. -/
def statusNumber? (c : Config) : Option Nat :=
  let digits := Text.trim c.statusCode.toList
  let n := digitsValue 0 digits
  if digits.length = 3 && digits.all Char.isDigit && 100 ≤ n && n ≤ 599 then some n else none

def statusNumber (c : Config) : Except ConfigError Nat :=
  match c.statusNumber? with
  | some n => .ok n
  | none => .error (.statusCode c.statusCode)

/-- The package without its margins, unless it is blank. -/
def package? (c : Config) : Option String :=
  (c.packageName.map Text.trimmed).filter (· != "")

/-- One part of a package name. -/
def isPackagePart : List Char → Bool
  | [] => false
  | c :: rest =>
    (c.isAlpha || c == '_' || c == '$') && rest.all fun d => Text.isWordChar d || d == '$'

def isPackage (s : String) : Bool := (s.toList.splitOn '.').all isPackagePart

/-- Refuses values that no test could be generated with. -/
def validate (c : Config) : Except ConfigError Unit :=
  match c.statusNumber with
  | .error e => .error e
  | .ok _ =>
    if c.assertResponseTime && c.maxResponseTimeMs == 0 then .error .responseTime
    else
      match c.package? with
      | some p => if isPackage p then .ok () else .error (.packageName p)
      | none => .ok ()

/-- Settings pass where each of the checks does. -/
theorem validate_ok_iff {c : Config} : c.validate = .ok () ↔
    (∃ n, c.statusNumber = .ok n) ∧ (c.assertResponseTime && c.maxResponseTimeMs == 0) = false ∧
      ∀ p, c.package? = some p → isPackage p = true := by
  unfold validate
  cases c.statusNumber with
  | error e => simp
  | ok n =>
    cases c.assertResponseTime && c.maxResponseTimeMs == 0 with
    | true => simp
    | false => cases c.package? <;> simp

/-- Reads settings and refuses those that make no sense. -/
def load (v : Json) : Except ConfigError Config :=
  match codec.read v with
  | .error m => .error (.misfit m)
  | .ok c =>
    match c.validate with
    | .error e => .error e
    | .ok _ => .ok c

/-- Settings that are loaded are those that are read and make sense. -/
theorem load_ok_iff {v : Json} {c : Config} :
    load v = .ok c ↔ codec.read v = .ok c ∧ c.validate = .ok () := by
  unfold load
  cases codec.read v with
  | error m => simp
  | ok d =>
    simp only [Except.ok.injEq]
    constructor
    · intro h
      split at h
      · cases h
      · obtain rfl := Except.ok.inj h
        exact ⟨rfl, ‹_›⟩
    · rintro ⟨rfl, hvalid⟩
      rw [hvalid]

end Config

end CurlScribe
