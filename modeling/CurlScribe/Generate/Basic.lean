import CurlScribe.Generate.Pojo
import CurlScribe.Generate.Test

/-! All that is generated for a request. Every check comes before any text is made. -/
namespace CurlScribe

structure GeneratedCode where
  test : String
  pojo : Option String
  pom : Option String
deriving DecidableEq

inductive GenerateError where
  | missingServiceName
  | missingMethodName
  | incompleteProjectInfo (missing : List String)
  | noAddress
  | invalidConfig (e : ConfigError)
deriving DecidableEq

def GenerateError.message : GenerateError → String
  | missingServiceName => "Service name is required to generate a test class"
  | missingMethodName => "Method name is required to generate a test class"
  | incompleteProjectInfo missing =>
    "Project info is incomplete, missing: " ++ ", ".intercalate missing
  | noAddress => "Invalid request: request has neither a URL nor a base URL"
  | invalidConfig e => "Invalid generation config: " ++ e.message?.getD ""

namespace Generate

/-- A class and its method need names that hold a letter or a digit. -/
def checkNames (c : Config) : Except GenerateError Unit :=
  if !c.isFull then .ok ()
  else if Java.pascalCase c.serviceName = "" then .error .missingServiceName
  else if Java.camelCase c.methodName = "" then .error .missingMethodName
  else .ok ()

def checkPom (c : Config) : Except GenerateError Unit :=
  if !c.generatePom then .ok ()
  else
    match c.pomConfig.missing with
    | [] => .ok ()
    | missing => .error (.incompleteProjectInfo missing)

/-- All checks, in the order in which they are reported. -/
def validate (r : Request) (c : Config) : Except GenerateError Unit :=
  match c.validate, checkNames c, checkPom c, Target.ofRequest? r with
  | .error e, _, _, _ => .error (.invalidConfig e)
  | _, .error e, _, _ => .error e
  | _, _, .error e, _ => .error e
  | _, _, _, none => .error .noAddress
  | _, _, _, some _ => .ok ()

/-- The name of the class for a body. -/
def rootClassName (c : Config) : String :=
  let name := Java.pascalCase c.serviceName
  if name = "" then "RequestPayload" else name ++ "Request"

def pojo? (r : Request) (c : Config) : Option String :=
  if c.needPojo then
    (r.spokenBody.bind Body.json).bind (Pojo.source? (rootClassName c) c.pojoAnnotations)
  else none

/-- The code for a request, unless a check fails. -/
def code (r : Request) (c : Config) : Except GenerateError GeneratedCode := do
  validate r c
  match Target.ofRequest? r, c.statusNumber with
  | none, _ => .error .noAddress
  | _, .error e => .error (.invalidConfig e)
  | some target, .ok status =>
    let test := Test.source r c target status
    if c.generatePom then
      match Maven.pom c.pomConfig with
      | .ok xml => .ok ⟨test, pojo? r c, some xml⟩
      | .error missing => .error (.incompleteProjectInfo missing)
    else .ok ⟨test, pojo? r c, none⟩

end Generate

end CurlScribe
