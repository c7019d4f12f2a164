import CurlScribe.Json.Record
import CurlScribe.Text.Blank

/-! Build files for the generated project. -/
namespace CurlScribe.Maven

inductive PomType where
  | full
  | dependenciesOnly
deriving DecidableEq

def PomType.name : PomType → String
  | full => "full"
  | dependenciesOnly => "dependencies_only"

inductive JavaVersion where
  | v8
  | v11
  | v17
  | v21
deriving DecidableEq

namespace JavaVersion

def number : JavaVersion → Nat
  | v8 => 8
  | v11 => 11
  | v17 => 17
  | v21 => 21

/-- The name under which the compiler knows the version. -/
def release : JavaVersion → String
  | v8 => "1.8"
  | v11 => "11"
  | v17 => "17"
  | v21 => "21"

def ofText? (s : String) : Option JavaVersion :=
  match Text.trimmed s with
  | "8" => some v8
  | "1.8" => some v8
  | "11" => some v11
  | "17" => some v17
  | "21" => some v21
  | _ => none

end JavaVersion

/-- Coordinates and descriptions of the project. -/
structure ProjectInfo where
  groupId : String := ""
  artifactId : String := ""
  version : String := ""
  name : Option String := none
  description : Option String := none
deriving DecidableEq

/-- The coordinates that are blank. -/
def ProjectInfo.missing (info : ProjectInfo) : List String :=
  ([("groupId", info.groupId), ("artifactId", info.artifactId),
    ("version", info.version)].filter fun (_, value) => Text.blank value).map Prod.fst

/-- Dependencies that can be asked for. -/
structure Extras where
  junit : Bool := false
  allure : Bool := false
  extent : Bool := false
  excel : Bool := false
  faker : Bool := false
  logging : Bool := false
  commonsIo : Bool := false
deriving DecidableEq

structure PomConfig where
  pomType : PomType := .full
  projectInfo : ProjectInfo := {}
  extras : Extras := {}
  javaVersion : JavaVersion := .v17
deriving DecidableEq

/-! Settings as JSON. -/

open Json.Field in
def ProjectInfo.record : Json.Record ProjectInfo where
  start := {}
  fields := [
    always "groupId" .text groupId fun a r => { r with groupId := a },
    always "artifactId" .text artifactId fun a r => { r with artifactId := a },
    always "version" .text version fun a r => { r with version := a },
    always "name" (.nullable .text) name fun a r => { r with name := a },
    always "description" (.nullable .text) description fun a r => { r with description := a }]

open Json.Field in
def Extras.record : Json.Record Extras where
  start := {}
  fields := [
    always "junit" .switch junit fun a r => { r with junit := a },
    always "allure" .switch allure fun a r => { r with allure := a },
    always "extent" .switch extent fun a r => { r with extent := a },
    always "excel" .switch excel fun a r => { r with excel := a },
    always "faker" .switch faker fun a r => { r with faker := a },
    always "logging" .switch logging fun a r => { r with logging := a },
    always "commonsIo" .switch commonsIo fun a r => { r with commonsIo := a }]

/-- Text, or a number by its text. -/
def textOrNumber : Json → Except Misfit String
  | .str s => .ok s
  | .num n => .ok (String.ofList n.text)
  | _ => .error .shape

def JavaVersion.codec : Json.Codec JavaVersion where
  write v := .num (.whole v.number (by cases v <;> decide) (by cases v <;> decide))
  read j :=
    match textOrNumber j with
    | .error e => .error e
    | .ok s =>
      match JavaVersion.ofText? s with
      | some v => .ok v
      | none => .error (.unsupportedJava s)

open Json.Field in
def PomConfig.record : Json.Record PomConfig where
  start := {}
  fields := [
    always "pomType" (.named PomType.name [.full, .dependenciesOnly]) pomType
      fun a r => { r with pomType := a },
    always "projectInfo" ProjectInfo.record.codec projectInfo
      fun a r => { r with projectInfo := a },
    always "dependencies" Extras.record.codec extras fun a r => { r with extras := a },
    always "javaVersion" JavaVersion.codec javaVersion fun a r => { r with javaVersion := a }]

/-! Dependencies. -/

structure Dependency where
  groupId : String
  artifactId : String
  version : String
  scope : Option String
deriving DecidableEq

/-- Always there. -/
def baseDependencies : List Dependency := [
  ⟨"io.rest-assured", "rest-assured", "5.4.0", some "test"⟩,
  ⟨"org.testng", "testng", "7.10.2", some "test"⟩,
  ⟨"com.fasterxml.jackson.core", "jackson-databind", "2.17.1", none⟩]

/-- The dependencies that each extra brings, in the order in which they are written. -/
def Extras.dependencies (e : Extras) : List Dependency :=
  (if e.junit then [⟨"org.junit.jupiter", "junit-jupiter", "5.10.2", some "test"⟩] else []) ++
  (if e.allure then [⟨"io.qameta.allure", "allure-testng", "2.27.0", some "test"⟩] else []) ++
  (if e.extent then [⟨"com.aventstack", "extentreports", "5.1.1", none⟩] else []) ++
  (if e.excel then [⟨"org.apache.poi", "poi-ooxml", "5.2.5", none⟩] else []) ++
  (if e.faker then [⟨"net.datafaker", "datafaker", "2.2.2", none⟩] else []) ++
  (if e.logging then
    [⟨"org.apache.logging.log4j", "log4j-api", "2.23.1", none⟩,
      ⟨"org.apache.logging.log4j", "log4j-core", "2.23.1", none⟩]
  else []) ++
  (if e.commonsIo then [⟨"commons-io", "commons-io", "2.16.1", none⟩] else [])

def dependencies (e : Extras) : List Dependency := baseDependencies ++ e.dependencies

/-! XML. -/

def escapeXmlChar (c : Char) : List Char :=
  match c with
  | '&' => "&amp;".toList
  | '<' => "&lt;".toList
  | '>' => "&gt;".toList
  | '"' => "&quot;".toList
  | '\'' => "&apos;".toList
  | _ => [c]

def escapeXml (s : String) : String := String.ofList (s.toList.flatMap escapeXmlChar)

/-- An element with text that is written as it is. -/
def element (name text : String) : String := "<" ++ name ++ ">" ++ text ++ "</" ++ name ++ ">"

/-- A line at a depth of four blanks a level. -/
def line (depth : Nat) (text : String) : String :=
  String.ofList (List.replicate (4 * depth) ' ') ++ text ++ "\n"

def dependencyLines (depth : Nat) (d : Dependency) : List String :=
  [line depth "<dependency>", line (depth + 1) (element "groupId" d.groupId),
    line (depth + 1) (element "artifactId" d.artifactId),
    line (depth + 1) (element "version" d.version)] ++
    (d.scope.map fun s => line (depth + 1) (element "scope" s)).toList ++
    [line depth "</dependency>"]

def dependencyBlock (depth : Nat) (ds : List Dependency) : List String :=
  [line depth "<dependencies>"] ++ ds.flatMap (dependencyLines (depth + 1)) ++
    [line depth "</dependencies>"]

/-- An element for a description, unless it is blank. -/
def description (name : String) (text : Option String) : List String :=
  ((Text.nonBlank text).map fun t => line 1 (element name (escapeXml t))).toList

def plugin (artifactId version : String) (configuration : List String) : List String :=
  [line 3 "<plugin>", line 4 (element "groupId" "org.apache.maven.plugins"),
    line 4 (element "artifactId" artifactId), line 4 (element "version" version)] ++
    configuration ++ [line 3 "</plugin>"]

def projectLines (c : PomConfig) : List String :=
  let info := c.projectInfo
  let release := c.javaVersion.release
  [ "<?xml version=\"1.0\" encoding=\"UTF-8\"?>\n",
    "<project xmlns=\"http://maven.apache.org/POM/4.0.0\"\n",
    "         xmlns:xsi=\"http://www.w3.org/2001/XMLSchema-instance\"\n",
    "         xsi:schemaLocation=\"http://maven.apache.org/POM/4.0.0 ",
    "http://maven.apache.org/xsd/maven-4.0.0.xsd\">\n",
    line 1 (element "modelVersion" "4.0.0"), "\n",
    line 1 (element "groupId" (escapeXml (Text.trimmed info.groupId))),
    line 1 (element "artifactId" (escapeXml (Text.trimmed info.artifactId))),
    line 1 (element "version" (escapeXml (Text.trimmed info.version))),
    line 1 (element "packaging" "jar")] ++
    description "name" info.name ++ description "description" info.description ++
    ["\n", line 1 "<properties>", line 2 (element "maven.compiler.source" release),
      line 2 (element "maven.compiler.target" release),
      line 2 (element "project.build.sourceEncoding" "UTF-8"), line 1 "</properties>", "\n"] ++
    dependencyBlock 1 (dependencies c.extras) ++
    ["\n", line 1 "<build>", line 2 "<plugins>"] ++
    plugin "maven-compiler-plugin" "3.13.0"
      [line 4 "<configuration>", line 5 (element "source" release),
        line 5 (element "target" release), line 4 "</configuration>"] ++
    plugin "maven-surefire-plugin" "3.2.5" [] ++
    [line 2 "</plugins>", line 1 "</build>", "</project>\n"]

/-- The coordinates that keep a build file from being written. -/
def PomConfig.missing (c : PomConfig) : List String :=
  match c.pomType with
  | .full => c.projectInfo.missing
  | .dependenciesOnly => []

/-- The text of a build file, or the coordinates that it lacks. -/
def pom (c : PomConfig) : Except (List String) String :=
  match c.missing with
  | [] =>
    .ok (String.join (match c.pomType with
      | .full => projectLines c
      | .dependenciesOnly => dependencyBlock 0 (dependencies c.extras)))
  | missing => .error missing

end CurlScribe.Maven
