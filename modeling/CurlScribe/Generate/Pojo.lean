import CurlScribe.Json.Basic
import CurlScribe.Java.Literal
import CurlScribe.Java.Name
import CurlScribe.Java.Source
import CurlScribe.Text.Blank

/-! Java classes for the JSON value of a body: one for the body, and one for each shape of object
inside it. -/
namespace CurlScribe.Pojo

open Java (Line block literal render)

/-! Shapes. -/

/-- What the type of a field depends on. -/
inductive Shape where
  | unknown
  | scalar (javaType : String)
  | list (item : Shape)
  | record (fields : List (String × Shape))

namespace Shape

def isUnknown : Shape → Bool
  | unknown => true
  | _ => false

/-- Adds a field of a further object; only a known shape replaces an unknown one. -/
def addField (fields : List (String × Shape)) (key : String) (shape : Shape) :
    List (String × Shape) :=
  match fields with
  | [] => [(key, shape)]
  | (k, s) :: rest =>
    if k = key then (k, if s.isUnknown then shape else s) :: rest
    else (k, s) :: addField rest key shape

/-- The fields of several objects in one, in the order in which they are first seen. -/
def merge (objects : List (List (String × Shape))) : List (String × Shape) :=
  objects.foldl (fun merged fields =>
    fields.foldl (fun m (key, shape) => addField m key shape) merged) []

def fields? : Shape → Option (List (String × Shape))
  | record fields => some fields
  | _ => none

/-- The shape of the items of an array: all its objects in one, or else the first known shape. -/
def ofItems (items : List Shape) : Shape :=
  match items.filterMap fields? with
  | [] => (items.find? fun s => !s.isUnknown).getD unknown
  | objects => record (merge objects)

/-- Whole numbers are of 32 bits where they fit. -/
def ofNumber : Json.Number → Shape
  | .whole n _ _ => scalar (if -0x80000000 ≤ n ∧ n < 0x80000000 then "Integer" else "Long")
  | .real _ _ => scalar "Double"

mutual

def ofJson : Json → Shape
  | .null => unknown
  | .bool _ => scalar "Boolean"
  | .num n => ofNumber n
  | .str _ => scalar "String"
  | .arr items => list (ofItems (ofArray items))
  | .obj fields => record (ofObject fields)

def ofArray : List Json → List Shape
  | [] => []
  | v :: rest => ofJson v :: ofArray rest

def ofObject : List (String × Json) → List (String × Shape)
  | [] => []
  | (key, v) :: rest => (key, ofJson v) :: ofObject rest

end

end Shape

/-! Classes. -/

structure JavaField where
  key : String
  name : String
  javaType : String
deriving DecidableEq

structure JavaClass where
  name : String
  fields : List JavaField
deriving DecidableEq

/-- The keys and types of a class in one text. Classes with the same text are one class. -/
def signature (fields : List JavaField) : String :=
  String.join (fields.map fun f => f.key ++ ":" ++ f.javaType ++ ";")

/-- Types that the fields name without a package. -/
def reservedNames : List String :=
  ["String", "Integer", "Long", "Double", "Boolean", "Object", "List"]

/-- The name for a nested class with these fields, and the classes after it has been added, unless
there is one like it. -/
def register (root suggested : String) (fields : List JavaField) (classes : List JavaClass) :
    String × List JavaClass :=
  match classes.find? fun c => signature c.fields == signature fields with
  | some c => (c.name, classes)
  | none =>
    let base := if suggested = "" then "Nested" else suggested
    let name := Java.fresh (root :: reservedNames ++ classes.map JavaClass.name) base
    (name, classes ++ [⟨name, fields⟩])

mutual

/-- The type of a field, and the nested classes after those it needs. The class of a list item is
named for the item. -/
def typeOf (root key suffix : String) (classes : List JavaClass) :
    Shape → String × List JavaClass
  | .unknown => ("Object", classes)
  | .scalar t => (t, classes)
  | .list item =>
    let (t, classes) := typeOf root key "Item" classes item
    ("List<" ++ t ++ ">", classes)
  | .record fields =>
    let (fields, classes) := fieldsOf root [] classes fields
    register root (Java.pascalCase key ++ suffix) fields classes

/-- The fields of a class after those that are done. -/
def fieldsOf (root : String) (done : List JavaField) (classes : List JavaClass) :
    List (String × Shape) → List JavaField × List JavaClass
  | [] => (done, classes)
  | (key, shape) :: rest =>
    let name := Java.fresh (done.map JavaField.name) (Java.identifier key)
    let (t, classes) := typeOf root key "" classes shape
    fieldsOf root (done ++ [⟨key, name, t⟩]) classes rest

end

/-- The class of a body and the nested classes; a body needs an object, or an array that holds
some. -/
def classesOf? (root : String) (body : Json) : Option (JavaClass × List JavaClass) :=
  let fields? :=
    match Shape.ofJson body with
    | .record fields => some fields
    | .list (.record fields) => some fields
    | _ => none
  fields?.map fun fields =>
    let (fields, classes) := fieldsOf root [] [] fields
    (⟨root, fields⟩, classes)

/-! Source. -/

/-- A field whose name is not its key says which key it stands for. -/
def needsKey (f : JavaField) : Bool := f.name != f.key

def isList (f : JavaField) : Bool := "List<".toList.isPrefixOf f.javaType.toList

def declaration (f : JavaField) : List Line :=
  (if needsKey f then [⟨0, "@JsonProperty(" ++ literal f.key ++ ")"⟩] else []) ++
    [⟨0, "private " ++ f.javaType ++ " " ++ f.name ++ ";"⟩]

def getter (f : JavaField) : String := "get" ++ String.ofList (Java.capitalize f.name.toList)

def setter (f : JavaField) : String := "set" ++ String.ofList (Java.capitalize f.name.toList)

/-- A getter and a setter. -/
def accessors (f : JavaField) : List Line :=
  .blank :: block ("public " ++ f.javaType ++ " " ++ getter f ++ "() \x7b")
      [⟨0, "return " ++ f.name ++ ";"⟩] ++
    .blank :: block ("public void " ++ setter f ++ "(" ++ f.javaType ++ " " ++ f.name ++ ") \x7b")
      [⟨0, "this." ++ f.name ++ " = " ++ f.name ++ ";"⟩]

/-- A class with `inner` at its end. Annotations take the place of accessors. -/
def classLines (header : String) (annotations : List String) (c : JavaClass)
    (inner : List Line) : List Line :=
  annotations.map (Line.mk 0) ++
    block (header ++ " " ++ c.name ++ " \x7b") (
      c.fields.flatMap declaration ++
        (if annotations.isEmpty then c.fields.flatMap accessors else []) ++ inner)

def importLines (fields : List JavaField) : List Line :=
  let names :=
    (if fields.any needsKey then ["com.fasterxml.jackson.annotation.JsonProperty"] else []) ++
      (if fields.any isList then ["java.util.List"] else [])
  match names with
  | [] => []
  | _ => (names.map fun n => ⟨0, "import " ++ n ++ ";"⟩) ++ [.blank]

/-- The source of a class with its nested classes, all of them annotated. -/
def sourceOf (annotations : List String) (rootClass : JavaClass) (nested : List JavaClass) :
    String :=
  let annotations := (annotations.map Text.trimmed).filter (· != "")
  let inner := nested.flatMap fun c =>
    .blank :: classLines "public static class" annotations c []
  let imports := importLines ((rootClass :: nested).flatMap JavaClass.fields)
  render (imports ++ classLines "public class" annotations rootClass inner)

/-- The source of the classes of a body, if it has any. -/
def source? (root : String) (annotations : List String) (body : Json) : Option String :=
  (classesOf? root body).map fun (rootClass, nested) => sourceOf annotations rootClass nested

end CurlScribe.Pojo
