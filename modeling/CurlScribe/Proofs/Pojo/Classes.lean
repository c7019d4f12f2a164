import CurlScribe.Generate.Pojo
import CurlScribe.Proofs.Java.Name
import Mathlib.Data.List.Nodup

/-! The classes of a body: their names are distinct, and their types are ones that are declared. -/
namespace CurlScribe.Pojo

open Java (IsName StartsLow)

variable {root key suffix t suggested : String} {names names' : List String} {shape item : Shape}
  {f : JavaField} {fields done : List JavaField} {c : JavaClass} {classes classes' : List JavaClass}

/-- The types that need no class of their own. -/
def scalarTypes : List String := ["String", "Integer", "Long", "Double", "Boolean", "Object"]

/-- A type that can be named where these classes are declared: a list of, or one by itself. -/
inductive IsType (names : List String) : String → Prop
  | named {t : String} : t ∈ scalarTypes ++ names → IsType names t
  | list {t : String} : IsType names t → IsType names ("List<" ++ t ++ ">")

theorem IsType.mono (h : IsType names t) (hs : names ⊆ names') : IsType names' t := by
  induction h with
  | named hn =>
    rcases List.mem_append.mp hn with hn | hn
    · exact .named (List.mem_append_left _ hn)
    · exact .named (List.mem_append_right _ (hs hn))
  | list _ ih => exact .list ih

/-! Shapes. -/

namespace Shape

/-- A shape whose scalars are types. -/
inductive IsTyped : Shape → Prop
  | unknown : IsTyped .unknown
  | scalar {t : String} : t ∈ scalarTypes → IsTyped (.scalar t)
  | list {item : Shape} : IsTyped item → IsTyped (.list item)
  | record {fields : List (String × Shape)} : (∀ f ∈ fields, IsTyped f.2) → IsTyped (.record fields)

def AllTyped (fields : List (String × Shape)) : Prop := ∀ f ∈ fields, f.2.IsTyped

theorem isTyped_ofNumber (n : Json.Number) : (ofNumber n).IsTyped := by
  cases n with
  | whole n low high =>
    refine .scalar ?_
    split <;> decide
  | real x finite => exact .scalar (by decide)

theorem allTyped_addField {fields : List (String × Shape)} {key : String} {shape : Shape}
    (h : AllTyped fields) (hs : shape.IsTyped) : AllTyped (addField fields key shape) := by
  fun_induction addField fields key shape with
  | case1 => simpa [AllTyped] using hs
  | case2 s rest =>
    refine List.forall_mem_cons.mpr ⟨?_, fun f hf => h f (by simp [hf])⟩
    simp only
    split
    · exact hs
    · exact h (key, s) (by simp)
  | case3 k s rest hne ih =>
    exact List.forall_mem_cons.mpr ⟨h (k, s) (by simp), ih fun f hf => h f (by simp [hf])⟩

theorem allTyped_merge {objects : List (List (String × Shape))}
    (h : ∀ fields ∈ objects, AllTyped fields) : AllTyped (merge objects) := by
  refine List.foldlRecOn objects _ (motive := AllTyped) (by simp [AllTyped]) ?_
  intro merged hmerged fields hfields
  refine List.foldlRecOn fields _ (motive := AllTyped) hmerged ?_
  intro m hm f hf
  exact allTyped_addField hm (h fields hfields f hf)

theorem allTyped_of_fields {fields : List (String × Shape)} (h : shape.IsTyped)
    (hf : shape.fields? = some fields) : AllTyped fields := by
  cases h with
  | record hall =>
    obtain rfl := Option.some.inj hf
    exact hall
  | unknown => cases hf
  | scalar => cases hf
  | list => cases hf

theorem isTyped_ofItems {items : List Shape} (h : ∀ s ∈ items, s.IsTyped) :
    (ofItems items).IsTyped := by
  unfold ofItems
  split
  · cases hfind : items.find? fun s => !s.isUnknown with
    | none => exact .unknown
    | some s => exact h s (List.mem_of_find?_eq_some hfind)
  · refine .record (allTyped_merge fun fields hfields => ?_)
    obtain ⟨s, hs, hf⟩ := List.mem_filterMap.mp hfields
    exact allTyped_of_fields (h s hs) hf

mutual

theorem isTyped_ofJson : ∀ v : Json, (ofJson v).IsTyped
  | .null => .unknown
  | .bool _ => .scalar (by decide)
  | .num n => isTyped_ofNumber n
  | .str _ => .scalar (by decide)
  | .arr items => .list (isTyped_ofItems (isTyped_ofArray items))
  | .obj fields => .record (allTyped_ofObject fields)

theorem isTyped_ofArray : ∀ items : List Json, ∀ s ∈ ofArray items, s.IsTyped
  | [] => by simp [ofArray]
  | v :: rest => List.forall_mem_cons.mpr ⟨isTyped_ofJson v, isTyped_ofArray rest⟩

theorem allTyped_ofObject : ∀ fields : List (String × Json), AllTyped (ofObject fields)
  | [] => by simp [ofObject, AllTyped]
  | (key, v) :: rest => List.forall_mem_cons.mpr ⟨isTyped_ofJson v, allTyped_ofObject rest⟩

end

end Shape

/-! Classes. -/

/-- Fields that may stand in one class where these classes are declared. -/
structure AreFields (names : List String) (fields : List JavaField) : Prop where
  distinct : (fields.map JavaField.name).Nodup
  isName : ∀ f ∈ fields, IsName f.name.toList
  startsLow : ∀ f ∈ fields, StartsLow f.name.toList
  typed : ∀ f ∈ fields, IsType names f.javaType

/-- Classes that may be declared in one root class. -/
structure AreClasses (root : String) (classes : List JavaClass) : Prop where
  distinct : (classes.map JavaClass.name).Nodup
  free : ∀ c ∈ classes, c.name ∉ root :: reservedNames
  isName : ∀ c ∈ classes, IsName c.name.toList
  fields : ∀ c ∈ classes, AreFields (classes.map JavaClass.name) c.fields

theorem AreFields.mono (h : AreFields names fields) (hs : names ⊆ names') :
    AreFields names' fields :=
  ⟨h.distinct, h.isName, h.startsLow, fun f hf => (h.typed f hf).mono hs⟩

theorem areFields_nil : AreFields names [] := ⟨by simp, by simp, by simp, by simp⟩

/-- A further field gets a name that the fields before it do not have. -/
theorem AreFields.add (h : AreFields names done) (key : String) (ht : IsType names t) :
    AreFields names
      (done ++ [⟨key, Java.fresh (done.map JavaField.name) (Java.identifier key), t⟩]) := by
  have hnew := Java.fresh_not_mem (done.map JavaField.name) (Java.identifier key)
  obtain ⟨ds, -, hds⟩ := Java.fresh_eq (done.map JavaField.name) (Java.identifier key)
  refine ⟨?_, ?_, ?_, ?_⟩
  · rw [List.map_append, List.map_singleton]
    exact List.nodup_append'.mpr ⟨h.distinct, List.nodup_singleton _, by simpa using hnew⟩
  · refine List.forall_mem_append.mpr ⟨h.isName, List.forall_mem_singleton.mpr ?_⟩
    exact Java.isName_fresh (Java.isName_identifier key)
  · refine List.forall_mem_append.mpr ⟨h.startsLow, List.forall_mem_singleton.mpr ?_⟩
    rw [hds]
    exact (Java.startsLow_identifier key).append
  · exact List.forall_mem_append.mpr ⟨h.typed, List.forall_mem_singleton.mpr ht⟩

/-- Classes to which others may have been added. -/
structure Extends (root : String) (classes classes' : List JavaClass) : Prop where
  areClasses : AreClasses root classes'
  before : classes <+: classes'

theorem Extends.subset (h : Extends root classes classes') :
    classes.map JavaClass.name ⊆ classes'.map JavaClass.name :=
  List.map_subset _ h.before.subset

theorem Extends.trans {later : List JavaClass} (h : Extends root classes classes')
    (hl : Extends root classes' later) : Extends root classes later :=
  ⟨hl.areClasses, h.before.trans hl.before⟩

/-- What a class is called where nothing is in its way. -/
def baseName (suggested : String) : String := if suggested = "" then "Nested" else suggested

/-- The name of a class that is added to others. -/
def newName (root suggested : String) (classes : List JavaClass) : String :=
  Java.fresh (root :: reservedNames ++ classes.map JavaClass.name) (baseName suggested)

/-- The keys and types of each class, in one text. -/
def texts (classes : List JavaClass) : List String := classes.map fun c => signature c.fields

/-- Fields whose text a class has are given this class, and all others a new one. -/
theorem register_cases (root suggested : String) (fields : List JavaField)
    (classes : List JavaClass) :
    (∃ c ∈ classes, signature c.fields = signature fields ∧
      register root suggested fields classes = (c.name, classes)) ∨
    (signature fields ∉ texts classes ∧
      register root suggested fields classes = (newName root suggested classes,
        classes ++ [⟨newName root suggested classes, fields⟩])) := by
  unfold register
  split
  · rename_i c hfound
    have hsame : signature c.fields = signature fields := by simpa using List.find?_some hfound
    exact .inl ⟨c, List.mem_of_find?_eq_some hfound, hsame, rfl⟩
  · rename_i hnone
    refine .inr ⟨?_, rfl⟩
    intro hmem
    obtain ⟨c, hc, hsame⟩ := List.mem_map.mp hmem
    have hother := List.find?_eq_none.mp hnone c hc
    simp [hsame] at hother

theorem isName_baseName (h : IsName suggested.toList) : IsName (baseName suggested).toList := by
  unfold baseName
  split
  · decide
  · exact h

theorem register_spec (hc : AreClasses root classes)
    (hf : AreFields (classes.map JavaClass.name) fields) (hn : IsName suggested.toList) :
    Extends root classes (register root suggested fields classes).2 ∧
      (register root suggested fields classes).1 ∈
        (register root suggested fields classes).2.map JavaClass.name := by
  rcases register_cases root suggested fields classes with ⟨c, hmem, -, heq⟩ | ⟨-, heq⟩
  · rw [heq]
    exact ⟨⟨hc, List.prefix_refl _⟩, List.mem_map_of_mem hmem⟩
  · have hnew := Java.fresh_not_mem (root :: reservedNames ++ classes.map JavaClass.name)
      (baseName suggested)
    have hname : IsName (newName root suggested classes).toList :=
      Java.isName_fresh (isName_baseName hn)
    rw [← newName] at hnew
    rw [heq]
    generalize newName root suggested classes = name at hnew hname ⊢
    rw [List.mem_append, not_or] at hnew
    have hsub : classes.map JavaClass.name ⊆
        (classes ++ [(⟨name, fields⟩ : JavaClass)]).map JavaClass.name := by simp
    refine ⟨⟨⟨?_, ?_, ?_, ?_⟩, List.prefix_append _ _⟩, by simp⟩
    · rw [List.map_append, List.map_singleton]
      exact List.nodup_append'.mpr ⟨hc.distinct, List.nodup_singleton _, by simpa using hnew.2⟩
    · exact List.forall_mem_append.mpr ⟨hc.free, List.forall_mem_singleton.mpr hnew.1⟩
    · exact List.forall_mem_append.mpr ⟨hc.isName, List.forall_mem_singleton.mpr hname⟩
    · exact List.forall_mem_append.mpr ⟨fun c hm => (hc.fields c hm).mono hsub,
        List.forall_mem_singleton.mpr (hf.mono hsub)⟩

theorem typeOf_list : typeOf root key suffix classes (.list item) =
    ("List<" ++ (typeOf root key "Item" classes item).1 ++ ">",
      (typeOf root key "Item" classes item).2) := rfl

theorem typeOf_record {fields : List (String × Shape)} :
    typeOf root key suffix classes (.record fields) =
      register root (Java.pascalCase key ++ suffix) (fieldsOf root [] classes fields).1
        (fieldsOf root [] classes fields).2 := rfl

theorem fieldsOf_cons {rest : List (String × Shape)} :
    fieldsOf root done classes ((key, shape) :: rest) =
      fieldsOf root (done ++ [⟨key, Java.fresh (done.map JavaField.name) (Java.identifier key),
        (typeOf root key "" classes shape).1⟩]) (typeOf root key "" classes shape).2 rest := rfl

mutual

/-- The type of a field is known once the classes that it needs have been added. -/
theorem typeOf_spec {classes : List JavaClass} (key suffix : String)
    (hs : IsName suffix.toList) (hc : AreClasses root classes) : ∀ shape : Shape, shape.IsTyped →
      Extends root classes (typeOf root key suffix classes shape).2 ∧
        IsType ((typeOf root key suffix classes shape).2.map JavaClass.name)
          (typeOf root key suffix classes shape).1
  | .unknown, _ =>
    have hmem : "Object" ∈ scalarTypes := by decide
    ⟨⟨hc, List.prefix_refl _⟩, .named (List.mem_append_left _ hmem)⟩
  | .scalar t, h => by
    cases h with
    | scalar ht => exact ⟨⟨hc, List.prefix_refl _⟩, .named (List.mem_append_left _ ht)⟩
  | .list item, h => by
    cases h with
    | list hitem =>
      obtain ⟨hext, htype⟩ := typeOf_spec key "Item" (by decide) hc item hitem
      rw [typeOf_list]
      exact ⟨hext, .list htype⟩
  | .record fields, h => by
    cases h with
    | record hall =>
      obtain ⟨hext, hfields⟩ := fieldsOf_spec hc areFields_nil fields hall
      have hname : IsName (Java.pascalCase key ++ suffix).toList := by
        rw [String.toList_append]
        exact (Java.isName_pascalCase key).append hs
      obtain ⟨hreg, hmem⟩ := register_spec hext.areClasses hfields hname
      rw [typeOf_record]
      exact ⟨hext.trans hreg, .named (List.mem_append_right _ hmem)⟩

/-- Fields are added one after the other, each with its classes before it. -/
theorem fieldsOf_spec {classes : List JavaClass} {done : List JavaField}
    (hc : AreClasses root classes) (hd : AreFields (classes.map JavaClass.name) done) :
    ∀ fields : List (String × Shape), Shape.AllTyped fields →
      Extends root classes (fieldsOf root done classes fields).2 ∧
        AreFields ((fieldsOf root done classes fields).2.map JavaClass.name)
          (fieldsOf root done classes fields).1
  | [], _ => ⟨⟨hc, List.prefix_refl _⟩, hd⟩
  | (key, shape) :: rest, h => by
    have hshape : shape.IsTyped := h (key, shape) (by simp)
    obtain ⟨hext, htype⟩ := typeOf_spec key "" (by decide) hc shape hshape
    have hnext := (hd.mono hext.subset).add key htype
    obtain ⟨hrest, hfields⟩ := fieldsOf_spec hext.areClasses hnext rest
      fun f hf => h f (by simp [hf])
    rw [fieldsOf_cons]
    exact ⟨hext.trans hrest, hfields⟩

end

/-! Accessors. -/

theorem getter_ne_setter (f g : JavaField) : getter f ≠ setter g := by
  intro h
  have hlist := congrArg String.toList h
  simp [getter, setter] at hlist

theorem name_of_capitalize {f g : JavaField} {start : String} (hf : StartsLow f.name.toList)
    (hg : StartsLow g.name.toList)
    (h : start ++ String.ofList (Java.capitalize f.name.toList) =
      start ++ String.ofList (Java.capitalize g.name.toList)) : f.name = g.name := by
  have hlist := congrArg String.toList h
  simp only [String.toList_append, String.toList_ofList, List.append_cancel_left_eq] at hlist
  exact String.toList_inj.mp (Java.capitalize_inj hf hg hlist)

/-- Fields with names of their own have accessors of their own. -/
theorem AreFields.accessors (h : AreFields names fields) :
    (fields.flatMap fun f => [getter f, setter f]).Nodup := by
  refine List.nodup_flatMap.mpr ⟨fun f _ => ?_, ?_⟩
  · simpa using getter_ne_setter f f
  · have hpairs : fields.Pairwise fun f g => f.name ≠ g.name := List.pairwise_map.mp h.distinct
    refine hpairs.imp_of_mem fun {f g} hf hg hne => ?_
    have hget : getter f ≠ getter g := fun he =>
      hne (name_of_capitalize (h.startsLow f hf) (h.startsLow g hg) he)
    have hset : setter f ≠ setter g := fun he =>
      hne (name_of_capitalize (h.startsLow f hf) (h.startsLow g hg) he)
    simp [Function.onFun, hget.symm, hset.symm, getter_ne_setter, (getter_ne_setter f g).symm]

/-! The classes of a body. -/

theorem areClasses_nil (root : String) : AreClasses root [] :=
  ⟨by simp, by simp, by simp, by simp⟩

/-- The fields of the outermost object of a body. -/
def rootObject? (body : Json) : Option (List (String × Shape)) :=
  match Shape.ofJson body with
  | .record object => some object
  | .list (.record object) => some object
  | _ => none

theorem allTyped_rootObject {body : Json} {object : List (String × Shape)}
    (h : rootObject? body = some object) : Shape.AllTyped object := by
  have htyped := Shape.isTyped_ofJson body
  unfold rootObject? at h
  split at h
  · rename_i fields hrecord
    obtain rfl := Option.some.inj h
    rw [hrecord] at htyped
    exact Shape.allTyped_of_fields htyped rfl
  · rename_i fields hlist
    obtain rfl := Option.some.inj h
    rw [hlist] at htyped
    cases htyped with
    | list hitem => exact Shape.allTyped_of_fields hitem rfl
  · simp at h

theorem classesOf_eq_some_iff {body : Json} {nested : List JavaClass} :
    classesOf? root body = some (c, nested) ↔ ∃ object, rootObject? body = some object ∧
      c = ⟨root, (fieldsOf root [] [] object).1⟩ ∧ nested = (fieldsOf root [] [] object).2 := by
  have heq : classesOf? root body = (rootObject? body).map fun object =>
      (⟨root, (fieldsOf root [] [] object).1⟩, (fieldsOf root [] [] object).2) := rfl
  rw [heq, Option.map_eq_some_iff]
  simp only [Prod.mk.injEq, eq_comm]

theorem exists_source (root : String) (annotations : List String) {body : Json}
    (h : (rootObject? body).isSome = true) : ∃ code, source? root annotations body = some code := by
  obtain ⟨object, hobject⟩ := Option.isSome_iff_exists.mp h
  have hclasses : classesOf? root body = some (⟨root, (fieldsOf root [] [] object).1⟩,
      (fieldsOf root [] [] object).2) := classesOf_eq_some_iff.mpr ⟨object, hobject, rfl, rfl⟩
  rw [source?, hclasses]
  exact ⟨_, rfl⟩

theorem classesOf_spec {body : Json} {nested : List JavaClass}
    (h : classesOf? root body = some (c, nested)) :
    c.name = root ∧ AreClasses root nested ∧ AreFields (nested.map JavaClass.name) c.fields := by
  obtain ⟨object, hobject, rfl, rfl⟩ := classesOf_eq_some_iff.mp h
  obtain ⟨hext, hfields⟩ := fieldsOf_spec (areClasses_nil root) areFields_nil object
    (allTyped_rootObject hobject)
  exact ⟨rfl, hext.areClasses, hfields⟩

/-- A class and its nested classes in which every name stands for one thing, and every type for one
that is there. -/
structure IsUnambiguous (c : JavaClass) (nested : List JavaClass) : Prop where
  classes : ((c :: nested).map JavaClass.name).Nodup
  unreserved : ∀ k ∈ nested, k.name ∉ reservedNames
  fields : ∀ k ∈ c :: nested, (k.fields.map JavaField.name).Nodup
  accessors : ∀ k ∈ c :: nested, (k.fields.flatMap fun f => [getter f, setter f]).Nodup
  types : ∀ k ∈ c :: nested, ∀ f ∈ k.fields, IsType (nested.map JavaClass.name) f.javaType

/-- All source is that of a class with its nested classes, and these are unambiguous. -/
theorem source_is_unambiguous {annotations : List String} {body : Json} {code : String}
    (h : source? root annotations body = some code) :
    ∃ c nested, classesOf? root body = some (c, nested) ∧ code = sourceOf annotations c nested ∧
      c.name = root ∧ IsUnambiguous c nested := by
  obtain ⟨⟨c, nested⟩, hclasses, rfl⟩ := Option.map_eq_some_iff.mp h
  obtain ⟨hroot, hnested, hfields⟩ := classesOf_spec hclasses
  have hall : ∀ k ∈ c :: nested, AreFields (nested.map JavaClass.name) k.fields :=
    List.forall_mem_cons.mpr ⟨hfields, hnested.fields⟩
  have hapart : root ∉ nested.map JavaClass.name := by
    intro hmem
    obtain ⟨k, hk, hname⟩ := List.mem_map.mp hmem
    exact hnested.free k hk (hname ▸ List.mem_cons_self)
  refine ⟨c, nested, hclasses, rfl, hroot, ?_⟩
  exact
    { classes := by
        rw [List.map_cons, hroot]
        exact List.nodup_cons.mpr ⟨hapart, hnested.distinct⟩
      unreserved := fun k hk hmem => hnested.free k hk (List.mem_cons_of_mem root hmem)
      fields := fun k hk => (hall k hk).distinct
      accessors := fun k hk => (hall k hk).accessors
      types := fun k hk => (hall k hk).typed }

/-- Keys that are spelled alike as names, one that is the name of the root, and ones that are names
of types. -/
def lookalikes : Json := .obj [
  ("a b", .obj [("x", .null)]),
  ("aB", .arr [.obj [("y", .bool true)], .null, .obj [("y", .null), ("class", .str "")]]),
  ("a-b", .arr [.arr [.obj [("Root", .obj [])]]]),
  ("list", .obj [("string", .obj [("1", .obj [("y", .str "")])])])]

theorem lookalikes_are_told_apart : ∃ code c nested,
    source? "Root" ["@Data"] lookalikes = some code ∧ code = sourceOf ["@Data"] c nested ∧
    c.name = "Root" ∧ IsUnambiguous c nested := by
  have hsome : (source? "Root" ["@Data"] lookalikes).isSome = true := by
    rw [source?, Option.isSome_map, classesOf?, Option.isSome_map]
    rfl
  obtain ⟨code, hcode⟩ := Option.isSome_iff_exists.mp hsome
  obtain ⟨c, nested, -, hsource, hroot, hclear⟩ := source_is_unambiguous hcode
  exact ⟨code, c, nested, hcode, hsource, hroot, hclear⟩

end CurlScribe.Pojo
