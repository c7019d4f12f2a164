import CurlScribe.Proofs.Pojo.Classes

/-! The objects inside a body, in the order in which they are given their classes. What one object
does to the classes is `register`; the classes of a body come from its objects one after the
other. -/
namespace CurlScribe.Pojo

/-- An object inside a body: what its class is to be called, the fields that it has in Java, and the
class that it is given. -/
structure Placement where
  object : List (String × Shape)
  suggested : String
  fields : List JavaField
  given : String

variable {root : String} {body : Json} {c : JavaClass} {p : Placement} {ps qs : List Placement}
  {classes classes' later nested : List JavaClass}

/-! Objects. -/

mutual

/-- The objects inside a shape, each behind those that are inside it. Items of an array that are
objects have been made one object. -/
def Shape.objects : Shape → List (List (String × Shape))
  | .unknown => []
  | .scalar _ => []
  | .list item => item.objects
  | .record object => Shape.objectsAmong object ++ [object]

def Shape.objectsAmong : List (String × Shape) → List (List (String × Shape))
  | [] => []
  | (_, shape) :: rest => shape.objects ++ Shape.objectsAmong rest

end

/-- The objects inside a body, the outermost one aside. -/
def nestedObjects (body : Json) : List (List (String × Shape)) :=
  match rootObject? body with
  | some object => Shape.objectsAmong object
  | none => []

mutual

/-- The objects inside a shape, with their fields and classes. -/
def placedIn (root key suffix : String) (classes : List JavaClass) : Shape → List Placement
  | .unknown => []
  | .scalar _ => []
  | .list item => placedIn root key "Item" classes item
  | .record object =>
    placedAmong root classes object ++
      [⟨object, Java.pascalCase key ++ suffix, (fieldsOf root [] classes object).1,
        (typeOf root key suffix classes (.record object)).1⟩]

def placedAmong (root : String) (classes : List JavaClass) :
    List (String × Shape) → List Placement
  | [] => []
  | (key, shape) :: rest =>
    placedIn root key "" classes shape ++
      placedAmong root (typeOf root key "" classes shape).2 rest

end

/-- The objects inside a body, with their fields and classes. -/
def placements (root : String) (body : Json) : List Placement :=
  match rootObject? body with
  | some object => placedAmong root [] object
  | none => []

mutual

theorem map_object_placedIn (root key suffix : String) (classes : List JavaClass) :
    ∀ shape : Shape, (placedIn root key suffix classes shape).map Placement.object = shape.objects
  | .unknown => rfl
  | .scalar _ => rfl
  | .list item => map_object_placedIn root key "Item" classes item
  | .record object => by
    rw [placedIn, List.map_append, map_object_placedAmong root classes object]
    rfl

theorem map_object_placedAmong (root : String) (classes : List JavaClass) :
    ∀ object : List (String × Shape),
      (placedAmong root classes object).map Placement.object = Shape.objectsAmong object
  | [] => rfl
  | (key, shape) :: rest => by
    rw [placedAmong, List.map_append, map_object_placedIn root key "" classes shape,
      map_object_placedAmong root _ rest]
    rfl

end

/-- Every object inside a body has its place. -/
theorem map_object_placements (root : String) (body : Json) :
    (placements root body).map Placement.object = nestedObjects body := by
  unfold placements nestedObjects
  split
  · exact map_object_placedAmong root [] _
  · rfl

theorem keys_fieldsOf (root : String) (done : List JavaField) (classes : List JavaClass)
    (object : List (String × Shape)) : (fieldsOf root done classes object).1.map JavaField.key =
      done.map JavaField.key ++ object.map Prod.fst := by
  induction object generalizing done classes with
  | nil =>
    rw [List.map_nil, List.append_nil]
    rfl
  | cons entry rest ih =>
    obtain ⟨key, shape⟩ := entry
    rw [fieldsOf_cons, ih]
    simp

/-! One object after the other. -/

/-- What an object is given, by the classes that are there once those inside it have theirs. -/
structure IsPlaced (root : String) (classes : List JavaClass) (p : Placement) : Prop where
  areClasses : AreClasses root classes
  areFields : AreFields (classes.map JavaClass.name) p.fields
  keys : p.fields.map JavaField.key = p.object.map Prod.fst
  given : p.given = (register root p.suggested p.fields classes).1

/-- The classes after an object has been given one of them. -/
def Placement.add (root : String) (classes : List JavaClass) (p : Placement) : List JavaClass :=
  (register root p.suggested p.fields classes).2

/-- An object leaves the classes as they are if one of them has its text, and else adds its own. -/
theorem add_cases (root : String) (p : Placement) (classes : List JavaClass) :
    (signature p.fields ∈ texts classes ∧ p.add root classes = classes) ∨
      (signature p.fields ∉ texts classes ∧
        p.add root classes = classes ++ [⟨newName root p.suggested classes, p.fields⟩]) := by
  unfold Placement.add
  rcases register_cases root p.suggested p.fields classes with ⟨c, hc, hsame, heq⟩ | ⟨hnew, heq⟩
  · have hold : signature p.fields ∈ texts classes := List.mem_map.mpr ⟨c, hc, hsame⟩
    exact .inl ⟨hold, by rw [heq]⟩
  · exact .inr ⟨hnew, by rw [heq]⟩

/-- Objects that are placed one after the other lead from some classes to others. -/
inductive Places (root : String) : List JavaClass → List Placement → List JavaClass → Prop
  | nil (classes : List JavaClass) : Places root classes [] classes
  | cons {classes later : List JavaClass} {p : Placement} {ps : List Placement} :
      IsPlaced root classes p → Places root (p.add root classes) ps later →
        Places root classes (p :: ps) later

theorem Places.append (h : Places root classes ps classes') (hq : Places root classes' qs later) :
    Places root classes (ps ++ qs) later := by
  induction h with
  | nil => exact hq
  | cons hp _ ih => exact .cons hp (ih hq)

mutual

theorem places_placedIn {classes : List JavaClass} (key suffix : String)
    (hc : AreClasses root classes) : ∀ shape : Shape, shape.IsTyped →
      Places root classes (placedIn root key suffix classes shape)
        (typeOf root key suffix classes shape).2
  | .unknown, _ => .nil classes
  | .scalar _, _ => .nil classes
  | .list item, h => by
    cases h with
    | list hitem => exact places_placedIn key "Item" hc item hitem
  | .record object, h => by
    cases h with
    | record hall =>
      have hinner := places_placedAmong [] hc object hall
      obtain ⟨hext, hfields⟩ := fieldsOf_spec hc areFields_nil object hall
      refine hinner.append (.cons ⟨hext.areClasses, hfields, ?_, rfl⟩ (.nil _))
      exact keys_fieldsOf root [] classes object

theorem places_placedAmong {classes : List JavaClass} (done : List JavaField)
    (hc : AreClasses root classes) : ∀ object : List (String × Shape), Shape.AllTyped object →
      Places root classes (placedAmong root classes object) (fieldsOf root done classes object).2
  | [], _ => .nil classes
  | (key, shape) :: rest, h => by
    have hshape : shape.IsTyped := h (key, shape) (by simp)
    have hfirst := places_placedIn key "" hc shape hshape
    obtain ⟨hext, -⟩ := typeOf_spec key "" (by decide) hc shape hshape
    rw [placedAmong, fieldsOf_cons]
    exact hfirst.append (places_placedAmong _ hext.areClasses rest fun f hf => h f (by simp [hf]))

end

/-- The nested classes of a body come from its objects one after the other. -/
theorem places_placements (h : classesOf? root body = some (c, nested)) :
    Places root [] (placements root body) nested := by
  obtain ⟨object, hobject, -, rfl⟩ := classesOf_eq_some_iff.mp h
  rw [placements, hobject]
  exact places_placedAmong [] (areClasses_nil root) object (allTyped_rootObject hobject)

/-! What every object finds, and what it leaves. -/

theorem Places.isPlaced (h : Places root classes ps later) :
    ∀ p ∈ ps, ∃ classes, IsPlaced root classes p := by
  induction h with
  | nil => simp
  | cons hp _ ih => exact List.forall_mem_cons.mpr ⟨⟨_, hp⟩, ih⟩

theorem prefix_add (p : Placement) (classes : List JavaClass) : classes <+: p.add root classes := by
  rcases add_cases root p classes with ⟨-, heq⟩ | ⟨-, heq⟩
  · refine ⟨[], ?_⟩
    rw [heq, List.append_nil]
  · rw [heq]
    exact List.prefix_append _ _

theorem Places.before (h : Places root classes ps later) : classes <+: later := by
  induction h with
  | nil => exact List.prefix_refl _
  | cons _ _ ih => exact (prefix_add _ _).trans ih

/-- A class that stands for an object has its keys and types, in one text. -/
def StandsFor (c : JavaClass) (p : Placement) : Prop :=
  c.name = p.given ∧ signature c.fields = signature p.fields

theorem exists_standsFor_add (h : IsPlaced root classes p) :
    ∃ c ∈ p.add root classes, StandsFor c p := by
  unfold Placement.add StandsFor
  rw [h.given]
  rcases register_cases root p.suggested p.fields classes with ⟨c, hc, hsame, heq⟩ | ⟨-, heq⟩
  · rw [heq]
    exact ⟨c, hc, rfl, hsame⟩
  · rw [heq]
    exact ⟨_, List.mem_append_right _ List.mem_cons_self, rfl, rfl⟩

theorem Places.exists_standsFor (h : Places root classes ps later) :
    ∀ p ∈ ps, ∃ c ∈ later, StandsFor c p := by
  induction h with
  | nil => simp
  | cons hp hrest ih =>
    refine List.forall_mem_cons.mpr ⟨?_, ih⟩
    obtain ⟨c, hc, hstands⟩ := exists_standsFor_add hp
    exact ⟨c, hrest.before.subset hc, hstands⟩

theorem texts_add (p : Placement) (classes : List JavaClass) : texts (p.add root classes) =
    if signature p.fields ∈ texts classes then texts classes
    else texts classes ++ [signature p.fields] := by
  rcases add_cases root p classes with ⟨hold, heq⟩ | ⟨hnew, heq⟩
  · rw [heq, if_pos hold]
  · rw [heq, if_neg hnew, texts, List.map_append]
    rfl

theorem nodup_texts_add (h : (texts classes).Nodup) (p : Placement) :
    (texts (p.add root classes)).Nodup := by
  rw [texts_add]
  split
  · exact h
  · rename_i hnew
    exact List.nodup_append'.mpr ⟨h, List.nodup_singleton _, by simpa using hnew⟩

theorem Places.nodup_texts (h : Places root classes ps later) (ht : (texts classes).Nodup) :
    (texts later).Nodup := by
  induction h with
  | nil => exact ht
  | cons _ _ ih => exact ih (nodup_texts_add ht _)

end CurlScribe.Pojo
