import CurlScribe.Named
import CurlScribe.Proofs.Pojo.Keys

/-! The field that stands for a value of a body without arrays, and which whole numbers its type has
room for. -/
namespace CurlScribe.Pojo

open Json (Node Step nodesAt fieldNodes)

variable {root key suffix t code : String} {annotations : List String} {body : Json} {f : JavaField}
  {fields : List JavaField} {c k : JavaClass} {classes nested : List JavaClass}
  {ps : List Placement}

/-! The types of a body. -/

mutual

/-- A type for a shape, where these classes are there. -/
inductive HasType (nested : List JavaClass) : Shape → String → Prop
  | unknown : HasType nested .unknown "Object"
  | scalar (t : String) : HasType nested (.scalar t) t
  | list {item : Shape} {t : String} :
      HasType nested item t → HasType nested (.list item) ("List<" ++ t ++ ">")
  | record {object : List (String × Shape)} {k : JavaClass} :
      k ∈ nested → HaveTypes nested object (typing k.fields) →
        HasType nested (.record object) k.name

/-- The keys of an object with a type each. -/
inductive HaveTypes (nested : List JavaClass) :
    List (String × Shape) → List (String × String) → Prop
  | nil : HaveTypes nested [] []
  | cons {key : String} {s : Shape} {t : String} {object : List (String × Shape)}
      {types : List (String × String)} :
      HasType nested s t → HaveTypes nested object types →
        HaveTypes nested ((key, s) :: object) ((key, t) :: types)

end

/-- Each of these objects has a class with its keys and types. -/
def HaveClasses (nested : List JavaClass) (ps : List Placement) : Prop :=
  ∀ p ∈ ps, ∃ k ∈ nested, k.name = p.given ∧ typing k.fields = typing p.fields

theorem HaveClasses.of_append {qs : List Placement} (h : HaveClasses nested (ps ++ qs)) :
    HaveClasses nested ps ∧ HaveClasses nested qs :=
  List.forall_mem_append.mp h

/-! What is given to a shape is a type for it, once the objects inside it have their classes. -/

mutual

theorem hasType_typeOf (root key suffix : String) (classes : List JavaClass) :
    ∀ shape : Shape, HaveClasses nested (placedIn root key suffix classes shape) →
      HasType nested shape (typeOf root key suffix classes shape).1
  | .unknown, _ => .unknown
  | .scalar t, _ => .scalar t
  | .list item, h => .list (hasType_typeOf root key "Item" classes item h)
  | .record object, h => by
    obtain ⟨hinner, hlast⟩ := h.of_append
    obtain ⟨k, hk, hname, htyping⟩ := hlast _ List.mem_cons_self
    obtain ⟨types, htypes, hall⟩ := haveTypes_fieldsOf root [] classes object hinner
    have hsame : typing k.fields = types := htyping.trans htypes
    have hgiven : k.name = (typeOf root key suffix classes (.record object)).1 := hname
    rw [← hgiven]
    exact .record hk (hsame ▸ hall)

theorem haveTypes_fieldsOf (root : String) (done : List JavaField) (classes : List JavaClass) :
    ∀ object : List (String × Shape), HaveClasses nested (placedAmong root classes object) →
      ∃ types, typing (fieldsOf root done classes object).1 = typing done ++ types ∧
        HaveTypes nested object types
  | [], _ => ⟨[], (List.append_nil _).symm, .nil⟩
  | (key, shape) :: rest, h => by
    obtain ⟨hfirst, hrest⟩ := h.of_append
    have htype := hasType_typeOf root key "" classes shape hfirst
    obtain ⟨types, htypes, hall⟩ := haveTypes_fieldsOf root _ _ rest hrest
    refine ⟨(key, (typeOf root key "" classes shape).1) :: types, ?_, .cons htype hall⟩
    rw [fieldsOf_cons, htypes]
    simp [typing]

end

/-- Where signatures tell keys and types, the classes have the types of the body. -/
theorem haveTypes_classesOf (h : classesOf? root body = some (c, nested))
    (hs : SignaturesTell root body) :
    ∃ object, rootObject? body = some object ∧ HaveTypes nested object (typing c.fields) := by
  have hclasses : HaveClasses nested (placements root body) := fun p hp => exists_typing h hs hp
  obtain ⟨object, hobject, rfl, rfl⟩ := classesOf_eq_some_iff.mp h
  rw [placements, hobject] at hclasses
  obtain ⟨types, htypes, hall⟩ := haveTypes_fieldsOf root [] [] object hclasses
  refine ⟨object, hobject, ?_⟩
  rw [htypes]
  exact hall

theorem HaveTypes.exists_field {object : List (String × Shape)} {s : Shape}
    (h : HaveTypes nested object (typing fields)) (hn : (object.map Prod.fst).Nodup)
    (hs : (key, s) ∈ object) :
    ∃ f, fields.find? (fun f => f.key == key) = some f ∧ HasType nested s f.javaType := by
  induction fields generalizing object with
  | nil =>
    cases h
    simp at hs
  | cons f fields ih =>
    cases h with
    | cons htype hall =>
      obtain ⟨hnew, hn⟩ := List.nodup_cons.mp hn
      rcases List.mem_cons.mp hs with heq | hs
      · obtain ⟨rfl, rfl⟩ := Prod.mk.inj heq
        exact ⟨f, List.find?_cons_of_pos (by simp), htype⟩
      · have hother : f.key ≠ key := by
          intro hsame
          exact hnew (List.mem_map.mpr ⟨_, hs, hsame.symm⟩)
        rw [List.find?_cons_of_neg (by simpa using hother)]
        exact ih hall hn hs

/-! The field of a value. -/

/-- Keys lead to a field: the first one to a field of the class, and each further one to a field of
the class that the type of the field before it names. -/
def fieldAt? (nested : List JavaClass) : JavaClass → List String → Option JavaField
  | _, [] => none
  | c, [key] => c.fields.find? fun f => f.key == key
  | c, key :: next :: keys =>
    (c.fields.find? fun f => f.key == key).bind fun f =>
      (nested.find? fun k => k.name == f.javaType).bind fun k => fieldAt? nested k (next :: keys)

/-- Neither an array nor an object that has a key twice. -/
def IsPlain : Json → Prop
  | .arr _ => False
  | .obj object => (object.map Prod.fst).Nodup
  | _ => True

instance : DecidablePred IsPlain
  | .arr _ => inferInstanceAs (Decidable False)
  | .obj object => inferInstanceAs (Decidable (object.map Prod.fst).Nodup)
  | .null | .bool _ | .num _ | .str _ => inferInstanceAs (Decidable True)

/-- The field of a part is found from the class of the object at `steps`. -/
def IsFound (nested : List JavaClass) (c : JavaClass) (steps : List Step) (n : Node) : Prop :=
  ∃ key keys f, n.steps = steps ++ (key :: keys).map Step.field ∧
    fieldAt? nested c (key :: keys) = some f ∧ HasType nested (Shape.ofJson n.value) f.javaType

/-- All parts of a value are found once its own field is. -/
def AreFound (nested : List JavaClass) (v : Json) : Prop :=
  ∀ (c : JavaClass) (f : JavaField) (steps : List Step) (key : String),
    (∀ n ∈ nodesAt (steps ++ [.field key]) v, IsPlain n.value) →
    c.fields.find? (fun f => f.key == key) = some f → HasType nested (Shape.ofJson v) f.javaType →
      ∀ n ∈ nodesAt (steps ++ [.field key]) v, IsFound nested c steps n

theorem areFound_of_isLeaf {v : Json} (h : v.isLeaf = true) : AreFound nested v := by
  intro c f steps key _ hfield htype n hn
  rw [Json.nodesAt_of_isLeaf h] at hn
  obtain rfl := List.mem_singleton.mp hn
  exact ⟨key, [], f, rfl, hfield, htype⟩

/-- The parts of an object are found from its class. -/
theorem isFound_fields {object : List (String × Json)} {steps : List Step}
    (h : ∀ e ∈ object, AreFound nested e.2) (hp : ∀ n ∈ fieldNodes steps object, IsPlain n.value)
    (hn : (object.map Prod.fst).Nodup)
    (ht : HaveTypes nested (Shape.ofObject object) (typing c.fields)) :
    ∀ n ∈ fieldNodes steps object, IsFound nested c steps n := by
  intro n hmem
  obtain ⟨e, he, hinner⟩ := Json.exists_of_mem_fieldNodes hmem
  have hshape : (e.1, Shape.ofJson e.2) ∈ Shape.ofObject object := by
    rw [Shape.ofObject_eq]
    exact List.mem_map_of_mem he
  obtain ⟨f, hfield, htype⟩ := ht.exists_field (by rwa [Shape.keys_ofObject]) hshape
  have hplain : ∀ n ∈ nodesAt (steps ++ [.field e.1]) e.2, IsPlain n.value :=
    fun n hn => hp n (Json.mem_fieldNodes he hn)
  exact h e he c f steps e.1 hplain hfield htype n hinner

theorem areFound_obj {object : List (String × Json)} (hnames : (nested.map JavaClass.name).Nodup)
    (h : ∀ e ∈ object, AreFound nested e.2) : AreFound nested (.obj object) := by
  intro c f steps key hp hfield htype n hn
  rcases List.mem_cons.mp hn with rfl | hn
  · exact ⟨key, [], f, rfl, hfield, htype⟩
  · have hself : (object.map Prod.fst).Nodup :=
      hp ⟨steps ++ [.field key], .obj object⟩ List.mem_cons_self
    have hinner : ∀ n ∈ fieldNodes (steps ++ [.field key]) object, IsPlain n.value :=
      fun n hn => hp n (List.mem_cons_of_mem _ hn)
    generalize hname : f.javaType = t at htype
    cases htype with
    | @record _ k hk hall =>
      obtain ⟨next, keys, g, hsteps, hg, hgtype⟩ := isFound_fields h hinner hself hall n hn
      -- no other class has the name that the field has for its type
      have hclass : nested.find? (fun k => k.name == f.javaType) = some k := by
        rw [hname]
        exact Named.find_of_nodup hnames hk
      refine ⟨key, next :: keys, g, ?_, ?_, hgtype⟩
      · rw [hsteps, List.append_assoc]
        rfl
      · rw [fieldAt?, hfield, Option.bind_some, hclass, Option.bind_some, hg]

mutual

theorem areFound (hnames : (nested.map JavaClass.name).Nodup) : ∀ v : Json, AreFound nested v
  | .null | .bool _ | .num _ | .str _ => areFound_of_isLeaf rfl
  | .arr items => by
    intro c f steps key hp
    exact (hp ⟨steps ++ [.field key], .arr items⟩ List.mem_cons_self).elim
  | .obj object => areFound_obj hnames (areFound_fields hnames object)

theorem areFound_fields (hnames : (nested.map JavaClass.name).Nodup) :
    ∀ object : List (String × Json), ∀ e ∈ object, AreFound nested e.2
  | [] => by simp
  | (_, v) :: rest => List.forall_mem_cons.mpr ⟨areFound hnames v, areFound_fields hnames rest⟩

end

/-- Where signatures tell keys and types, all that stands inside a body without arrays has a
field. -/
theorem isFound_of_mem_nodes (h : classesOf? root body = some (c, nested))
    (hs : SignaturesTell root body) (hp : ∀ n ∈ body.nodes, IsPlain n.value) :
    ∀ n ∈ body.nodes, n = ⟨[], body⟩ ∨ IsFound nested c [] n := by
  obtain ⟨object, hobject, hall⟩ := haveTypes_classesOf h hs
  obtain ⟨-, hnested, -⟩ := classesOf_spec h
  cases body with
  | arr items => exact (hp ⟨[], .arr items⟩ List.mem_cons_self).elim
  | obj fields =>
    obtain rfl : Shape.ofObject fields = object := Option.some.inj hobject
    have hself : (fields.map Prod.fst).Nodup := hp ⟨[], .obj fields⟩ List.mem_cons_self
    have hinner : ∀ n ∈ fieldNodes [] fields, IsPlain n.value :=
      fun n hn => hp n (List.mem_cons_of_mem _ hn)
    have hfound := isFound_fields (areFound_fields hnested.distinct fields) hinner hself hall
    intro n hn
    rcases List.mem_cons.mp hn with rfl | hn
    · exact .inl rfl
    · exact .inr (hfound n hn)
  | num n => cases n <;> cases hobject
  | null | bool _ | str _ => cases hobject

/-! Whole numbers. -/

/-- What an `int` has room for. -/
def Fits32 (i : Int) : Prop := -0x80000000 ≤ i ∧ i < 0x80000000

/-- What a `long` has room for. -/
def Fits64 (i : Int) : Prop := -0x8000000000000000 ≤ i ∧ i < 0x8000000000000000

instance (i : Int) : Decidable (Fits32 i) := inferInstanceAs (Decidable (_ ∧ _))

instance (i : Int) : Decidable (Fits64 i) := inferInstanceAs (Decidable (_ ∧ _))

theorem hasType_whole {i : Int} {low : -0x8000000000000000 ≤ i} {high : i < 0x10000000000000000}
    (h : HasType nested (Shape.ofJson (.num (.whole i low high))) t) :
    t = if Fits32 i then "Integer" else "Long" := by
  cases h
  rfl

/-- The type of a whole number has room for it exactly where it is less than `2 ^ 63`. -/
theorem fits_iff {i : Int} (low : -0x8000000000000000 ≤ i)
    (ht : t = if Fits32 i then "Integer" else "Long") :
    (t = "Integer" → Fits32 i) ∧ (t = "Long" → Fits64 i) ↔ i < 0x8000000000000000 := by
  by_cases hfits : Fits32 i
  · rw [if_pos hfits] at ht
    have hlt : i < 0x8000000000000000 := by
      have := hfits.2
      omega
    simp [ht, hfits, hlt]
  · rw [if_neg hfits] at ht
    simp [ht, Fits64, low]

/-- In a body without arrays in which signatures tell keys and types, each whole number has a field:
an `Integer` where it fits 32 bits, and else a `Long`. This type has room for the number exactly
where it is less than `2 ^ 63`. -/
theorem whole_number_fits_iff (h : source? root annotations body = some code)
    (hp : ∀ n ∈ body.nodes, IsPlain n.value) (hs : SignaturesTell root body) :
    ∃ c nested, classesOf? root body = some (c, nested) ∧ code = sourceOf annotations c nested ∧
      ∀ n ∈ body.nodes, ∀ i low high, n.value = .num (.whole i low high) →
        ∃ f, fieldAt? nested c n.segments = some f ∧
          f.javaType = (if Fits32 i then "Integer" else "Long") ∧
          ((f.javaType = "Integer" → Fits32 i) ∧ (f.javaType = "Long" → Fits64 i) ↔
            i < 0x8000000000000000) := by
  obtain ⟨⟨c, nested⟩, hclasses, rfl⟩ := Option.map_eq_some_iff.mp h
  refine ⟨c, nested, hclasses, rfl, ?_⟩
  intro n hn i low high hvalue
  rcases isFound_of_mem_nodes hclasses hs hp n hn with rfl | hfound
  · obtain ⟨object, hobject, -⟩ := classesOf_eq_some_iff.mp hclasses
    change body = _ at hvalue
    rw [hvalue] at hobject
    cases hobject
  · obtain ⟨key, keys, f, hsteps, hfield, htype⟩ := hfound
    rw [hvalue] at htype
    have hsegments : n.segments = key :: keys := by
      rw [Node.segments, hsteps, List.nil_append, List.map_map]
      exact List.map_id _
    have ht := hasType_whole htype
    exact ⟨f, hsegments ▸ hfield, ht, fits_iff low ht⟩

/-- A whole number as a value. -/
def whole (i : Int) (low : -0x8000000000000000 ≤ i) (high : i < 0x10000000000000000) : Json :=
  .num (.whole i low high)

/-- A body with two objects of one shape, and numbers at the ends of what their types hold. -/
def route : Json := .obj [
  ("id", whole 2147483648 (by decide) (by decide)),
  ("from", .obj [("no", whole (-2147483648) (by decide) (by decide)),
    ("at", whole 5000000000 (by decide) (by decide))]),
  ("to", .obj [("no", whole 2147483647 (by decide) (by decide)),
    ("at", whole 9223372036854775807 (by decide) (by decide))])]

theorem route_number_fits : ∃ code c nested,
    source? "Route" ["@Data"] route = some code ∧ code = sourceOf ["@Data"] c nested ∧
    (∀ n ∈ route.nodes, IsPlain n.value) ∧ SignaturesTell "Route" route ∧
    ∃ f, fieldAt? nested c ["to", "at"] = some f ∧ f.javaType = "Long" ∧
      Fits64 9223372036854775807 := by
  have hplain : ∀ n ∈ route.nodes, IsPlain n.value := by decide +kernel
  have htell : SignaturesTell "Route" route := by decide +kernel
  have hroot : (rootObject? route).isSome = true := rfl
  obtain ⟨code, hcode⟩ := exists_source "Route" ["@Data"] hroot
  obtain ⟨c, nested, -, hsource, hall⟩ := whole_number_fits_iff hcode hplain htell
  have hmem : (⟨[.field "to", .field "at"], whole 9223372036854775807 (by decide) (by decide)⟩ :
      Node) ∈ route.nodes := by
    simp [route, Json.nodes, nodesAt, fieldNodes, whole]
  obtain ⟨f, hfield, htype, hiff⟩ := hall _ hmem _ _ _ rfl
  have hlong : f.javaType = "Long" := htype
  exact ⟨code, c, nested, hcode, hsource, hplain, htell, f, hfield, hlong,
    (hiff.mpr (by decide)).2 hlong⟩

/-- A body with the least number that has 64 bits only without a sign. -/
def unsigned : Json := .obj [("id", whole 9223372036854775808 (by decide) (by decide))]

theorem unsigned_number_does_not_fit : ∃ code c nested,
    source? "R" ["@Data"] unsigned = some code ∧ classesOf? "R" unsigned = some (c, nested) ∧
    (∀ n ∈ unsigned.nodes, IsPlain n.value) ∧ SignaturesTell "R" unsigned ∧
    ∃ f, fieldAt? nested c ["id"] = some f ∧ f.javaType = "Long" ∧
      ¬ Fits64 9223372036854775808 := by
  have hclasses : classesOf? "R" unsigned = some (⟨"R", [⟨"id", "id", "Long"⟩]⟩, []) := by
    decide +kernel
  have hroot : (rootObject? unsigned).isSome = true := rfl
  obtain ⟨code, hcode⟩ := exists_source "R" ["@Data"] hroot
  exact ⟨code, _, _, hcode, hclasses, by decide +kernel, by decide +kernel, _, rfl, rfl, by decide⟩

-- where a signature does not tell the keys, a number may be given the field of another one
example : ∃ c nested, classesOf? "R" (.obj [
    ("x", .obj [("a", whole 1 (by decide) (by decide)),
      ("b:Integer;a", whole 5000000000 (by decide) (by decide))]),
    ("y", .obj [("a:Integer;b", whole 2 (by decide) (by decide)),
      ("a", whole 5000000000 (by decide) (by decide))])]) = some (c, nested) ∧
    (fieldAt? nested c ["y", "a"]).map JavaField.javaType = some "Integer" := by
  exact ⟨_, _, rfl, by decide +kernel⟩

end CurlScribe.Pojo
