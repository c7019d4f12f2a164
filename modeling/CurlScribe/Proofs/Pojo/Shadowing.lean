import CurlScribe.Proofs.Java.Declared
import CurlScribe.Proofs.Pojo.Placed

/-! The names of nested classes, and when one of them hides a type that the source uses: a type of a
field, the annotation that tells a key, or an annotation of the classes. -/
namespace CurlScribe.Pojo

open Java (IsNumbered IsTried)

variable {root name code : String} {annotations bases : List String} {body : Json}
  {c : JavaClass} {classes later nested : List JavaClass} {ps : List Placement}

/-! Names. -/

/-- What the classes of objects with a new text are to be called. -/
def wantedNames (seen : List String) : List Placement → List String
  | [] => []
  | p :: ps =>
    if signature p.fields ∈ seen then wantedNames seen ps
    else baseName p.suggested :: wantedNames (seen ++ [signature p.fields]) ps

def addName (root : String) (names : List String) (base : String) : List String :=
  names ++ [Java.fresh (root :: reservedNames ++ names) base]

/-- What classes are called that are to be called so, one after the other. -/
def givenNames (root : String) (bases : List String) : List String := bases.foldl (addName root) []

theorem mem_addName_iff {names : List String} {base : String} :
    name ∈ addName root names base ↔ name ∈ names ∨
      (name ∉ root :: reservedNames ∧ name ∉ names) ∧
        IsTried (root :: reservedNames ++ names) base name := by
  rw [addName, List.mem_append, List.mem_singleton, eq_comm, Java.fresh_eq_iff, List.mem_append,
    not_or]

/-- The places in a list that has grown are those before, and its end. -/
theorem exists_split_concat {P : List String → String → Prop} {last : String} :
    (∃ before base after, bases ++ [last] = before ++ base :: after ∧ P before base) ↔
      (∃ before base after, bases = before ++ base :: after ∧ P before base) ∨ P bases last := by
  constructor
  · rintro ⟨before, base, after, heq, hp⟩
    rcases List.eq_nil_or_concat after with rfl | ⟨init, _, rfl⟩
    · obtain ⟨rfl, hlast⟩ := List.append_inj' heq rfl
      obtain rfl : last = base := by simpa using hlast
      exact .inr hp
    · rw [List.concat_eq_append, ← List.cons_append, ← List.append_assoc] at heq
      obtain ⟨hinit, -⟩ := List.append_inj' heq rfl
      exact .inl ⟨before, base, init, hinit, hp⟩
  · rintro (⟨before, base, after, rfl, hp⟩ | hp)
    · exact ⟨before, base, after ++ [last], by simp, hp⟩
    · exact ⟨bases, last, [], rfl, hp⟩

/-- A name is given to the first class that tries it, unless it is that of the root or reserved. -/
theorem mem_givenNames_iff : name ∈ givenNames root bases ↔
    name ∉ root :: reservedNames ∧ ∃ before base after, bases = before ++ base :: after ∧
      IsTried (root :: reservedNames ++ givenNames root before) base name := by
  induction bases using List.reverseRecOn with
  | nil => simp [givenNames]
  | append_singleton bases last ih =>
    have hgiven : givenNames root (bases ++ [last]) = addName root (givenNames root bases) last :=
      List.foldl_concat ..
    rw [hgiven, mem_addName_iff, exists_split_concat]
    constructor
    · rintro (hold | ⟨⟨hfree, -⟩, htried⟩)
      · obtain ⟨hfree, hsplit⟩ := ih.mp hold
        exact ⟨hfree, .inl hsplit⟩
      · exact ⟨hfree, .inr htried⟩
    · rintro ⟨hfree, hsplit | htried⟩
      · exact .inl (ih.mpr ⟨hfree, hsplit⟩)
      · by_cases hold : name ∈ givenNames root bases
        · exact .inl hold
        · exact .inr ⟨⟨hfree, hold⟩, htried⟩

theorem names_add (root : String) (p : Placement) (classes : List JavaClass) :
    (p.add root classes).map JavaClass.name =
      if signature p.fields ∈ texts classes then classes.map JavaClass.name
      else addName root (classes.map JavaClass.name) (baseName p.suggested) := by
  rcases add_cases root p classes with ⟨hold, heq⟩ | ⟨hnew, heq⟩
  · rw [heq, if_pos hold]
  · rw [heq, if_neg hnew, List.map_append]
    rfl

/-- Objects that are placed one after the other add the names of the new classes. -/
theorem Places.names_eq (h : Places root classes ps later) :
    later.map JavaClass.name =
      (wantedNames (texts classes) ps).foldl (addName root) (classes.map JavaClass.name) := by
  induction h with
  | nil => rfl
  | @cons classes later p ps _ _ ih =>
    rw [ih, names_add, texts_add, wantedNames]
    by_cases hold : signature p.fields ∈ texts classes
    · rw [if_pos hold, if_pos hold, if_pos hold]
    · rw [if_neg hold, if_neg hold, if_neg hold, List.foldl_cons]

/-- A new class of the body is to have this name, and nothing keeps it off. -/
def IsWanted (root : String) (body : Json) (name : String) : Prop :=
  name ∈ wantedNames [] (placements root body) ∧ name ∉ root :: reservedNames

instance (root : String) (body : Json) (name : String) : Decidable (IsWanted root body name) :=
  inferInstanceAs (Decidable (_ ∧ _))

/-- No class of the body can get this name by a number. -/
def IsUnnumbered (root : String) (body : Json) (name : String) : Prop :=
  ∀ base ∈ wantedNames [] (placements root body), ¬ IsNumbered base name

instance (root : String) (body : Json) (name : String) : Decidable (IsUnnumbered root body name) :=
  inferInstanceAs (Decidable (∀ base ∈ wantedNames [] (placements root body), _))

/-- A class of the body gets this name: it is neither that of the root nor reserved, and it is tried
for one of the new classes after the names of those before are given. -/
def IsGiven (root : String) (body : Json) (name : String) : Prop :=
  name ∉ root :: reservedNames ∧ ∃ before base after,
    wantedNames [] (placements root body) = before ++ base :: after ∧
      IsTried (root :: reservedNames ++ givenNames root before) base name

instance (root : String) (body : Json) (name : String) : Decidable (IsGiven root body name) :=
  decidable_of_iff (name ∈ givenNames root (wantedNames [] (placements root body)))
    mem_givenNames_iff

theorem mem_names_iff (h : classesOf? root body = some (c, nested)) :
    name ∈ nested.map JavaClass.name ↔ IsGiven root body name := by
  have hnames : nested.map JavaClass.name =
      givenNames root (wantedNames [] (placements root body)) := (places_placements h).names_eq
  rw [hnames]
  exact mem_givenNames_iff

/-- A name that no class can get by a number is given exactly where it is wanted. -/
theorem isGiven_iff_isWanted (hname : IsUnnumbered root body name) :
    IsGiven root body name ↔ IsWanted root body name := by
  constructor
  · rintro ⟨hfree, before, base, after, heq, htried⟩
    have hmem : base ∈ wantedNames [] (placements root body) := by simp [heq]
    obtain rfl := htried.eq_of_not_isNumbered (hname base hmem)
    exact ⟨hmem, hfree⟩
  · rintro ⟨hmem, hfree⟩
    obtain ⟨before, after, heq⟩ := List.append_of_mem hmem
    exact ⟨hfree, before, name, after, heq, .plain⟩

/-! Shadowing. -/

/-- The simple name of an annotation: its arguments are left away, and its package. -/
def annotationName (given : String) : String :=
  let name := given.toList.dropWhile fun c => c == '@' || Text.isBlank c
  Java.simpleName (String.ofList (name.takeWhile fun c => c != '(' && !Text.isBlank c))

/-- Some field of the classes has the annotation that tells its key. -/
def TellsKey (c : JavaClass) (nested : List JavaClass) : Prop :=
  ((c :: nested).flatMap JavaClass.fields).any needsKey = true

instance (c : JavaClass) (nested : List JavaClass) : Decidable (TellsKey c nested) :=
  inferInstanceAs (Decidable (_ = true))

/-- No nested class has the name of a type that its source uses. -/
structure ShadowsNothing (annotations : List String) (c : JavaClass) (nested : List JavaClass) :
    Prop where
  fieldTypes : ∀ k ∈ nested, k.name ∉ reservedNames
  keys : TellsKey c nested → ∀ k ∈ nested, k.name ≠ "JsonProperty"
  annotations : ∀ a ∈ annotations, ∀ k ∈ nested, k.name ≠ annotationName a

theorem forall_name_ne_iff (h : classesOf? root body = some (c, nested)) :
    (∀ k ∈ nested, k.name ≠ name) ↔ ¬ IsGiven root body name := by
  rw [← mem_names_iff h]
  simp

theorem isUnnumbered_jsonProperty (root : String) (body : Json) :
    IsUnnumbered root body "JsonProperty" := by
  intro base _ hnumbered
  obtain ⟨d, hlast, hd⟩ := hnumbered.isDigit_getLast
  obtain rfl : 'y' = d := Option.some.inj hlast
  simp at hd

theorem shadowsNothing_iff (h : classesOf? root body = some (c, nested)) :
    ShadowsNothing annotations c nested ↔
      (TellsKey c nested → ¬ IsWanted root body "JsonProperty") ∧
        ∀ a ∈ annotations, ¬ IsGiven root body (annotationName a) := by
  obtain ⟨-, hnested, -⟩ := classesOf_spec h
  have hkey : (∀ k ∈ nested, k.name ≠ "JsonProperty") ↔ ¬ IsWanted root body "JsonProperty" := by
    rw [forall_name_ne_iff h, isGiven_iff_isWanted (isUnnumbered_jsonProperty root body)]
  constructor
  · intro hs
    refine ⟨?_, ?_⟩
    · intro htells
      exact hkey.mp (hs.keys htells)
    · intro a hmem
      exact (forall_name_ne_iff h).mp (hs.annotations a hmem)
  · rintro ⟨hkeys, hannotations⟩
    refine ⟨?_, ?_, ?_⟩
    · intro k hk hmem
      exact hnested.free k hk (List.mem_cons_of_mem root hmem)
    · intro htells
      exact hkey.mpr (hkeys htells)
    · intro a hmem
      exact (forall_name_ne_iff h).mpr (hannotations a hmem)

/-- No nested class has the name of a type of a field. One has the name of an annotation exactly
where this name is given; if no number can make it, that is where the class of an object with a new
text is to have it. -/
theorem nothing_is_shadowed_iff (h : source? root annotations body = some code) :
    ∃ c nested, classesOf? root body = some (c, nested) ∧ code = sourceOf annotations c nested ∧
      (∀ k ∈ nested, k.name ∉ reservedNames) ∧
      (ShadowsNothing annotations c nested ↔
        (TellsKey c nested → ¬ IsWanted root body "JsonProperty") ∧
          ∀ a ∈ annotations, ¬ IsGiven root body (annotationName a)) ∧
      ∀ name, IsUnnumbered root body name →
        (IsGiven root body name ↔ IsWanted root body name) := by
  obtain ⟨⟨c, nested⟩, hclasses, rfl⟩ := Option.map_eq_some_iff.mp h
  obtain ⟨-, hnested, -⟩ := classesOf_spec hclasses
  refine ⟨c, nested, hclasses, rfl, ?_, shadowsNothing_iff hclasses, fun _ => isGiven_iff_isWanted⟩
  intro k hk hmem
  exact hnested.free k hk (List.mem_cons_of_mem root hmem)

-- a class gets the name of an annotation by a number
example : IsGiven "R" (.obj [
    ("x", .obj [("data", .obj [("a", .null)])]), ("data", .obj [("b", .null)])])
    (annotationName "@Data2") := by decide +kernel

/-- A body with keys like the names of types and annotations. -/
def typeLike : Json := .obj [
  ("string", .obj [("list", .arr [.obj [("object", .null)]])]),
  ("json-property", .arr [.obj [("a", .null)]]),
  ("data", .arr [.str ""]),
  ("builder", .obj [("a", .null)])]

theorem typeLike_shadows_nothing : ∃ code c nested,
    source? "R" ["@Data", " @lombok.Builder(toBuilder = true)"] typeLike = some code ∧
    code = sourceOf ["@Data", " @lombok.Builder(toBuilder = true)"] c nested ∧
    TellsKey c nested ∧ nested.map JavaClass.name = ["ListItem", "String2", "JsonPropertyItem"] ∧
    ShadowsNothing ["@Data", " @lombok.Builder(toBuilder = true)"] c nested := by
  have hroot : (rootObject? typeLike).isSome = true := rfl
  obtain ⟨code, hcode⟩ := exists_source "R" ["@Data", " @lombok.Builder(toBuilder = true)"] hroot
  obtain ⟨c, nested, hclasses, hsource, -, hiff, -⟩ := nothing_is_shadowed_iff hcode
  have hknown : classesOf? "R" typeLike = some (
    ⟨"R", [⟨"string", "string", "String2"⟩,
      ⟨"json-property", "jsonProperty", "List<JsonPropertyItem>"⟩,
      ⟨"data", "data", "List<String>"⟩, ⟨"builder", "builder", "JsonPropertyItem"⟩]⟩,
    [⟨"ListItem", [⟨"object", "object", "Object"⟩]⟩,
      ⟨"String2", [⟨"list", "list", "List<ListItem>"⟩]⟩,
      ⟨"JsonPropertyItem", [⟨"a", "a", "Object"⟩]⟩]) := by decide +kernel
  rw [hknown, Option.some.injEq, Prod.mk.injEq] at hclasses
  obtain ⟨rfl, rfl⟩ := hclasses
  exact ⟨code, _, _, hcode, hsource, by decide, by decide, hiff.mpr (by decide +kernel)⟩

/-- A body with an object under a key like each of two annotations. -/
def annotationLike : Json := .obj [
  ("json-property", .obj [("a", .str "")]), ("data", .obj [("b", .str "")])]

theorem annotationLike_shadows : ∃ code c nested,
    source? "R" ["@Data"] annotationLike = some code ∧
    classesOf? "R" annotationLike = some (c, nested) ∧ TellsKey c nested ∧
    nested.map JavaClass.name = ["JsonProperty", "Data"] ∧ annotationName "@Data" = "Data" ∧
    ¬ ShadowsNothing ["@Data"] c nested := by
  have hknown : classesOf? "R" annotationLike = some (
    ⟨"R", [⟨"json-property", "jsonProperty", "JsonProperty"⟩, ⟨"data", "data", "Data"⟩]⟩,
    [⟨"JsonProperty", [⟨"a", "a", "String"⟩]⟩, ⟨"Data", [⟨"b", "b", "String"⟩]⟩]) := by decide
  have hroot : (rootObject? annotationLike).isSome = true := rfl
  obtain ⟨code, hcode⟩ := exists_source "R" ["@Data"] hroot
  refine ⟨code, _, _, hcode, hknown, by decide, rfl, by decide, ?_⟩
  intro hs
  exact hs.keys (by decide) _ List.mem_cons_self rfl

end CurlScribe.Pojo
