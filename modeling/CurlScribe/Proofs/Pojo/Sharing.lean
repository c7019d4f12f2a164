import CurlScribe.Proofs.Pojo.Placed
import CurlScribe.Proofs.Text.Cut

/-! Which objects inside a body share a class: those whose keys and types are one and the same text.
Two objects have the same keys and types then, unless a key spells a field of the other object. -/
namespace CurlScribe.Pojo

open Java (IsName)

variable {root t : String} {names annotations : List String} {body : Json} {f g : JavaField}
  {xs ys : List JavaField} {c : JavaClass} {classes nested : List JavaClass} {p q : Placement}
  {code : String}

/-! The text of a field. -/

/-- What a field adds to the text that tells a class. -/
def entry (f : JavaField) : List Char := f.key.toList ++ ':' :: (f.javaType.toList ++ [';'])

theorem toList_signature (fields : List JavaField) :
    (signature fields).toList = fields.flatMap entry := by
  rw [signature, String.toList_join, List.flatMap_map]
  exact List.flatMap_congr fun f _ => by simp [entry]

/-- A type in which the marks of a text do not occur. -/
def IsUnmarked (t : String) : Prop := ':' ∉ t.toList ∧ ';' ∉ t.toList

theorem isUnmarked_of_isName (h : IsName t.toList) : IsUnmarked t := by
  constructor
  · intro hmem
    have hc := h ':' hmem
    simp [Java.isNameChar, Text.isAsciiAlnum] at hc
  · intro hmem
    have hc := h ';' hmem
    simp [Java.isNameChar, Text.isAsciiAlnum] at hc

theorem IsType.isUnmarked (hn : ∀ n ∈ names, IsName n.toList) (h : IsType names t) :
    IsUnmarked t := by
  induction h with
  | named hmem =>
    have hscalar : ∀ n ∈ scalarTypes, IsName n.toList := by decide
    rcases List.mem_append.mp hmem with hmem | hmem
    · exact isUnmarked_of_isName (hscalar _ hmem)
    · exact isUnmarked_of_isName (hn _ hmem)
  | list _ ih => simpa [IsUnmarked] using ih

theorem IsPlaced.isUnmarked (h : IsPlaced root classes p) :
    ∀ f ∈ p.fields, IsUnmarked f.javaType := by
  have hnames : ∀ n ∈ classes.map JavaClass.name, IsName n.toList := by
    intro n hn
    obtain ⟨c, hc, rfl⟩ := List.mem_map.mp hn
    exact h.areClasses.isName c hc
  intro f hf
  exact (h.areFields.typed f hf).isUnmarked hnames

/-! Keys and types. -/

/-- The keys of an object with their types. -/
def typing (fields : List JavaField) : List (String × String) :=
  fields.map fun f => (f.key, f.javaType)

theorem signature_of_typing (h : typing xs = typing ys) : signature xs = signature ys := by
  have heq (fields : List JavaField) : signature fields =
      String.join ((typing fields).map fun e => e.1 ++ ":" ++ e.2 ++ ";") := by
    rw [signature, typing, List.map_map]
    rfl
  rw [heq, heq, h]

/-- The key of one of two fields starts with the whole text of the other. -/
def Spells (f g : JavaField) : Prop := entry f <+: g.key.toList ∨ entry g <+: f.key.toList

instance (f g : JavaField) : Decidable (Spells f g) :=
  inferInstanceAs (Decidable (entry f <+: g.key.toList ∨ entry g <+: f.key.toList))

/-- A key that goes on where the key of another field ends has to spell that field. -/
theorem entry_prefix_of_longer {ms rest rest' : List Char} {m : Char} (hf : IsUnmarked f.javaType)
    (hkey : g.key.toList = f.key.toList ++ m :: ms) (h : entry f ++ rest = entry g ++ rest') :
    entry f <+: g.key.toList := by
  simp only [entry, hkey, List.append_assoc, List.cons_append, List.append_cancel_left_eq,
    List.cons_eq_cons] at h
  obtain ⟨rfl, h⟩ := h
  have hstop : ':' ∉ f.javaType.toList ++ [';'] := by simpa using hf.1
  have hcut : (f.javaType.toList ++ [';']) ++ rest =
      ms ++ ':' :: (g.javaType.toList ++ ';' :: rest') := by simpa using h
  have hspelled : f.javaType.toList ++ [';'] <+: ms := Text.prefix_of_stop hstop hcut
  rw [entry, hkey]
  exact (List.prefix_append_right_inj _).mpr ((List.prefix_cons_inj ':').mpr hspelled)

/-- Texts that start with the text of a field each start with the same one, unless a key spells the
other field. -/
theorem entry_append_inj {rest rest' : List Char} (hf : IsUnmarked f.javaType)
    (hg : IsUnmarked g.javaType) (h : entry f ++ rest = entry g ++ rest') (hs : ¬ Spells f g) :
    f.key = g.key ∧ f.javaType = g.javaType ∧ rest = rest' := by
  have hcut : f.key.toList ++ (':' :: (f.javaType.toList ++ ';' :: rest)) =
      g.key.toList ++ (':' :: (g.javaType.toList ++ ';' :: rest')) := by
    simpa [entry] using h
  have hkeys : f.key.toList = g.key.toList := by
    rcases List.append_eq_append_iff.mp hcut with ⟨part, hkey, -⟩ | ⟨part, hkey, -⟩
    · cases part with
      | nil => rw [hkey, List.append_nil]
      | cons m ms => exact (hs (.inl (entry_prefix_of_longer hf hkey h))).elim
    · cases part with
      | nil => rw [hkey, List.append_nil]
      | cons m ms => exact (hs (.inr (entry_prefix_of_longer hg hkey h.symm))).elim
  rw [hkeys, List.append_cancel_left_eq, List.cons_eq_cons] at hcut
  have htypes : f.javaType.toList = g.javaType.toList := by
    have hone := Text.prefix_of_stop hf.2 hcut.2
    have htwo := Text.prefix_of_stop hg.2 hcut.2.symm
    exact hone.eq_of_length_le htwo.length_le
  rw [htypes, List.append_cancel_left_eq, List.cons_eq_cons] at hcut
  exact ⟨String.toList_inj.mp hkeys, String.toList_inj.mp htypes, hcut.2.2⟩

/-- Where no key spells a field of the other object, the text tells the keys and types. -/
theorem typing_eq_iff (hx : ∀ f ∈ xs, IsUnmarked f.javaType) (hy : ∀ g ∈ ys, IsUnmarked g.javaType)
    (hs : ∀ f ∈ xs, ∀ g ∈ ys, ¬ Spells f g) :
    signature xs = signature ys ↔ typing xs = typing ys := by
  refine ⟨fun h => ?_, signature_of_typing⟩
  have htext : xs.flatMap entry = ys.flatMap entry := by
    rw [← toList_signature, ← toList_signature, h]
  clear h
  induction xs generalizing ys with
  | nil =>
    cases ys with
    | nil => rfl
    | cons g ys => simp [entry] at htext
  | cons f xs ih =>
    cases ys with
    | nil => simp [entry] at htext
    | cons g ys =>
      rw [List.flatMap_cons, List.flatMap_cons] at htext
      obtain ⟨hkey, htype, hrest⟩ := entry_append_inj (hx f (by simp)) (hy g (by simp)) htext
        (hs f (by simp) g (by simp))
      have hmore : typing xs = typing ys :=
        ih (fun f hf => hx f (by simp [hf])) (fun g hg => hy g (by simp [hg]))
          (fun f hf g hg => hs f (by simp [hf]) g (by simp [hg])) hrest
      rw [typing, List.map_cons, hkey, htype]
      exact congrArg _ hmore

/-! Classes. -/

theorem given_eq_iff (h : classesOf? root body = some (c, nested))
    (hp : p ∈ placements root body) (hq : q ∈ placements root body) :
    p.given = q.given ↔ signature p.fields = signature q.fields := by
  obtain ⟨-, hnested, -⟩ := classesOf_spec h
  have hplaces := places_placements h
  have htexts : (texts nested).Nodup := hplaces.nodup_texts List.nodup_nil
  obtain ⟨k, hk, hname, htext⟩ := hplaces.exists_standsFor p hp
  obtain ⟨l, hl, hname', htext'⟩ := hplaces.exists_standsFor q hq
  constructor
  · intro hgiven
    have hsame : k = l := List.inj_on_of_nodup_map hnested.distinct hk hl (by
      rw [hname, hname', hgiven])
    rw [← htext, ← htext', hsame]
  · intro hsignature
    have hsame : k = l := List.inj_on_of_nodup_map htexts hk hl (by
      rw [htext, htext', hsignature])
    rw [← hname, ← hname', hsame]

/-- Each object inside a body has a nested class with the text of its keys and types, and two
objects have the same class exactly where this text is the same. Then their keys and types are the
same as well, unless the key of a field in one of them spells a field of the other. -/
theorem objects_share_a_class_iff (h : source? root annotations body = some code) :
    ∃ c nested, classesOf? root body = some (c, nested) ∧ code = sourceOf annotations c nested ∧
      (placements root body).map Placement.object = nestedObjects body ∧
      ∀ p ∈ placements root body, p.fields.map JavaField.key = p.object.map Prod.fst ∧
        (∃ k ∈ nested, StandsFor k p) ∧
        ∀ q ∈ placements root body, (p.given = q.given ↔ signature p.fields = signature q.fields) ∧
          ((∀ f ∈ p.fields, ∀ g ∈ q.fields, ¬ Spells f g) →
            (p.given = q.given ↔ typing p.fields = typing q.fields)) := by
  obtain ⟨⟨c, nested⟩, hclasses, rfl⟩ := Option.map_eq_some_iff.mp h
  have hplaces := places_placements hclasses
  refine ⟨c, nested, hclasses, rfl, map_object_placements root body, ?_⟩
  intro p hp
  obtain ⟨_, hplaced⟩ := hplaces.isPlaced p hp
  refine ⟨hplaced.keys, hplaces.exists_standsFor p hp, ?_⟩
  intro q hq
  have hgiven := given_eq_iff hclasses hp hq
  refine ⟨hgiven, ?_⟩
  intro hspells
  obtain ⟨_, hplaced'⟩ := hplaces.isPlaced q hq
  exact hgiven.trans (typing_eq_iff hplaced.isUnmarked hplaced'.isUnmarked hspells)

/-- A body with two objects of one shape, and an array of objects with a shape of their own. -/
def ordered : Json := .obj [
  ("billing", .obj [("city", .str "Paris"), ("zip:", .str "75001")]),
  ("shipping", .obj [("city", .str ""), ("zip:", .str "")]),
  ("items", .arr [.obj [("sku", .str "A1")], .null, .obj [("sku", .null), ("gift;", .bool true)]])]

theorem addresses_share_a_class : ∃ code, source? "Order" ["@Data"] ordered = some code ∧
    (placements "Order" ordered).map Placement.given = ["Billing", "Billing", "ItemsItem"] ∧
      ∀ p ∈ placements "Order" ordered, ∀ q ∈ placements "Order" ordered,
        (p.given = q.given ↔ typing p.fields = typing q.fields) := by
  have hspells : ∀ p ∈ placements "Order" ordered, ∀ q ∈ placements "Order" ordered,
      ∀ f ∈ p.fields, ∀ g ∈ q.fields, ¬ Spells f g := by decide
  have hroot : (rootObject? ordered).isSome = true := rfl
  obtain ⟨code, hcode⟩ := exists_source "Order" ["@Data"] hroot
  obtain ⟨c, nested, -, -, -, hall⟩ := objects_share_a_class_iff hcode
  refine ⟨code, hcode, by decide, ?_⟩
  intro p hp q hq
  exact ((hall p hp).2.2 q hq).2 (hspells p hp q hq)

/-- A body with a key that spells a field of another object. -/
def spelled : Json := .obj [
  ("x", .obj [("a", .str "1"), ("b", .str "2")]),
  ("y", .obj [("a:String;b", .str "3")])]

theorem spelled_field_shares_a_class : ∃ code, source? "R" ["@Data"] spelled = some code ∧
    ∃ p ∈ placements "R" spelled, ∃ q ∈ placements "R" spelled,
      p.given = q.given ∧ typing p.fields ≠ typing q.fields := by
  have hroot : (rootObject? spelled).isSome = true := rfl
  obtain ⟨code, hcode⟩ := exists_source "R" ["@Data"] hroot
  exact ⟨code, hcode, by decide⟩

end CurlScribe.Pojo
