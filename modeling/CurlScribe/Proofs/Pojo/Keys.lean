import CurlScribe.Proofs.Json.Node
import CurlScribe.Proofs.Pojo.Counts
import CurlScribe.Proofs.Pojo.Sharing

/-! Which keys of a body have a field: those of the objects that count. -/
namespace CurlScribe.Pojo

variable {name key : String}

/-! Objects that are made one. -/

namespace Shape

variable {fields object : List (String × Shape)} {objects : List (List (String × Shape))}
  {s shape : Shape}

def isKnown (s : Shape) : Bool := !s.isUnknown

theorem keys_addField (fields : List (String × Shape)) (key : String) (shape : Shape) :
    (addField fields key shape).map Prod.fst =
      if key ∈ fields.map Prod.fst then fields.map Prod.fst else fields.map Prod.fst ++ [key] := by
  fun_induction addField fields key shape with
  | case1 => rfl
  | case2 s rest => simp
  | case3 k s rest hne ih =>
    rw [List.map_cons, List.map_cons, ih]
    by_cases hmem : key ∈ rest.map Prod.fst
    · rw [if_pos hmem, if_pos (List.mem_cons_of_mem _ hmem)]
    · have hnew : key ∉ k :: rest.map Prod.fst := by simp [Ne.symm hne, hmem]
      rw [if_neg hmem, if_neg hnew]
      rfl

theorem nodup_addField (h : (fields.map Prod.fst).Nodup) (key : String) (shape : Shape) :
    ((addField fields key shape).map Prod.fst).Nodup := by
  rw [keys_addField]
  split
  · exact h
  · rename_i hnew
    exact List.nodup_append'.mpr ⟨h, List.nodup_singleton _, by simpa using hnew⟩

/-- A further field counts where its key has no known shape yet. -/
theorem first_addField (h : (fields.map Prod.fst).Nodup) (key : String) (shape : Shape)
    (name : String) : first? isKnown (addField fields key shape) name =
      (first? isKnown fields name).or (first? isKnown [(key, shape)] name) := by
  fun_induction addField fields key shape with
  | case1 => rfl
  | case2 s rest =>
    obtain ⟨hnew, -⟩ := List.nodup_cons.mp h
    rw [first_cons, first_cons, first_cons, first_nil]
    by_cases hk : key = name
    · subst hk
      have hrest : first? isKnown rest key = none := first_eq_none hnew
      rw [hrest]
      cases hs : s.isUnknown <;> simp [isKnown, hs]
    · simp [hk]
  | case3 k s rest hne ih =>
    obtain ⟨-, hrest⟩ := List.nodup_cons.mp h
    rw [first_cons, first_cons, ih hrest]
    split <;> rfl

/-- Fields that have been made one by one from others: each key is there once, with its first known
shape. -/
structure IsMerged (es fields : List (String × Shape)) : Prop where
  distinct : (fields.map Prod.fst).Nodup
  keys : ∀ key, key ∈ fields.map Prod.fst ↔ key ∈ es.map Prod.fst
  first : ∀ key, first? isKnown fields key = first? isKnown es key

theorem IsMerged.add {es : List (String × Shape)} (h : IsMerged es fields) (key : String)
    (shape : Shape) : IsMerged (es ++ [(key, shape)]) (addField fields key shape) := by
  refine ⟨nodup_addField h.distinct key shape, ?_, ?_⟩
  · intro name
    rw [keys_addField, List.map_append, List.mem_append, ← h.keys name]
    by_cases hmem : key ∈ fields.map Prod.fst
    · rw [if_pos hmem]
      constructor
      · exact .inl
      · rintro (hname | hname)
        · exact hname
        · obtain rfl : name = key := by simpa using hname
          exact hmem
    · rw [if_neg hmem, List.mem_append]
      rfl
  · intro name
    rw [first_addField h.distinct, first_append, h.first]

theorem isMerged_merge (objects : List (List (String × Shape))) :
    IsMerged objects.flatten (merge objects) := by
  have hmerge : merge objects =
      objects.flatten.foldl (fun fields e => addField fields e.1 e.2) [] := by
    rw [List.foldl_flatten]
    rfl
  rw [hmerge]
  generalize objects.flatten = es
  induction es using List.reverseRecOn with
  | nil => exact ⟨by simp, by simp, by simp⟩
  | append_singleton es e ih =>
    rw [List.foldl_append]
    exact ih.add e.1 e.2

end Shape

/-! Keys inside a shape. -/

namespace Shape

variable {object : List (String × Shape)} {shapes : List Shape} {s : Shape}

/-- Some object inside the shape has the key. -/
def HasKey (s : Shape) (key : String) : Prop := ∃ object ∈ s.objects, key ∈ object.map Prod.fst

theorem HasKey.isKnown (h : s.HasKey key) : s.isKnown = true := by
  cases s with
  | unknown =>
    obtain ⟨object, hobject, -⟩ := h
    simp [objects] at hobject
  | scalar _ | list _ | record _ => rfl

theorem not_hasKey_of_unknown (h : s.isKnown = false) : ¬ s.HasKey key := by
  intro hkey
  rw [hkey.isKnown] at h
  cases h

theorem mem_objectsAmong {fields : List (String × Shape)} :
    fields ∈ objectsAmong object ↔ ∃ e ∈ object, fields ∈ e.2.objects := by
  induction object with
  | nil => simp [objectsAmong]
  | cons e rest ih => simp [objectsAmong, ih]

theorem hasKey_record (object : List (String × Shape)) (key : String) :
    (record object).HasKey key ↔ key ∈ object.map Prod.fst ∨ ∃ e ∈ object, e.2.HasKey key := by
  constructor
  · rintro ⟨fields, hfields, hkey⟩
    rw [objects, List.mem_append, mem_objectsAmong, List.mem_singleton] at hfields
    rcases hfields with ⟨e, he, hfields⟩ | rfl
    · exact .inr ⟨e, he, fields, hfields, hkey⟩
    · exact .inl hkey
  · rintro (hkey | ⟨e, he, fields, hfields, hkey⟩)
    · exact ⟨object, by simp [objects], hkey⟩
    · refine ⟨fields, ?_, hkey⟩
      rw [objects, List.mem_append, mem_objectsAmong]
      exact .inl ⟨e, he, hfields⟩

/-- Items that are no objects have the type of the first known one. -/
theorem hasKey_ofItems_other (h : shapes.filterMap fields? = []) (key : String) :
    (ofItems shapes).HasKey key ↔ ∃ s, shapes.find? isKnown = some s ∧ s.HasKey key := by
  rw [ofItems, h]
  change ((shapes.find? isKnown).getD unknown).HasKey key ↔ _
  cases shapes.find? isKnown with
  | none => simpa using not_hasKey_of_unknown rfl
  | some s => simp

/-- Items that are objects have their keys together, each with its first known shape. -/
theorem hasKey_ofItems_objects (h : shapes.filterMap fields? ≠ []) (key : String) :
    (ofItems shapes).HasKey key ↔ key ∈ (shapes.filterMap fields?).flatten.map Prod.fst ∨
      ∃ name s, first? isKnown (shapes.filterMap fields?).flatten name = some s ∧
        s.HasKey key := by
  have hm := isMerged_merge (shapes.filterMap fields?)
  have hitems : ofItems shapes = record (merge (shapes.filterMap fields?)) := by
    unfold ofItems
    split
    · rename_i hnone
      exact (h hnone).elim
    · rfl
  rw [hitems, hasKey_record, hm.keys]
  refine or_congr_right ?_
  constructor
  · rintro ⟨⟨name, s⟩, hmem, hkey⟩
    refine ⟨name, s, ?_, hkey⟩
    rw [← hm.first]
    exact first_of_mem hm.distinct hmem hkey.isKnown
  · rintro ⟨name, s, hfirst, hkey⟩
    rw [← hm.first] at hfirst
    exact ⟨(name, s), (mem_of_first hfirst).1, hkey⟩

theorem ofArray_eq (items : List Json) : ofArray items = items.map ofJson := by
  induction items with
  | nil => rfl
  | cons v rest ih => rw [ofArray, ih, List.map_cons]

theorem ofObject_eq (object : List (String × Json)) :
    ofObject object = object.map fun e => (e.1, ofJson e.2) := by
  induction object with
  | nil => rfl
  | cons e rest ih => rw [ofObject, ih, List.map_cons]

theorem keys_ofObject (object : List (String × Json)) :
    (ofObject object).map Prod.fst = object.map Prod.fst := by
  rw [ofObject_eq, List.map_map]
  rfl

end Shape

/-! The keys that count. -/

section Counts

variable {items : List Json} {object : List (String × Json)} {v : Json}

/-- A key of an object that counts. -/
def KeyCounts (v : Json) (key : String) : Prop :=
  ∃ object, Counts Decides v object ∧ key ∈ object.map Prod.fst

/-- A shape tells the keys that count. -/
def TellsKeys (v : Json) : Prop := ∀ key, (Shape.ofJson v).HasKey key ↔ KeyCounts v key

theorem isKnown_ofJson (v : Json) : (Shape.ofJson v).isKnown = tellsType v := by
  cases v with
  | num n => cases n <;> rfl
  | _ => rfl

theorem fields_ofJson (v : Json) :
    (Shape.ofJson v).fields? = (object? v).map Shape.ofObject := by
  cases v with
  | num n => cases n <;> rfl
  | _ => rfl

theorem objects_ofArray (items : List Json) :
    (Shape.ofArray items).filterMap Shape.fields? = (itemObjects items).map Shape.ofObject := by
  rw [Shape.ofArray_eq, List.filterMap_map, itemObjects, List.map_filterMap]
  exact List.filterMap_congr fun v _ => fields_ofJson v

theorem tellsKeys_of_isLeaf (h : v.isLeaf = true) : TellsKeys v := by
  have hnone : (Shape.ofJson v).objects = [] := by
    cases v with
    | num n => cases n <;> rfl
    | arr _ | obj _ => cases h
    | null | bool _ | str _ => rfl
  intro key
  constructor
  · rintro ⟨object, hobject, -⟩
    simp [hnone] at hobject
  · rintro ⟨object, hcounts, -⟩
    cases hcounts <;> cases h

theorem tellsKeys_obj (h : ∀ e ∈ object, TellsKeys e.2) : TellsKeys (.obj object) := by
  intro key
  rw [Shape.ofJson, Shape.hasKey_record, Shape.keys_ofObject, Shape.ofObject_eq]
  constructor
  · rintro (hkey | ⟨_, hmapped, hkey⟩)
    · exact ⟨object, .self object, hkey⟩
    · obtain ⟨e, he, rfl⟩ := List.mem_map.mp hmapped
      obtain ⟨inner, hcounts, hmem⟩ := (h e he key).mp hkey
      exact ⟨inner, .field he hcounts, hmem⟩
  · rintro ⟨inner, hcounts, hmem⟩
    cases hcounts with
    | self => exact .inl hmem
    | @field _ _ name v he hcounts =>
      have hkey : (Shape.ofJson v).HasKey key := (h (name, v) he key).mpr ⟨inner, hcounts, hmem⟩
      exact .inr ⟨_, List.mem_map_of_mem he, hkey⟩

theorem tellsKeys_of_no_objects (hnone : itemObjects items = [])
    (h : ∀ v ∈ items, TellsKeys v) : TellsKeys (.arr items) := by
  intro key
  have hshapes : (Shape.ofArray items).filterMap Shape.fields? = [] := by
    rw [objects_ofArray, hnone, List.map_nil]
  have hknown : Shape.isKnown ∘ Shape.ofJson = tellsType := funext isKnown_ofJson
  change (Shape.ofItems (Shape.ofArray items)).HasKey key ↔ _
  rw [Shape.hasKey_ofItems_other hshapes, Shape.ofArray_eq, List.find?_map, hknown]
  constructor
  · rintro ⟨_, hfind, hkey⟩
    obtain ⟨v, hv, rfl⟩ := Option.map_eq_some_iff.mp hfind
    obtain ⟨inner, hcounts, hmem⟩ := (h v (List.mem_of_find?_eq_some hv) key).mp hkey
    exact ⟨inner, .otherItem ⟨hnone, hv⟩ hcounts, hmem⟩
  · rintro ⟨inner, hcounts, hmem⟩
    cases hcounts with
    | item hobject => simp [hnone] at hobject
    | itemField hfirst => simp [hnone, first_nil] at hfirst
    | @otherItem _ _ v hdecides hcounts =>
      have hv := hdecides.2
      refine ⟨Shape.ofJson v, by rw [hv, Option.map_some], ?_⟩
      exact (h v (List.mem_of_find?_eq_some hv) key).mpr ⟨inner, hcounts, hmem⟩

theorem tellsKeys_of_objects (hsome : itemObjects items ≠ [])
    (h : ∀ object ∈ itemObjects items, ∀ e ∈ object, TellsKeys e.2) :
    TellsKeys (.arr items) := by
  intro key
  have hshapes : (Shape.ofArray items).filterMap Shape.fields? ≠ [] := by
    rw [objects_ofArray]
    simpa using hsome
  have hflat : ((Shape.ofArray items).filterMap Shape.fields?).flatten =
      (itemObjects items).flatten.map fun e => (e.1, Shape.ofJson e.2) := by
    rw [objects_ofArray, List.map_flatten]
    exact congrArg List.flatten (List.map_congr_left fun object _ => Shape.ofObject_eq object)
  have hinner : ∀ e ∈ (itemObjects items).flatten, TellsKeys e.2 := by
    intro e he
    obtain ⟨object, hobject, hmem⟩ := List.mem_flatten.mp he
    exact h object hobject e hmem
  change (Shape.ofItems (Shape.ofArray items)).HasKey key ↔ _
  rw [Shape.hasKey_ofItems_objects hshapes, hflat]
  simp only [first_map isKnown_ofJson]
  constructor
  · rintro (hkey | ⟨name, _, hfirst, hkey⟩)
    · obtain ⟨_, hmapped, rfl⟩ := List.mem_map.mp hkey
      obtain ⟨e, hmem, rfl⟩ := List.mem_map.mp hmapped
      obtain ⟨object, hobject, hfield⟩ := List.mem_flatten.mp hmem
      exact ⟨object, .item hobject, List.mem_map_of_mem hfield⟩
    · obtain ⟨v, hv, rfl⟩ := Option.map_eq_some_iff.mp hfirst
      obtain ⟨inner, hcounts, hmem⟩ := (hinner _ (mem_of_first hv).1 key).mp hkey
      exact ⟨inner, .itemField hv hcounts, hmem⟩
  · rintro ⟨inner, hcounts, hmem⟩
    cases hcounts with
    | item hobject =>
      obtain ⟨e, he, rfl⟩ := List.mem_map.mp hmem
      exact .inl (List.mem_map.mpr ⟨_, List.mem_map_of_mem
        (List.mem_flatten_of_mem hobject he), rfl⟩)
    | @itemField _ _ name v hv hcounts =>
      refine .inr ⟨name, Shape.ofJson v, by rw [hv, Option.map_some], ?_⟩
      exact (hinner _ (mem_of_first hv).1 key).mpr ⟨inner, hcounts, hmem⟩
    | otherItem hdecides => exact (hsome hdecides.1).elim

mutual

theorem tellsKeys : ∀ v : Json, TellsKeys v
  | .null | .bool _ | .num _ | .str _ => tellsKeys_of_isLeaf rfl
  | .arr items => by
    by_cases hnone : itemObjects items = []
    · exact tellsKeys_of_no_objects hnone (tellsKeys_items items)
    · exact tellsKeys_of_objects hnone (tellsKeys_itemFields items)
  | .obj object => tellsKeys_obj (tellsKeys_fields object)

theorem tellsKeys_items : ∀ items : List Json, ∀ v ∈ items, TellsKeys v
  | [] => by simp
  | v :: rest => List.forall_mem_cons.mpr ⟨tellsKeys v, tellsKeys_items rest⟩

theorem tellsKeys_itemFields : ∀ items : List Json, ∀ object ∈ itemObjects items,
    ∀ e ∈ object, TellsKeys e.2
  | [] => by simp [itemObjects]
  | .obj object :: rest =>
    List.forall_mem_cons.mpr ⟨tellsKeys_fields object, tellsKeys_itemFields rest⟩
  | .null :: rest | .bool _ :: rest | .num _ :: rest | .str _ :: rest | .arr _ :: rest =>
    tellsKeys_itemFields rest

theorem tellsKeys_fields : ∀ object : List (String × Json), ∀ e ∈ object, TellsKeys e.2
  | [] => by simp
  | (_, v) :: rest => List.forall_mem_cons.mpr ⟨tellsKeys v, tellsKeys_fields rest⟩

end

end Counts

/-! Keys of classes. -/

variable {root code : String} {annotations : List String} {body : Json} {c k : JavaClass}
  {classes later nested : List JavaClass} {p : Placement} {ps : List Placement}
  {object : List (String × Shape)}

/-- Objects inside the body have the same keys and types where they have the same signature. -/
def SignaturesTell (root : String) (body : Json) : Prop :=
  ∀ p ∈ placements root body, ∀ q ∈ placements root body,
    signature p.fields = signature q.fields → typing p.fields = typing q.fields

instance (root : String) (body : Json) : Decidable (SignaturesTell root body) :=
  inferInstanceAs (Decidable (∀ p ∈ placements root body, _))

/-- Classes have the fields of the objects that they were made for. -/
theorem Places.exists_placement (h : Places root classes ps later) :
    ∀ k ∈ later, k ∈ classes ∨ ∃ p ∈ ps, k.fields = p.fields := by
  induction h with
  | nil => exact fun k hk => .inl hk
  | @cons classes later p ps _ _ ih =>
    intro k hk
    rcases ih k hk with hk | ⟨q, hq, hfields⟩
    · rcases add_cases root p classes with ⟨-, heq⟩ | ⟨-, heq⟩
      · rw [heq] at hk
        exact .inl hk
      · rw [heq] at hk
        rcases List.mem_append.mp hk with hk | hk
        · exact .inl hk
        · obtain rfl := List.mem_singleton.mp hk
          exact .inr ⟨p, List.mem_cons_self, rfl⟩
    · exact .inr ⟨q, List.mem_cons_of_mem _ hq, hfields⟩

theorem exists_placement_of_nested (h : classesOf? root body = some (c, nested))
    (hk : k ∈ nested) : ∃ p ∈ placements root body, k.fields = p.fields := by
  rcases (places_placements h).exists_placement k hk with hk | hp
  · simp at hk
  · exact hp

/-- Where signatures tell keys and types, the class of an object has those of the object. -/
theorem exists_typing (h : classesOf? root body = some (c, nested))
    (hs : SignaturesTell root body) (hp : p ∈ placements root body) :
    ∃ k ∈ nested, k.name = p.given ∧ typing k.fields = typing p.fields := by
  obtain ⟨k, hk, hname, htext⟩ := (places_placements h).exists_standsFor p hp
  obtain ⟨q, hq, hfields⟩ := exists_placement_of_nested h hk
  rw [hfields] at htext
  exact ⟨k, hk, hname, by rw [hfields, hs q hq p hp htext]⟩

theorem keys_of_typing {xs ys : List JavaField} (h : typing xs = typing ys) :
    xs.map JavaField.key = ys.map JavaField.key := by
  have hkeys := congrArg (List.map Prod.fst) h
  simpa [typing, Function.comp_def] using hkeys

theorem objects_rootObject (h : rootObject? body = some object) :
    (Shape.ofJson body).objects = nestedObjects body ++ [object] := by
  rw [nestedObjects, h]
  unfold rootObject? at h
  split at h
  · rename_i fields hrecord
    obtain rfl := Option.some.inj h
    rw [hrecord]
    rfl
  · rename_i fields hlist
    obtain rfl := Option.some.inj h
    rw [hlist]
    rfl
  · cases h

/-- The keys inside a body are those of its outermost object and of the placed ones. -/
theorem hasKey_body (h : classesOf? root body = some (c, nested)) (key : String) :
    (Shape.ofJson body).HasKey key ↔ key ∈ c.fields.map JavaField.key ∨
      ∃ p ∈ placements root body, key ∈ p.fields.map JavaField.key := by
  obtain ⟨object, hobject, rfl, -⟩ := classesOf_eq_some_iff.mp h
  have hroot : (fieldsOf root [] [] object).1.map JavaField.key = object.map Prod.fst :=
    keys_fieldsOf root [] [] object
  have hkeys : ∀ p ∈ placements root body,
      p.fields.map JavaField.key = p.object.map Prod.fst := by
    intro p hp
    obtain ⟨_, hplaced⟩ := (places_placements h).isPlaced p hp
    exact hplaced.keys
  rw [hroot, Shape.HasKey, objects_rootObject hobject, ← map_object_placements root body]
  constructor
  · rintro ⟨fields, hfields, hkey⟩
    rcases List.mem_append.mp hfields with hfields | hfields
    · obtain ⟨p, hp, rfl⟩ := List.mem_map.mp hfields
      exact .inr ⟨p, hp, by rwa [hkeys p hp]⟩
    · obtain rfl := List.mem_singleton.mp hfields
      exact .inl hkey
  · rintro (hkey | ⟨p, hp, hkey⟩)
    · exact ⟨object, by simp, hkey⟩
    · rw [hkeys p hp] at hkey
      exact ⟨p.object, List.mem_append_left _ (List.mem_map_of_mem hp), hkey⟩

/-- Where signatures tell keys and types, the keys that have a field are those that count. -/
theorem exists_field_iff (h : classesOf? root body = some (c, nested))
    (hs : SignaturesTell root body) (key : String) :
    (∃ k ∈ c :: nested, ∃ f ∈ k.fields, f.key = key) ↔ KeyCounts body key := by
  rw [← tellsKeys body key, hasKey_body h]
  constructor
  · rintro ⟨k, hk, f, hf, rfl⟩
    rcases List.mem_cons.mp hk with rfl | hk
    · exact .inl (List.mem_map_of_mem hf)
    · obtain ⟨p, hp, hfields⟩ := exists_placement_of_nested h hk
      exact .inr ⟨p, hp, List.mem_map_of_mem (hfields ▸ hf)⟩
  · rintro (hkey | ⟨p, hp, hkey⟩)
    · obtain ⟨f, hf, rfl⟩ := List.mem_map.mp hkey
      exact ⟨c, List.mem_cons_self, f, hf, rfl⟩
    · obtain ⟨k, hk, -, htyping⟩ := exists_typing h hs hp
      rw [← keys_of_typing htyping] at hkey
      obtain ⟨f, hf, rfl⟩ := List.mem_map.mp hkey
      exact ⟨k, List.mem_cons_of_mem _ hk, f, hf, rfl⟩

/-- Every object inside a body has a field for each of its keys, unless it is passed over, or
overlooked with an array inside an array. No field has a key that only objects passed over have. -/
theorem keys_have_fields (h : source? root annotations body = some code)
    (hs : SignaturesTell root body) :
    ∃ c nested, classesOf? root body = some (c, nested) ∧ code = sourceOf annotations c nested ∧
      (∀ object, StandsIn (.obj object) body →
        Counts Decides body object ∨ IsPassedOver body object ∨ IsOverlooked body object) ∧
      (∀ object, Counts Decides body object → ∀ key ∈ object.map Prod.fst,
        ∃ k ∈ c :: nested, ∃ f ∈ k.fields, f.key = key) ∧
      (∀ k ∈ c :: nested, ∀ f ∈ k.fields,
        ∃ object, Counts IsOther body object ∧ f.key ∈ object.map Prod.fst) ∧
      ∀ object, Counts IsOther body object → StandsIn (.obj object) body := by
  obtain ⟨⟨c, nested⟩, hclasses, rfl⟩ := Option.map_eq_some_iff.mp h
  refine ⟨c, nested, hclasses, rfl, fun _ => counts_or_left_out, ?_, ?_, fun _ => Counts.standsIn⟩
  · intro object hcounts key hkey
    exact (exists_field_iff hclasses hs key).mpr ⟨object, hcounts, hkey⟩
  · intro k hk f hf
    obtain ⟨object, hcounts, hkey⟩ := (exists_field_iff hclasses hs f.key).mp ⟨k, hk, f, hf, rfl⟩
    exact ⟨object, hcounts.toOther, hkey⟩

/-- A body with a key that is null at first, with keys that look like fields, and with values that
are passed over. -/
def catalog : Json := .obj [
  ("items", .arr [
    .obj [("sku", .null), ("size", .obj [("width", .str "")])],
    .obj [("sku", .obj [("no:", .str ""), ("no:String;no", .str "")]),
      ("size", .obj [("height", .str "")])]]),
  ("more", .arr [.null, .arr [.obj [("a;", .null)]], .arr [.obj [("b", .null)]]])]

theorem catalog_keys_have_fields : ∃ code c nested,
    source? "Catalog" ["@Data"] catalog = some code ∧ code = sourceOf ["@Data"] c nested ∧
    SignaturesTell "Catalog" catalog ∧
    Counts Decides catalog [("no:", .str ""), ("no:String;no", .str "")] ∧
    ∀ key ∈ ["no:", "no:String;no"], ∃ k ∈ c :: nested, ∃ f ∈ k.fields, f.key = key := by
  have htell : SignaturesTell "Catalog" catalog := by decide +kernel
  have hroot : (rootObject? catalog).isSome = true := rfl
  obtain ⟨code, hcode⟩ := exists_source "Catalog" ["@Data"] hroot
  obtain ⟨c, nested, -, hsource, -, hfields, -, -⟩ := keys_have_fields hcode htell
  -- the first value of the key is null, so the second one decides its type
  have hcounts : Counts Decides catalog [("no:", .str ""), ("no:String;no", .str "")] :=
    .field List.mem_cons_self (@Counts.itemField _ _ _ "sku" _ rfl (.self _))
  exact ⟨code, c, nested, hcode, hsource, htell, hcounts, hfields _ hcounts⟩

/-- A body with a second object for a key in the objects of one array. -/
def passedOver : Json := .obj [
  ("a", .arr [.obj [("x", .obj [("b", .bool true)])], .obj [("x", .obj [("c", .bool true)])]])]

theorem passed_over_key_has_no_field : ∃ code c nested,
    source? "R" ["@Data"] passedOver = some code ∧ classesOf? "R" passedOver = some (c, nested) ∧
    SignaturesTell "R" passedOver ∧ StandsIn (.obj [("c", .bool true)]) passedOver ∧
    ∀ k ∈ c :: nested, ∀ f ∈ k.fields, f.key ≠ "c" := by
  have hknown : classesOf? "R" passedOver = some (⟨"R", [⟨"a", "a", "List<AItem>"⟩]⟩,
    [⟨"X", [⟨"b", "b", "Boolean"⟩]⟩, ⟨"AItem", [⟨"x", "x", "X"⟩]⟩]) := by decide +kernel
  have hroot : (rootObject? passedOver).isSome = true := rfl
  obtain ⟨code, hcode⟩ := exists_source "R" ["@Data"] hroot
  have hin : StandsIn (.obj [("c", .bool true)]) passedOver :=
    .field List.mem_cons_self
      (.item (List.mem_cons_of_mem _ List.mem_cons_self) (.field List.mem_cons_self .self))
  exact ⟨code, _, _, hcode, hknown, by decide +kernel, hin, by decide⟩

end CurlScribe.Pojo
