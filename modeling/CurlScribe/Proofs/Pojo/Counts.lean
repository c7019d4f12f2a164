import CurlScribe.Json.Basic

/-! The objects of a body whose keys are looked at. Where the objects of one array are made one, a
value is passed over if another one decides the type of its key. -/
namespace CurlScribe

variable {α β : Type} {name key : String}

/-! The first value of a key. -/

/-- The first value of a key that is known. -/
def first? (known : α → Bool) (es : List (String × α)) (key : String) : Option α :=
  (es.find? fun e => e.1 == key && known e.2).map Prod.snd

section First

variable {known : α → Bool} {es : List (String × α)} {a : α}

theorem first_nil (known : α → Bool) (key : String) : first? known [] key = none := rfl

theorem first_append (known : α → Bool) (es fs : List (String × α)) (key : String) :
    first? known (es ++ fs) key = (first? known es key).or (first? known fs key) := by
  rw [first?, List.find?_append, Option.map_or]
  rfl

theorem first_cons (known : α → Bool) (k : String) (a : α) (es : List (String × α)) (key : String) :
    first? known ((k, a) :: es) key =
      if k = key ∧ known a = true then some a else first? known es key := by
  by_cases h : k = key ∧ known a = true
  · rw [first?, List.find?_cons_of_pos (by simpa using h), if_pos h]
    rfl
  · rw [first?, List.find?_cons_of_neg (by simpa using h), if_neg h]
    rfl

theorem first_eq_none (h : key ∉ es.map Prod.fst) : first? known es key = none := by
  rw [first?, Option.map_eq_none_iff, List.find?_eq_none]
  intro e he hsame
  simp only [Bool.and_eq_true, beq_iff_eq] at hsame
  exact h (List.mem_map.mpr ⟨e, he, hsame.1⟩)

theorem first_map {f : α → β} {told : β → Bool} (h : ∀ a, told (f a) = known a)
    (es : List (String × α)) (key : String) :
    first? told (es.map fun e => (e.1, f e.2)) key = (first? known es key).map f := by
  induction es with
  | nil => rfl
  | cons e es ih =>
    obtain ⟨k, a⟩ := e
    rw [List.map_cons, first_cons, first_cons, ih, h]
    split <;> rfl

theorem mem_of_first (h : first? known es key = some a) : (key, a) ∈ es ∧ known a = true := by
  obtain ⟨⟨k, b⟩, hfound, rfl⟩ := Option.map_eq_some_iff.mp h
  have hsame := List.find?_some hfound
  simp only [Bool.and_eq_true, beq_iff_eq] at hsame
  obtain ⟨rfl, hsays⟩ := hsame
  exact ⟨List.mem_of_find?_eq_some hfound, hsays⟩

theorem exists_first (h : (key, a) ∈ es) (hs : known a = true) :
    ∃ b, first? known es key = some b := by
  cases hfirst : first? known es key with
  | some b => exact ⟨b, rfl⟩
  | none =>
    rw [first?, Option.map_eq_none_iff, List.find?_eq_none] at hfirst
    exact absurd (by simp [hs]) (hfirst (key, a) h)

theorem first_of_mem (hn : (es.map Prod.fst).Nodup) (h : (key, a) ∈ es) (hs : known a = true) :
    first? known es key = some a := by
  induction es with
  | nil => simp at h
  | cons e es ih =>
    obtain ⟨k, b⟩ := e
    obtain ⟨hnew, hn⟩ := List.nodup_cons.mp hn
    rw [first_cons]
    rcases List.mem_cons.mp h with heq | h
    · obtain ⟨rfl, rfl⟩ := Prod.mk.inj heq
      rw [if_pos ⟨rfl, hs⟩]
    · have hother : k ≠ key := by
        rintro rfl
        exact hnew (List.mem_map.mpr ⟨_, h, rfl⟩)
      rw [if_neg fun hk => hother hk.1]
      exact ih hn h

end First

namespace Pojo

/-! Objects that count. -/

/-- Null tells no type. -/
def tellsType : Json → Bool
  | .null => false
  | _ => true

def object? : Json → Option (List (String × Json))
  | .obj object => some object
  | _ => none

/-- The objects among the items of an array. -/
def itemObjects (items : List Json) : List (List (String × Json)) := items.filterMap object?

/-- An object counts unless it is passed over. Among the objects of one array, the first value of a
key that is not null decides the type, and all others are passed over. Which items beside objects
are looked into is told by `other`. -/
inductive Counts (other : List Json → Json → Prop) : Json → List (String × Json) → Prop
  | self (object : List (String × Json)) : Counts other (.obj object) object
  | field {object inner : List (String × Json)} {key : String} {v : Json} :
      (key, v) ∈ object → Counts other v inner → Counts other (.obj object) inner
  | item {items : List Json} {object : List (String × Json)} :
      object ∈ itemObjects items → Counts other (.arr items) object
  | itemField {items : List Json} {inner : List (String × Json)} {key : String} {v : Json} :
      first? tellsType (itemObjects items).flatten key = some v → Counts other v inner →
        Counts other (.arr items) inner
  | otherItem {items : List Json} {inner : List (String × Json)} {v : Json} :
      other items v → Counts other v inner → Counts other (.arr items) inner

/-- In an array without objects, the first item that is not null decides the type. -/
def Decides (items : List Json) (v : Json) : Prop :=
  itemObjects items = [] ∧ items.find? tellsType = some v

def IsOther (items : List Json) (v : Json) : Prop := v ∈ items ∧ object? v = none

/-- A value is another one, or stands in it at any depth. -/
inductive StandsIn (w : Json) : Json → Prop
  | self : StandsIn w w
  | item {items : List Json} {v : Json} : v ∈ items → StandsIn w v → StandsIn w (.arr items)
  | field {object : List (String × Json)} {key : String} {v : Json} :
      (key, v) ∈ object → StandsIn w v → StandsIn w (.obj object)

/-- The object stands in a value that is passed over: in the objects of one array, another value is
the first of its key that is not null. -/
def IsPassedOver (body : Json) (object : List (String × Json)) : Prop :=
  ∃ items key v w, StandsIn (.arr items) body ∧ (key, v) ∈ (itemObjects items).flatten ∧
    first? tellsType (itemObjects items).flatten key = some w ∧ w ≠ v ∧
    StandsIn (.obj object) v

/-- The object stands in an array that is an item itself, but does not decide the type of items. -/
def IsOverlooked (body : Json) (object : List (String × Json)) : Prop :=
  ∃ items inner, StandsIn (.arr items) body ∧ Json.arr inner ∈ items ∧
    ¬ Decides items (.arr inner) ∧ StandsIn (.obj object) (.arr inner)

section StandsIn

variable {items : List Json} {object : List (String × Json)} {u v w : Json}

theorem StandsIn.trans (hu : StandsIn u v) (hv : StandsIn v w) : StandsIn u w := by
  induction hv with
  | self => exact hu
  | item hmem _ ih => exact .item hmem ih
  | field hmem _ ih => exact .field hmem ih

theorem left_out_trans (h : IsPassedOver v object ∨ IsOverlooked v object) (hv : StandsIn v w) :
    IsPassedOver w object ∨ IsOverlooked w object := by
  rcases h with ⟨items, key, x, y, hin, hpassed⟩ | ⟨items, inner, hin, hover⟩
  · exact .inl ⟨items, key, x, y, hin.trans hv, hpassed⟩
  · exact .inr ⟨items, inner, hin.trans hv, hover⟩

theorem Decides.isOther (h : Decides items v) : IsOther items v := by
  have hmem := List.mem_of_find?_eq_some h.2
  exact ⟨hmem, List.filterMap_eq_nil_iff.mp h.1 v hmem⟩

theorem mem_itemObjects : object ∈ itemObjects items ↔ Json.obj object ∈ items := by
  rw [itemObjects, List.mem_filterMap]
  constructor
  · rintro ⟨v, hv, hobject⟩
    cases v with
    | obj fields =>
      obtain rfl := Option.some.inj hobject
      exact hv
    | null | bool _ | num _ | str _ | arr _ => cases hobject
  · intro h
    exact ⟨_, h, rfl⟩

theorem Counts.toOther (h : Counts Decides v object) : Counts IsOther v object := by
  induction h with
  | self object => exact .self object
  | field hmem _ ih => exact .field hmem ih
  | item hobject => exact .item hobject
  | itemField hfirst _ ih => exact .itemField hfirst ih
  | otherItem hdecides _ ih => exact .otherItem hdecides.isOther ih

theorem Counts.tellsType (h : Counts Decides v object) : tellsType v = true := by
  cases h <;> rfl

theorem Counts.standsIn (h : Counts IsOther v object) : StandsIn (.obj object) v := by
  induction h with
  | self object => exact .self
  | field hmem _ ih => exact .field hmem ih
  | item hobject => exact .item (mem_itemObjects.mp hobject) .self
  | itemField hfirst _ ih =>
    obtain ⟨fields, hfields, hmem⟩ := List.mem_flatten.mp (mem_of_first hfirst).1
    exact .item (mem_itemObjects.mp hfields) (.field hmem ih)
  | otherItem hother _ ih => exact .item hother.1 ih

/-- What counts in an item counts in the array, unless the array has a reason to leave it out. -/
theorem Counts.in_array (hv : v ∈ items) (h : Counts Decides v object) :
    Counts Decides (.arr items) object ∨ IsPassedOver (.arr items) object ∨
      IsOverlooked (.arr items) object := by
  have hin : StandsIn (.obj object) v := h.toOther.standsIn
  cases v with
  | null | bool _ | num _ | str _ => cases h
  | arr inner =>
    by_cases hdecides : Decides items (.arr inner)
    · exact .inl (.otherItem hdecides h)
    · exact .inr (.inr ⟨items, inner, .self, hv, hdecides, hin⟩)
  | obj fields =>
    have hitem : fields ∈ itemObjects items := mem_itemObjects.mpr hv
    cases h with
    | self => exact .inl (.item hitem)
    | @field _ _ key u he hinner =>
      have hmem : (key, u) ∈ (itemObjects items).flatten := List.mem_flatten_of_mem hitem he
      obtain ⟨w, hfirst⟩ := exists_first hmem hinner.tellsType
      by_cases hsame : w = u
      · subst hsame
        exact .inl (.itemField hfirst hinner)
      · have hu : StandsIn (.obj object) u := hinner.toOther.standsIn
        exact .inr (.inl ⟨items, key, u, w, .self, hmem, hfirst, hsame, hu⟩)

/-- No object is left out without a reason. -/
theorem counts_or_left_out (h : StandsIn (.obj object) v) :
    Counts Decides v object ∨ IsPassedOver v object ∨ IsOverlooked v object := by
  induction h with
  | self => exact .inl (.self object)
  | item hv _ ih =>
    rcases ih with hcounts | hout
    · exact hcounts.in_array hv
    · exact .inr (left_out_trans hout (.item hv .self))
  | field hmem _ ih =>
    rcases ih with hcounts | hout
    · exact .inl (.field hmem hcounts)
    · exact .inr (left_out_trans hout (.field hmem .self))

end StandsIn

end Pojo

end CurlScribe
