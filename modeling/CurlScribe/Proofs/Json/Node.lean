import CurlScribe.Json.Basic

/-! The parts of a JSON value in the order of its text, each with the steps that lead to it. -/
namespace CurlScribe.Json

/-- From brackets to what stands directly in them: an item by its place, a field by its key. -/
inductive Step where
  | item (index : Nat)
  | field (key : String)
deriving DecidableEq

namespace Step

def segment : Step → String
  | item index => toString index
  | field key => key

/-- An item has no name, and its place may change. -/
def name? : Step → Option String
  | item _ => none
  | field key => some key

end Step

/-- A part of a value: the value itself, or something inside it at any depth. -/
structure Node where
  steps : List Step
  value : Json

namespace Node

/-- Keys of objects and places in arrays. -/
def segments (n : Node) : List String := n.steps.map Step.segment

/-- Keys of objects; the items on the way are told but not numbered. -/
def names (n : Node) : List (Option String) := n.steps.map Step.name?

end Node

mutual

/-- The parts of a value that itself is at `steps`. Brackets come before what they hold. -/
def nodesAt (steps : List Step) : Json → List Node
  | arr items => ⟨steps, arr items⟩ :: itemNodes steps 0 items
  | obj fields => ⟨steps, obj fields⟩ :: fieldNodes steps fields
  | v => [⟨steps, v⟩]

def itemNodes (steps : List Step) (index : Nat) : List Json → List Node
  | [] => []
  | v :: rest => nodesAt (steps ++ [.item index]) v ++ itemNodes steps (index + 1) rest

def fieldNodes (steps : List Step) : List (String × Json) → List Node
  | [] => []
  | (key, v) :: rest => nodesAt (steps ++ [.field key]) v ++ fieldNodes steps rest

end

def nodes (v : Json) : List Node := nodesAt [] v

/-- Neither an array nor an object. -/
def isLeaf : Json → Bool
  | arr _ | obj _ => false
  | _ => true

variable {v : Json} {fields : List (String × Json)} {steps s t p : List Step} {n : Node}

theorem names_concat (hst : s.map Step.name? = t.map Step.name?) {x y : Step}
    (hxy : x.name? = y.name?) : (s ++ [x]).map Step.name? = (t ++ [y]).map Step.name? := by
  rw [List.map_append, List.map_append, hst, List.map_singleton, List.map_singleton, hxy]

theorem nodesAt_of_isLeaf (hv : v.isLeaf = true) (steps : List Step) :
    nodesAt steps v = [⟨steps, v⟩] := by
  cases v with
  | arr _ | obj _ => exact absurd hv Bool.false_ne_true
  | null | bool _ | num _ | str _ => rfl

/-- A value is the first of its parts. -/
theorem nodesAt_eq_cons (steps : List Step) (v : Json) :
    nodesAt steps v = ⟨steps, v⟩ :: (nodesAt steps v).tail := by
  cases v <;> rfl

/-! Whatever stands inside a value has the steps of the value in front, and one step more. -/

mutual

theorem isPrefix_of_mem {steps : List Step} {n : Node} :
    ∀ {v : Json}, n ∈ nodesAt steps v → steps <+: n.steps
  | null, h | bool _, h | num _, h | str _, h => by
    obtain rfl := List.mem_singleton.mp h
    exact List.prefix_refl _
  | arr items, h => by
    rcases List.mem_cons.mp h with rfl | h
    · exact List.prefix_refl _
    · obtain ⟨x, hx⟩ := exists_step_of_mem_items 0 h
      exact (List.prefix_append _ _).trans hx
  | obj fields, h => by
    rcases List.mem_cons.mp h with rfl | h
    · exact List.prefix_refl _
    · obtain ⟨x, hx⟩ := exists_step_of_mem_fields h
      exact (List.prefix_append _ _).trans hx

theorem exists_step_of_mem_items {steps : List Step} {n : Node} (index : Nat) :
    ∀ {items : List Json}, n ∈ itemNodes steps index items → ∃ x, steps ++ [x] <+: n.steps
  | [], h => by simp [itemNodes] at h
  | v :: rest, h => by
    rw [itemNodes] at h
    rcases List.mem_append.mp h with h | h
    · exact ⟨_, isPrefix_of_mem h⟩
    · exact exists_step_of_mem_items (index + 1) h

theorem exists_step_of_mem_fields {steps : List Step} {n : Node} :
    ∀ {fields : List (String × Json)}, n ∈ fieldNodes steps fields →
      ∃ x, steps ++ [x] <+: n.steps
  | [], h => by simp [fieldNodes] at h
  | (key, v) :: rest, h => by
    rw [fieldNodes] at h
    rcases List.mem_append.mp h with h | h
    · exact ⟨_, isPrefix_of_mem h⟩
    · exact exists_step_of_mem_fields h

end

theorem exists_step_of_mem_tail (h : n ∈ (nodesAt steps v).tail) :
    ∃ x, steps ++ [x] <+: n.steps := by
  cases v with
  | arr items => exact exists_step_of_mem_items 0 h
  | obj fields => exact exists_step_of_mem_fields h
  | _ => simp [nodesAt] at h

theorem mem_fieldNodes {e : String × Json} (he : e ∈ fields)
    (h : n ∈ nodesAt (steps ++ [.field e.1]) e.2) : n ∈ fieldNodes steps fields := by
  induction fields with
  | nil => simp at he
  | cons f rest ih =>
    rw [fieldNodes]
    rcases List.mem_cons.mp he with rfl | he
    · exact List.mem_append_left _ h
    · exact List.mem_append_right _ (ih he)

theorem exists_of_mem_fieldNodes (h : n ∈ fieldNodes steps fields) :
    ∃ e ∈ fields, n ∈ nodesAt (steps ++ [.field e.1]) e.2 := by
  induction fields with
  | nil => simp [fieldNodes] at h
  | cons e rest ih =>
    rw [fieldNodes] at h
    rcases List.mem_append.mp h with h | h
    · exact ⟨e, by simp, h⟩
    · obtain ⟨f, hf, hn⟩ := ih h
      exact ⟨f, by simp [hf], hn⟩

/-- A step further on the way to a part. -/
theorem further_prefix {steps p q : List Step} {x : Step} (hne : p ≠ steps) (hs : steps <+: p)
    (hx : steps ++ [x] <+: q) (hp : p <+: q) : steps ++ [x] <+: p := by
  refine List.prefix_of_prefix_length_le hx hp ?_
  have hlt : steps.length ≠ p.length := fun he => hne (hs.eq_of_length he).symm
  have hle := hs.length_le
  simp only [List.length_append, List.length_singleton]
  omega

/-- What leads to the only part there is. -/
theorem exists_of_mem_single {v : Json} (hs : steps <+: p) (hp : p <+: n.steps)
    (h : n ∈ [⟨steps, v⟩]) : ∃ c ∈ [(⟨steps, v⟩ : Node)], c.steps = p := by
  obtain rfl := List.mem_singleton.mp h
  exact ⟨_, h, hs.eq_of_length_le hp.length_le⟩

/-! What leads to a part stands in the value as well. -/

mutual

theorem exists_of_prefix {steps p : List Step} {n : Node} (hs : steps <+: p)
    (hp : p <+: n.steps) : ∀ {v : Json}, n ∈ nodesAt steps v → ∃ c ∈ nodesAt steps v, c.steps = p
  | null, h | bool _, h | num _, h | str _, h => exists_of_mem_single hs hp h
  | arr items, h => by
    by_cases hne : p = steps
    · exact ⟨⟨steps, arr items⟩, by simp [nodesAt], hne.symm⟩
    · rw [nodesAt] at h ⊢
      rcases List.mem_cons.mp h with rfl | h
      · exact absurd (hp.eq_of_length_le hs.length_le) hne
      · obtain ⟨c, hc, he⟩ := exists_of_prefix_items hs hne hp 0 h
        exact ⟨c, List.mem_cons_of_mem _ hc, he⟩
  | obj fields, h => by
    by_cases hne : p = steps
    · exact ⟨⟨steps, obj fields⟩, by simp [nodesAt], hne.symm⟩
    · rw [nodesAt] at h ⊢
      rcases List.mem_cons.mp h with rfl | h
      · exact absurd (hp.eq_of_length_le hs.length_le) hne
      · obtain ⟨c, hc, he⟩ := exists_of_prefix_fields hs hne hp h
        exact ⟨c, List.mem_cons_of_mem _ hc, he⟩

theorem exists_of_prefix_items {steps p : List Step} {n : Node} (hs : steps <+: p)
    (hne : p ≠ steps) (hp : p <+: n.steps) (index : Nat) : ∀ {items : List Json},
    n ∈ itemNodes steps index items → ∃ c ∈ itemNodes steps index items, c.steps = p
  | [], h => by simp [itemNodes] at h
  | v :: rest, h => by
    rw [itemNodes] at h ⊢
    rcases List.mem_append.mp h with h | h
    · have hx := further_prefix hne hs (isPrefix_of_mem h) hp
      obtain ⟨c, hc, he⟩ := exists_of_prefix hx hp h
      exact ⟨c, List.mem_append_left _ hc, he⟩
    · obtain ⟨c, hc, he⟩ := exists_of_prefix_items hs hne hp (index + 1) h
      exact ⟨c, List.mem_append_right _ hc, he⟩

theorem exists_of_prefix_fields {steps p : List Step} {n : Node} (hs : steps <+: p)
    (hne : p ≠ steps) (hp : p <+: n.steps) : ∀ {fields : List (String × Json)},
    n ∈ fieldNodes steps fields → ∃ c ∈ fieldNodes steps fields, c.steps = p
  | [], h => by simp [fieldNodes] at h
  | (key, v) :: rest, h => by
    rw [fieldNodes] at h ⊢
    rcases List.mem_append.mp h with h | h
    · have hx := further_prefix hne hs (isPrefix_of_mem h) hp
      obtain ⟨c, hc, he⟩ := exists_of_prefix hx hp h
      exact ⟨c, List.mem_append_left _ hc, he⟩
    · obtain ⟨c, hc, he⟩ := exists_of_prefix_fields hs hne hp h
      exact ⟨c, List.mem_append_right _ hc, he⟩

end

end CurlScribe.Json
