import CurlScribe.Proofs.Json.Node
import CurlScribe.Proofs.Json.Restore

/-! Pruning takes away what says nothing at every depth, and keeps everything else in its order and
under its names. -/
namespace CurlScribe.Json

variable {v w : Json} {items : List Json} {fields : List (String × Json)}

/-- A number, true, or text that is not empty. -/
def speaks : Json → Bool
  | bool b => b
  | num _ => true
  | str s => s != ""
  | _ => false

/-- Null, false, empty text, an empty array or an empty object. -/
def isHollow : Json → Bool
  | null => true
  | bool b => !b
  | num _ => false
  | str s => s == ""
  | arr items => items.isEmpty
  | obj fields => fields.isEmpty

namespace Node

def isSpoken (n : Node) : Bool := n.value.speaks

def isLeaf (n : Node) : Bool := n.value.isLeaf

def isHollow (n : Node) : Bool := n.value.isHollow

/-- The part with the names on the way to it. -/
def named (n : Node) : List (Option String) × Json := (n.names, n.value)

end Node

/-- Some of the parts in their order, with the names on the way to each. -/
def namedWhere (p : Node → Bool) (ns : List Node) : List (List (Option String) × Json) :=
  (ns.filter p).map Node.named

def leaves (v : Json) : List (List (Option String) × Json) := namedWhere Node.isLeaf v.nodes

/-- The numbers, trues and texts that are not empty. -/
def spoken (v : Json) : List (List (Option String) × Json) := namedWhere Node.isSpoken v.nodes

theorem prune_arr (items : List Json) : prune? (arr items) =
    if pruneItems items = [] then none else some (arr (pruneItems items)) := by
  rw [prune?]
  split <;> simp_all

theorem prune_obj (fields : List (String × Json)) : prune? (obj fields) =
    if pruneFields fields = [] then none else some (obj (pruneFields fields)) := by
  rw [prune?]
  split <;> simp_all

theorem prune_bool_eq_some {b : Bool} (h : prune? (bool b) = some w) :
    b = true ∧ bool true = w := by
  cases b with
  | false => simp [prune?] at h
  | true => exact ⟨rfl, by simpa [prune?] using h⟩

theorem prune_str_eq_some {s : String} (h : prune? (str s) = some w) : s ≠ "" ∧ str s = w := by
  rw [prune?] at h
  split at h <;> simp_all

theorem prune_arr_eq_some (h : prune? (arr items) = some w) :
    pruneItems items ≠ [] ∧ arr (pruneItems items) = w := by
  rw [prune_arr] at h
  split at h <;> simp_all

theorem prune_obj_eq_some (h : prune? (obj fields) = some w) :
    pruneFields fields ≠ [] ∧ obj (pruneFields fields) = w := by
  rw [prune_obj] at h
  split at h <;> simp_all

/-! A value goes as a whole where nothing in it speaks. -/

mutual

theorem prune_eq_none_iff (steps : List Step) :
    ∀ v : Json, prune? v = none ↔ ∀ n ∈ nodesAt steps v, n.isSpoken = false
  | null => by simp [prune?, nodesAt, Node.isSpoken, speaks]
  | bool b => by cases b <;> simp [prune?, nodesAt, Node.isSpoken, speaks]
  | num _ => by simp [prune?, nodesAt, Node.isSpoken, speaks]
  | str _ => by simp [prune?, nodesAt, Node.isSpoken, speaks]
  | arr items => by
    have hspeaks : Node.isSpoken ⟨steps, arr items⟩ = false := rfl
    have hitems := pruneItems_eq_nil steps 0 items
    rw [nodesAt, List.forall_mem_cons, ← hitems, prune_arr]
    split <;> simp_all
  | obj fields => by
    have hspeaks : Node.isSpoken ⟨steps, obj fields⟩ = false := rfl
    have hfields := pruneFields_eq_nil steps fields
    rw [nodesAt, List.forall_mem_cons, ← hfields, prune_obj]
    split <;> simp_all

theorem pruneItems_eq_nil (steps : List Step) (index : Nat) :
    ∀ items : List Json, pruneItems items = [] ↔
      ∀ n ∈ itemNodes steps index items, n.isSpoken = false
  | [] => by simp [pruneItems, itemNodes]
  | v :: rest => by
    have hv := prune_eq_none_iff (steps ++ [.item index]) v
    have hrest := pruneItems_eq_nil steps (index + 1) rest
    rw [itemNodes, List.forall_mem_append, ← hv, ← hrest]
    cases hp : prune? v <;> simp [pruneItems, hp]

theorem pruneFields_eq_nil (steps : List Step) :
    ∀ fields : List (String × Json), pruneFields fields = [] ↔
      ∀ n ∈ fieldNodes steps fields, n.isSpoken = false
  | [] => by simp [pruneFields, fieldNodes]
  | (key, v) :: rest => by
    have hv := prune_eq_none_iff (steps ++ [.field key]) v
    have hrest := pruneFields_eq_nil steps rest
    rw [fieldNodes, List.forall_mem_append, ← hv, ← hrest]
    cases hp : prune? v <;> simp [pruneFields, hp]

end

/-! Nothing hollow is left. -/

mutual

theorem not_isHollow_of_prune (steps : List Step) :
    ∀ {v w : Json}, prune? v = some w → ∀ n ∈ nodesAt steps w, n.isHollow = false
  | null, _, h => by simp [prune?] at h
  | bool b, w, h => by
    obtain ⟨rfl, rfl⟩ := prune_bool_eq_some h
    simp [nodesAt, Node.isHollow, isHollow]
  | num _, w, h => by
    simp only [prune?, Option.some.injEq] at h
    simp [← h, nodesAt, Node.isHollow, isHollow]
  | str s, w, h => by
    obtain ⟨hs, rfl⟩ := prune_str_eq_some h
    simpa [nodesAt, Node.isHollow, isHollow] using hs
  | arr items, w, h => by
    obtain ⟨hne, rfl⟩ := prune_arr_eq_some h
    rw [nodesAt, List.forall_mem_cons]
    exact ⟨by simpa [Node.isHollow, isHollow] using hne, not_isHollow_items steps 0 items⟩
  | obj fields, w, h => by
    obtain ⟨hne, rfl⟩ := prune_obj_eq_some h
    rw [nodesAt, List.forall_mem_cons]
    exact ⟨by simpa [Node.isHollow, isHollow] using hne, not_isHollow_fields steps fields⟩

theorem not_isHollow_items (steps : List Step) (index : Nat) :
    ∀ items : List Json, ∀ n ∈ itemNodes steps index (pruneItems items), n.isHollow = false
  | [] => by simp [pruneItems, itemNodes]
  | v :: rest => by
    cases hp : prune? v with
    | none =>
      rw [pruneItems, hp]
      exact not_isHollow_items steps index rest
    | some w =>
      rw [pruneItems, hp, itemNodes, List.forall_mem_append]
      exact ⟨not_isHollow_of_prune _ hp, not_isHollow_items steps (index + 1) rest⟩

theorem not_isHollow_fields (steps : List Step) :
    ∀ fields : List (String × Json), ∀ n ∈ fieldNodes steps (pruneFields fields),
      n.isHollow = false
  | [] => by simp [pruneFields, fieldNodes]
  | (key, v) :: rest => by
    cases hp : prune? v with
    | none =>
      rw [pruneFields, hp]
      exact not_isHollow_fields steps rest
    | some w =>
      rw [pruneFields, hp, fieldNodes, List.forall_mem_append]
      exact ⟨not_isHollow_of_prune _ hp, not_isHollow_fields steps rest⟩

end

/-! Where nothing is hollow there is nothing to take away. -/

mutual

theorem prune_of_not_isHollow (steps : List Step) :
    ∀ {v : Json}, (∀ n ∈ nodesAt steps v, n.isHollow = false) → prune? v = some v
  | null, h => by simp [nodesAt, Node.isHollow, isHollow] at h
  | bool b, h => by
    obtain rfl : b = true := by simpa [nodesAt, Node.isHollow, isHollow] using h
    rfl
  | num _, _ => rfl
  | str s, h => by
    have hs : s ≠ "" := by simpa [nodesAt, Node.isHollow, isHollow] using h
    simp [prune?, hs]
  | arr items, h => by
    rw [nodesAt, List.forall_mem_cons] at h
    have hne : items ≠ [] := by simpa [Node.isHollow, isHollow] using h.1
    have hi := pruneItems_of_not_isHollow steps 0 h.2
    rw [prune_arr, hi, if_neg hne]
  | obj fields, h => by
    rw [nodesAt, List.forall_mem_cons] at h
    have hne : fields ≠ [] := by simpa [Node.isHollow, isHollow] using h.1
    have hf := pruneFields_of_not_isHollow steps h.2
    rw [prune_obj, hf, if_neg hne]

theorem pruneItems_of_not_isHollow (steps : List Step) (index : Nat) :
    ∀ {items : List Json}, (∀ n ∈ itemNodes steps index items, n.isHollow = false) →
      pruneItems items = items
  | [], _ => rfl
  | v :: rest, h => by
    rw [itemNodes, List.forall_mem_append] at h
    rw [pruneItems, prune_of_not_isHollow _ h.1]
    exact congrArg (v :: ·) (pruneItems_of_not_isHollow steps (index + 1) h.2)

theorem pruneFields_of_not_isHollow (steps : List Step) :
    ∀ {fields : List (String × Json)}, (∀ n ∈ fieldNodes steps fields, n.isHollow = false) →
      pruneFields fields = fields
  | [], _ => rfl
  | (key, v) :: rest, h => by
    rw [fieldNodes, List.forall_mem_append] at h
    rw [pruneFields, prune_of_not_isHollow _ h.1]
    exact congrArg ((key, v) :: ·) (pruneFields_of_not_isHollow steps h.2)

end

/-! The leaves of what is left are the parts that spoke. Items may have moved up, so the two sides
have steps of the same names. -/

theorem namedWhere_append (p : Node → Bool) (ns ms : List Node) :
    namedWhere p (ns ++ ms) = namedWhere p ns ++ namedWhere p ms := by
  simp [namedWhere]

theorem namedWhere_cons_of_not {p : Node → Bool} {n : Node} (h : p n = false) (ns : List Node) :
    namedWhere p (n :: ns) = namedWhere p ns := by
  simp [namedWhere, h]

/-- A leaf that speaks stays a leaf. -/
theorem namedWhere_single {s t : List Step} (hst : s.map Step.name? = t.map Step.name?)
    (hl : Node.isLeaf ⟨t, v⟩ = true) (hs : Node.isSpoken ⟨s, v⟩ = true) :
    namedWhere Node.isLeaf [⟨t, v⟩] = namedWhere Node.isSpoken [⟨s, v⟩] := by
  rw [namedWhere, List.filter_cons_of_pos hl, namedWhere, List.filter_cons_of_pos hs]
  simp [Node.named, Node.names, hst]

theorem namedWhere_eq_nil {p : Node → Bool} {ns : List Node} (h : ∀ n ∈ ns, p n = false) :
    namedWhere p ns = [] := by
  simpa [namedWhere] using h

mutual

theorem leaves_of_prune {s t : List Step} (hst : s.map Step.name? = t.map Step.name?) :
    ∀ {v w : Json}, prune? v = some w →
      namedWhere Node.isLeaf (nodesAt t w) = namedWhere Node.isSpoken (nodesAt s v)
  | null, _, h => by simp [prune?] at h
  | bool b, w, h => by
    obtain ⟨rfl, rfl⟩ := prune_bool_eq_some h
    exact namedWhere_single hst rfl rfl
  | num n, w, h => by
    obtain rfl : num n = w := by simpa [prune?] using h
    exact namedWhere_single hst rfl rfl
  | str x, w, h => by
    obtain ⟨hx, rfl⟩ := prune_str_eq_some h
    exact namedWhere_single hst rfl (by simpa [Node.isSpoken, speaks] using hx)
  | arr items, w, h => by
    obtain ⟨hne, rfl⟩ := prune_arr_eq_some h
    rw [nodesAt, nodesAt, namedWhere_cons_of_not rfl, namedWhere_cons_of_not rfl]
    exact leaves_of_items hst 0 0 items
  | obj fields, w, h => by
    obtain ⟨hne, rfl⟩ := prune_obj_eq_some h
    rw [nodesAt, nodesAt, namedWhere_cons_of_not rfl, namedWhere_cons_of_not rfl]
    exact leaves_of_fields hst fields

theorem leaves_of_items {s t : List Step} (hst : s.map Step.name? = t.map Step.name?) (i j : Nat) :
    ∀ items : List Json, namedWhere Node.isLeaf (itemNodes t j (pruneItems items)) =
      namedWhere Node.isSpoken (itemNodes s i items)
  | [] => rfl
  | v :: rest => by
    have hstep := names_concat hst (x := .item i) (y := .item j) rfl
    rw [itemNodes, namedWhere_append]
    cases hp : prune? v with
    | none =>
      rw [pruneItems, hp, namedWhere_eq_nil ((prune_eq_none_iff _ v).mp hp)]
      exact leaves_of_items hst (i + 1) j rest
    | some w =>
      rw [pruneItems, hp, itemNodes, namedWhere_append, leaves_of_prune hstep hp,
        leaves_of_items hst (i + 1) (j + 1) rest]

theorem leaves_of_fields {s t : List Step} (hst : s.map Step.name? = t.map Step.name?) :
    ∀ fields : List (String × Json), namedWhere Node.isLeaf (fieldNodes t (pruneFields fields)) =
      namedWhere Node.isSpoken (fieldNodes s fields)
  | [] => rfl
  | (key, v) :: rest => by
    have hstep := names_concat hst (x := .field key) rfl
    rw [fieldNodes, namedWhere_append]
    cases hp : prune? v with
    | none =>
      rw [pruneFields, hp, namedWhere_eq_nil ((prune_eq_none_iff _ v).mp hp)]
      exact leaves_of_fields hst rest
    | some w =>
      rw [pruneFields, hp, fieldNodes, namedWhere_append, leaves_of_prune hstep hp,
        leaves_of_fields hst rest]

end

/-- A value goes as a whole exactly where nothing in it speaks. What is left otherwise has nothing
hollow in it, its leaves are what spoke, and it is left as it is when it is pruned again. -/
theorem prune_keeps_what_speaks (v : Json) :
    (prune? v = none ↔ ∀ n ∈ v.nodes, n.isSpoken = false) ∧
      ∀ w, prune? v = some w →
        (∀ n ∈ w.nodes, n.isHollow = false) ∧ w.leaves = v.spoken ∧ prune? w = some w := by
  refine ⟨prune_eq_none_iff [] v, fun w hw => ?_⟩
  have hollow : ∀ n ∈ w.nodes, n.isHollow = false := not_isHollow_of_prune [] hw
  have hleaves : w.leaves = v.spoken := leaves_of_prune rfl hw
  exact ⟨hollow, hleaves, prune_of_not_isHollow [] hollow⟩

/-- An empty text between two parts that speak. -/
theorem mixed_keeps_what_speaks :
    let v := obj [("a", arr [bool false, str "x", str ""]), ("b", null), ("c", bool true)]
    let w := obj [("a", arr [str "x"]), ("c", bool true)]
    prune? v = some w ∧
      (∀ n ∈ w.nodes, n.isHollow = false) ∧ w.leaves = v.spoken ∧ prune? w = some w :=
  ⟨rfl, (prune_keeps_what_speaks _).2 _ rfl⟩

end CurlScribe.Json
