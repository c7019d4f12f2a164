import CurlScribe.Proofs.Json.Node

/-! The outline of a JSON value: its parts in order, each without what it holds. A value is
determined by its outline, though the places of items are not told. -/
namespace CurlScribe.Json

/-- What a part is, apart from what it holds. -/
inductive Head where
  | null
  | bool (b : Bool)
  | num (n : Number)
  | str (s : String)
  | arr
  | obj
deriving DecidableEq

def head : Json → Head
  | null => .null
  | bool b => .bool b
  | num n => .num n
  | str s => .str s
  | arr _ => .arr
  | obj _ => .obj

/-- A part without what it holds, and the names on the way to it. -/
def Node.entry (n : Node) : List (Option String) × Head := (n.names, n.value.head)

def entries (ns : List Node) : List (List (Option String) × Head) := ns.map Node.entry

def outline (v : Json) : List (List (Option String) × Head) := entries v.nodes

variable {v w : Json} {s t : List Step}

theorem entries_append (ns ms : List Node) : entries (ns ++ ms) = entries ns ++ entries ms :=
  List.map_append

theorem entry_eq (hst : s.map Step.name? = t.map Step.name?) (hw : w.head = v.head) :
    Node.entry ⟨t, w⟩ = Node.entry ⟨s, v⟩ := by
  simp [Node.entry, Node.names, hst, hw]

theorem eq_of_head (hv : v.isLeaf = true) (h : v.head = w.head) : v = w := by
  cases v with
  | arr _ | obj _ => exact absurd hv Bool.false_ne_true
  | null | bool _ | num _ | str _ => cases w <;> simp_all [head]

theorem entries_nodesAt (s : List Step) (v : Json) :
    entries (nodesAt s v) = (s.map Step.name?, v.head) :: entries (nodesAt s v).tail := by
  rw [nodesAt_eq_cons]
  rfl

/-- What comes next does not stand in brackets at this depth. -/
def Outside (depth : Nat) (a : List (List (Option String) × Head)) : Prop :=
  ∀ e ∈ a.head?, e.1.length ≤ depth

theorem outside_nodesAt {depth : Nat} {a : List (List (Option String) × Head)} (s : List Step)
    (v : Json) (hs : s.length ≤ depth) : Outside depth (entries (nodesAt s v) ++ a) := by
  intro e he
  rw [entries_nodesAt] at he
  obtain rfl : (s.map Step.name?, v.head) = e := by simpa using he
  simpa using hs

theorem Outside.itemNodes {a : List (List (Option String) × Head)} (h : Outside s.length a)
    (index : Nat) (items : List Json) :
    Outside (s.length + 1) (entries (itemNodes s index items) ++ a) := by
  cases items with
  | nil => exact fun e he => Nat.le_succ_of_le (h e he)
  | cons v rest =>
    rw [Json.itemNodes, entries_append, List.append_assoc]
    exact outside_nodesAt _ v (by simp)

theorem Outside.fieldNodes {a : List (List (Option String) × Head)} (h : Outside s.length a)
    (fields : List (String × Json)) :
    Outside (s.length + 1) (entries (fieldNodes s fields) ++ a) := by
  cases fields with
  | nil => exact fun e he => Nat.le_succ_of_le (h e he)
  | cons f rest =>
    rw [Json.fieldNodes, entries_append, List.append_assoc]
    exact outside_nodesAt _ f.2 (by simp)

/-- What stands in brackets is not what comes after them. -/
theorem Outside.ne_nodesAt {a b : List (List (Option String) × Head)} (h : Outside s.length a)
    {x : Step} {v : Json} (hst : s.length = t.length) :
    a ≠ entries (nodesAt (t ++ [x]) v) ++ b := by
  rintro rfl
  have hle := h _ (by rw [entries_nodesAt]; rfl)
  simp only [List.length_map, List.length_append, List.length_singleton] at hle
  omega

theorem length_of_names (hst : s.map Step.name? = t.map Step.name?) : s.length = t.length := by
  simpa using congrArg List.length hst

/-- A leaf is all that is read of it. -/
theorem eq_of_leaf {a b : List (List (Option String) × Head)} (hv : v.isLeaf = true)
    (h : entries (nodesAt s v) ++ a = entries (nodesAt t w) ++ b) : v = w ∧ a = b := by
  rw [entries_nodesAt, entries_nodesAt] at h
  obtain ⟨he, hrest⟩ := List.cons.inj h
  obtain rfl := eq_of_head hv (congrArg Prod.snd he)
  rw [nodesAt_of_isLeaf hv, nodesAt_of_isLeaf hv] at hrest
  exact ⟨rfl, hrest⟩

/-! An outline is read from the left: what has been read tells the value, and the rest is the same
on both sides. -/

mutual

theorem eq_of_entries {s t : List Step} (hst : s.map Step.name? = t.map Step.name?) :
    ∀ {v w : Json} {a b : List (List (Option String) × Head)},
      Outside s.length a → Outside t.length b →
        entries (nodesAt s v) ++ a = entries (nodesAt t w) ++ b → v = w ∧ a = b
  | null, _, _, _, _, _, h | bool _, _, _, _, _, _, h | num _, _, _, _, _, _, h
  | str _, _, _, _, _, _, h => eq_of_leaf rfl h
  | arr items, w, a, b, ha, hb, h => by
    rw [entries_nodesAt, entries_nodesAt, List.cons_append, List.cons_append] at h
    obtain ⟨he, hrest⟩ := List.cons.inj h
    cases w with
    | arr others =>
      obtain ⟨rfl, rfl⟩ := eq_of_items hst 0 0 ha hb hrest
      exact ⟨rfl, rfl⟩
    | _ => simp [head] at he
  | obj fields, w, a, b, ha, hb, h => by
    rw [entries_nodesAt, entries_nodesAt, List.cons_append, List.cons_append] at h
    obtain ⟨he, hrest⟩ := List.cons.inj h
    cases w with
    | obj others =>
      obtain ⟨rfl, rfl⟩ := eq_of_fields hst ha hb hrest
      exact ⟨rfl, rfl⟩
    | _ => simp [head] at he

theorem eq_of_items {s t : List Step} (hst : s.map Step.name? = t.map Step.name?) (i j : Nat) :
    ∀ {items others : List Json} {a b : List (List (Option String) × Head)},
      Outside s.length a → Outside t.length b →
        entries (itemNodes s i items) ++ a = entries (itemNodes t j others) ++ b →
          items = others ∧ a = b
  | [], [], _, _, _, _, h => ⟨rfl, h⟩
  | [], w :: others, a, b, ha, _, h => by
    rw [itemNodes.eq_def t, entries_append, List.append_assoc] at h
    exact (ha.ne_nodesAt (length_of_names hst) h).elim
  | v :: items, [], a, b, _, hb, h => by
    rw [itemNodes.eq_def s, entries_append, List.append_assoc] at h
    exact (hb.ne_nodesAt (length_of_names hst).symm h.symm).elim
  | v :: items, w :: others, a, b, ha, hb, h => by
    rw [itemNodes, itemNodes, entries_append, entries_append, List.append_assoc,
      List.append_assoc] at h
    have hstep := names_concat hst (x := .item i) (y := .item j) rfl
    obtain ⟨rfl, hrest⟩ := eq_of_entries hstep (by simpa using ha.itemNodes (i + 1) items)
      (by simpa using hb.itemNodes (j + 1) others) h
    obtain ⟨rfl, rfl⟩ := eq_of_items hst (i + 1) (j + 1) ha hb hrest
    exact ⟨rfl, rfl⟩

theorem eq_of_fields {s t : List Step} (hst : s.map Step.name? = t.map Step.name?) :
    ∀ {fields others : List (String × Json)} {a b : List (List (Option String) × Head)},
      Outside s.length a → Outside t.length b →
        entries (fieldNodes s fields) ++ a = entries (fieldNodes t others) ++ b →
          fields = others ∧ a = b
  | [], [], _, _, _, _, h => ⟨rfl, h⟩
  | [], (key, w) :: others, a, b, ha, _, h => by
    rw [fieldNodes.eq_def t, entries_append, List.append_assoc] at h
    exact (ha.ne_nodesAt (length_of_names hst) h).elim
  | (key, v) :: fields, [], a, b, _, hb, h => by
    rw [fieldNodes.eq_def s, entries_append, List.append_assoc] at h
    exact (hb.ne_nodesAt (length_of_names hst).symm h.symm).elim
  | (key, v) :: fields, (other, w) :: others, a, b, ha, hb, h => by
    rw [fieldNodes, fieldNodes, entries_append, entries_append, List.append_assoc,
      List.append_assoc] at h
    -- the first part on each side tells the key
    obtain rfl : key = other := by
      rw [entries_nodesAt, entries_nodesAt] at h
      simpa [hst, Step.name?] using congrArg Prod.fst (List.cons.inj h).1
    have hstep := names_concat hst (x := .field key) rfl
    obtain ⟨rfl, hrest⟩ := eq_of_entries hstep (by simpa using ha.fieldNodes fields)
      (by simpa using hb.fieldNodes others) h
    obtain ⟨rfl, rfl⟩ := eq_of_fields hst ha hb hrest
    exact ⟨rfl, rfl⟩

end

/-- Values of the same outline are the same. -/
theorem eq_of_outline (h : v.outline = w.outline) : v = w := by
  have hst : ([] : List Step).map Step.name? = ([] : List Step).map Step.name? := rfl
  have hend : Outside 0 [] := by simp [Outside]
  have hlist : entries (nodesAt [] v) ++ [] = entries (nodesAt [] w) ++ [] :=
    congrArg (· ++ []) h
  exact (eq_of_entries hst hend hend hlist).1

end CurlScribe.Json
