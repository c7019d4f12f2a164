/-! Lists of named values in which a known name keeps its place, and finding what has a name. -/
namespace CurlScribe.Named

variable {α : Type}

/-- Sets the value of a name: a known name keeps its place, a new one goes last. -/
def put : List (String × α) → String → α → List (String × α)
  | [], key, value => [(key, value)]
  | (k, v) :: rest, key, value =>
    if k = key then (k, value) :: rest else (k, v) :: put rest key value

def names (entries : List (String × α)) : List String := entries.map Prod.fst

theorem mem_names_put (entries : List (String × α)) (key name : String) (value : α) :
    name ∈ names (put entries key value) ↔ name = key ∨ name ∈ names entries := by
  induction entries with
  | nil => simp [put, names]
  | cons e rest ih =>
    simp only [put]
    split <;> simp_all [names]
    grind

theorem nodup_names_put {entries : List (String × α)} (h : (names entries).Nodup)
    (key : String) (value : α) : (names (put entries key value)).Nodup := by
  induction entries with
  | nil => simp [put, names]
  | cons e rest ih =>
    have hr : e.1 ∉ names rest ∧ (names rest).Nodup := by simpa [names] using h
    simp only [put]
    split
    · simpa [names] using h
    · rename_i hk
      have hn : e.1 ∉ names (put rest key value) := by
        rw [mem_names_put]
        simp [hk, hr.1]
      simpa [names] using ⟨by simpa [names] using hn, ih hr.2⟩

theorem put_of_new {entries : List (String × α)} {key : String} (h : key ∉ names entries)
    (value : α) : put entries key value = entries ++ [(key, value)] := by
  induction entries with
  | nil => rfl
  | cons e rest ih =>
    obtain ⟨hne, hr⟩ : key ≠ e.1 ∧ key ∉ names rest := by
      simpa [names] using h
    simp [put, Ne.symm hne, ih hr]

/-- A name that no other entry has finds its entry. -/
theorem find_of_nodup {κ : Type} [BEq κ] [LawfulBEq κ] {name : α → κ} {entries : List α} {e : α}
    (hn : (entries.map name).Nodup) (he : e ∈ entries) :
    entries.find? (fun d => name d == name e) = some e := by
  induction entries with
  | nil => simp at he
  | cons d rest ih =>
    obtain ⟨hnew, hrest⟩ := List.nodup_cons.mp hn
    rcases List.mem_cons.mp he with rfl | he
    · simp
    · have hne : name d ≠ name e := by
        intro heq
        exact hnew (heq ▸ List.mem_map_of_mem he)
      rw [List.find?_cons_of_neg (by simpa using hne)]
      exact ih hrest he

end CurlScribe.Named
