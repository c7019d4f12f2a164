import CurlScribe.Generate.Test
import CurlScribe.Proofs.Java.Identifier

/-! The local variables for path parameters: the search for each of their names ends, and what it
finds may be declared. -/
namespace CurlScribe

namespace Java

variable {base : String} {taken full : List String} {n : Nat}

/-! The search for a name. -/

/-- Tries a name, and then the numbers from `n` on behind `base`, until there is one that is not
taken, and counts the rounds. -/
inductive Search (taken : List String) (base : String) : String → Nat → String → Nat → Prop
  | found {name : String} {n : Nat} (hnew : name ∉ taken) : Search taken base name n name 0
  | next {name result : String} {n rounds : Nat} (htaken : name ∈ taken)
      (hrest : Search taken base (base ++ toString n) (n + 1) result rounds) :
      Search taken base name n result (rounds + 1)

/-- From `n` on the same numbers are taken. -/
def AgreeFrom (base : String) (n : Nat) (full taken : List String) : Prop :=
  ∀ k ≥ n, base ++ toString k ∈ full ↔ base ++ toString k ∈ taken

/-- A number that was tried does not come again, so that it may be forgotten. -/
theorem AgreeFrom.erase (h : AgreeFrom base n full taken) :
    AgreeFrom base (n + 1) full (taken.erase (base ++ toString n)) := by
  intro k hk
  have hne : base ++ toString k ≠ base ++ toString n := by
    intro heq
    have := append_toString_inj.mp heq
    omega
  rw [List.mem_erase_of_ne hne]
  exact h k (by omega)

/-- Each round but the last forgets a name that is taken, so there are no more of them than there
are names. -/
theorem search_numbered (h : AgreeFrom base n full taken) :
    ∃ rounds ≤ taken.length,
      Search full base (base ++ toString n) (n + 1) (numbered base taken n) rounds := by
  -- `full` stays as it is, while the names still to be met lose one each round
  fun_induction numbered base taken n with
  | case1 taken n candidate hmem ih =>
    obtain ⟨rounds, hle, hsearch⟩ := ih h.erase
    have hlength : (taken.erase candidate).length + 1 = taken.length := by
      have hpos := List.length_pos_of_mem hmem
      rw [List.length_erase_of_mem hmem]
      omega
    exact ⟨rounds + 1, by omega, .next ((h n le_rfl).mpr hmem) hsearch⟩
  | case2 taken n candidate hmem =>
    exact ⟨0, by omega, .found fun hfull => hmem ((h n le_rfl).mp hfull)⟩

theorem search_fresh (taken : List String) (base : String) :
    ∃ rounds ≤ taken.length + 1, Search taken base base 2 (fresh taken base) rounds := by
  unfold fresh
  split
  · rename_i hmem
    have hagree : AgreeFrom base 2 taken taken := fun k _ => Iff.rfl
    obtain ⟨rounds, hle, hsearch⟩ := search_numbered hagree
    exact ⟨rounds + 1, by omega, .next hmem hsearch⟩
  · rename_i hnew
    exact ⟨0, by omega, .found hnew⟩

theorem not_isLower_of_isDigit {c : Char} (h : c.isDigit = true) : c.isLower = false := by
  have hall : ∀ n < 0x80, (Char.ofNat n).isDigit = true → (Char.ofNat n).isLower = false := by
    decide
  exact Text.of_ascii (P := fun c => c.isDigit = true → c.isLower = false) hall
    (Text.ascii_of_isDigit h) h

/-- A name that may be declared stays one with digits behind it. -/
theorem isIdentifier_fresh (h : IsIdentifier base) : IsIdentifier (fresh taken base) := by
  obtain ⟨ds, hds, heq⟩ := fresh_eq taken base
  obtain ⟨c, rest, hlist, hc⟩ := h.start
  refine ⟨⟨c, rest ++ ds, by rw [heq, hlist, List.cons_append], hc⟩, isName_fresh h.isName, ?_⟩
  cases ds with
  | nil =>
    rw [List.append_nil] at heq
    rw [String.toList_inj.mp heq]
    exact h.unreserved
  | cons d ds =>
    have hlow : d.isLower = false := not_isLower_of_isDigit (hds d (by simp))
    exact not_mem_keywords (by simp [heq]) hlow

end Java

namespace Test

open Java (Search IsIdentifier fresh identifier)

variable {l : String × String} {taken parameters : List String}

/-! One parameter after the other. -/

def localNames (parameters : List String) : List String := (pathLocals parameters).map Prod.snd

theorem map_fst_localsFrom (taken ps : List String) : (localsFrom taken ps).map Prod.fst = ps := by
  induction ps generalizing taken with
  | nil => rfl
  | cons p ps ih => simp [localsFrom, ih]

/-- The parameters that come first have their locals when the others get theirs. -/
theorem localsFrom_append (taken ps qs : List String) :
    localsFrom taken (ps ++ qs) =
      localsFrom taken ps ++ localsFrom (taken ++ (localsFrom taken ps).map Prod.snd) qs := by
  induction ps generalizing taken with
  | nil => simp [localsFrom]
  | cons p ps ih => simp [localsFrom, ih]

theorem nodup_localsFrom (h : taken.Nodup) :
    (taken ++ (localsFrom taken parameters).map Prod.snd).Nodup := by
  induction parameters generalizing taken with
  | nil => simpa [localsFrom] using h
  | cons p ps ih =>
    have hnew := Java.fresh_not_mem (reservedLocals ++ taken) (identifier p)
    rw [List.mem_append, not_or] at hnew
    have hmore : (taken ++ [fresh (reservedLocals ++ taken) (identifier p)]).Nodup :=
      List.nodup_append.mpr ⟨h, by simp, by
        rintro a ha b hb rfl
        exact hnew.2 (List.mem_singleton.mp hb ▸ ha)⟩
    simpa [localsFrom] using ih hmore

/-- A local is an identifier with, where that is taken, a number behind it. -/
theorem mem_localsFrom (h : l ∈ localsFrom taken parameters) :
    ∃ earlier, l.2 = fresh (reservedLocals ++ earlier) (identifier l.1) := by
  induction parameters generalizing taken with
  | nil => simp [localsFrom] at h
  | cons p ps ih =>
    simp only [localsFrom, List.mem_cons] at h
    rcases h with rfl | h
    · exact ⟨taken, rfl⟩
    · exact ih h

theorem length_localsFrom (taken ps : List String) : (localsFrom taken ps).length = ps.length := by
  rw [← List.length_map Prod.fst, map_fst_localsFrom]

theorem take_localNames {i : Nat} (h : i ≤ parameters.length) :
    (localNames parameters).take i = localNames (parameters.take i) := by
  have hlength : ((localsFrom [] (parameters.take i)).map Prod.snd).length = i := by
    rw [List.length_map, length_localsFrom, List.length_take_of_le h]
  have happend := localsFrom_append [] (parameters.take i) (parameters.drop i)
  rw [List.take_append_drop] at happend
  rw [localNames, pathLocals, happend, List.map_append, List.take_left' hlength]
  rfl

/-- Each local is made fresh from the names before it. -/
theorem getElem?_pathLocals {i : Nat} (h : i < parameters.length) :
    (pathLocals parameters)[i]? = some (parameters[i],
      fresh (reservedLocals ++ (localNames parameters).take i) (identifier parameters[i])) := by
  have hlength : (localsFrom [] (parameters.take i)).length = i := by
    rw [length_localsFrom, List.length_take_of_le h.le]
  have happend := localsFrom_append [] (parameters.take i) (parameters.drop i)
  rw [List.take_append_drop, List.drop_eq_getElem_cons h] at happend
  rw [take_localNames h.le, pathLocals, happend, List.getElem?_append_right hlength.le, hlength]
  simp [localsFrom, localNames, pathLocals]

/-- Every path parameter gets a local, in their order. The names of the locals are distinct, may be
declared, and are not those of the other variables of a test. The search for each of them ends, with
at most three more rounds than there are locals before it. -/
theorem locals_are_usable (parameters : List String) :
    (pathLocals parameters).map Prod.fst = parameters ∧ (localNames parameters).Nodup ∧
      (∀ name ∈ localNames parameters,
        IsIdentifier name ∧ name ≠ "request" ∧ name ≠ "response") ∧
      ∀ i : Fin parameters.length, ∃ name, ∃ rounds ≤ i.val + 3,
        (pathLocals parameters)[i]? = some (parameters[i], name) ∧
          Search (reservedLocals ++ (localNames parameters).take i)
            (identifier parameters[i]) (identifier parameters[i]) 2 name rounds := by
  refine ⟨map_fst_localsFrom [] parameters, ?_, ?_, ?_⟩
  · exact @nodup_localsFrom [] parameters List.nodup_nil
  · intro name hname
    obtain ⟨l, hl, rfl⟩ := List.mem_map.mp hname
    obtain ⟨earlier, heq⟩ := mem_localsFrom hl
    have hnew := Java.fresh_not_mem (reservedLocals ++ earlier) (identifier l.1)
    rw [← heq, List.mem_append, not_or] at hnew
    have hother : l.2 ≠ "request" ∧ l.2 ≠ "response" := by simpa [reservedLocals] using hnew.1
    refine ⟨?_, hother⟩
    rw [heq]
    exact Java.isIdentifier_fresh (Java.isIdentifier_identifier l.1)
  · intro i
    obtain ⟨rounds, hle, hsearch⟩ := Java.search_fresh
      (reservedLocals ++ (localNames parameters).take i) (identifier parameters[i])
    have hlength : (reservedLocals ++ (localNames parameters).take i).length ≤ i + 2 := by
      simp only [reservedLocals, List.length_append, List.length_take, List.length_cons,
        List.length_nil]
      omega
    exact ⟨_, rounds, by omega, getElem?_pathLocals i.isLt, hsearch⟩

/-- One parameter is called like a variable of the test, and one as that is called with a number. -/
def colliding : List String := ["request", "request-2", "request"]

theorem colliding_locals_are_usable : "request22" ∈ localNames colliding ∧
    localNames colliding = ["request2", "request22", "request3"] ∧
      IsIdentifier "request22" ∧ (localNames colliding).Nodup := by
  have hnames : localNames colliding = ["request2", "request22", "request3"] := by
    decide +kernel
  have hmem : "request22" ∈ localNames colliding := by simp [hnames]
  obtain ⟨-, hnodup, hall, -⟩ := locals_are_usable colliding
  exact ⟨hmem, hnames, (hall _ hmem).1, hnodup⟩

end Test

end CurlScribe
