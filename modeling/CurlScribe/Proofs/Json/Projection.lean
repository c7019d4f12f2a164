import CurlScribe.Json.Projection
import CurlScribe.Proofs.Json.Outline
import Mathlib.Data.List.Infix

/-! Projection leaves out the parts whose paths are excluded, and nothing else. A path is built from
the segments one by one, so that those of the empty name in front leave no trace in it. -/
namespace CurlScribe

namespace Inclusion

variable {m : Inclusion} {path : List String → String} {p q segments : List String} {s : String}

/-- The segments with points between them. -/
def joined (segments : List String) : String := ".".intercalate segments

/-- The same without the empty segments in front. -/
def rooted (segments : List String) : String := joined (segments.dropWhile (· == ""))

/-- No excluded path is that of a part, or of one it stands in. -/
def Keeps (m : Inclusion) (path : List String → String) (segments : List String) : Prop :=
  ∀ p ∈ segments.inits, p ≠ [] → m.excludes (path p) = false

instance : Decidable (m.Keeps path segments) :=
  inferInstanceAs (Decidable (∀ p ∈ segments.inits, p ≠ [] → m.excludes (path p) = false))

theorem keeps_nil : m.Keeps path [] := by simp [Keeps]

theorem Keeps.shorter (h : m.Keeps path q) (hp : p <+: q) : m.Keeps path p := by
  intro r hr
  exact h r ((List.mem_inits r q).mpr (((List.mem_inits r p).mp hr).trans hp))

theorem keeps_concat : m.Keeps path (segments ++ [s]) ↔
    m.Keeps path segments ∧ m.excludes (path (segments ++ [s])) = false := by
  simp only [Keeps, List.mem_inits, List.prefix_concat_iff]
  constructor
  · intro h
    exact ⟨fun p hp => h p (.inr hp), h _ (.inl rfl) (by simp)⟩
  · rintro ⟨h, hs⟩ p (rfl | hp) hne
    · exact hs
    · exact h p hp hne

theorem joined_cons (s t : String) (rest : List String) :
    joined (s :: t :: rest) = joined ((s ++ "." ++ t) :: rest) := rfl

theorem foldl_childPath (segments : List String) (hs : s ≠ "") :
    segments.foldl childPath s = joined (s :: segments) := by
  induction segments generalizing s with
  | nil => rfl
  | cons t rest ih =>
    have hne : s ++ "." ++ t ≠ "" := by simp [hs]
    rw [List.foldl_cons, childPath, if_neg hs, ih hne, joined_cons]

/-- The path that is built on the way to a part. -/
theorem foldl_childPath_root (segments : List String) :
    segments.foldl childPath "" = rooted segments := by
  induction segments with
  | nil => rfl
  | cons s rest ih =>
    rw [List.foldl_cons, childPath, if_pos rfl, rooted, List.dropWhile_cons]
    by_cases hs : s = ""
    · rw [if_pos (by simpa using hs), hs, ih, rooted]
    · rw [if_neg (by simpa using hs), foldl_childPath rest hs]

theorem rooted_concat (segments : List String) (s : String) :
    rooted (segments ++ [s]) = childPath (rooted segments) s := by
  simp only [← foldl_childPath_root, List.foldl_append, List.foldl_cons, List.foldl_nil]

theorem rooted_of_head (h : segments.head? ≠ some "") : rooted segments = joined segments := by
  cases segments with
  | nil => rfl
  | cons s rest => rw [rooted, List.dropWhile_cons_of_neg (by simpa using h)]

end Inclusion

namespace Json

open Inclusion

variable {m : Inclusion} {v : Json} {n : Node} {steps : List Step}

/-- The parts of a value that are kept when `path` tells their paths. -/
def kept (m : Inclusion) (path : List String → String) (ns : List Node) : List Node :=
  ns.filter fun n => decide (m.Keeps path n.segments)

theorem kept_append (m : Inclusion) (path : List String → String) (ns ms : List Node) :
    kept m path (ns ++ ms) = kept m path ns ++ kept m path ms :=
  List.filter_append ..

theorem kept_cons {path : List String → String} (h : m.Keeps path n.segments) (ns : List Node) :
    kept m path (n :: ns) = n :: kept m path ns :=
  List.filter_cons_of_pos (by simpa using h)

/-- Nothing is kept inside a part that is left out. -/
theorem kept_eq_nil {path : List String → String} (h : ¬ m.Keeps path (steps.map Step.segment))
    (v : Json) : kept m path (nodesAt steps v) = [] := by
  rw [kept, List.filter_eq_nil_iff]
  intro n hn hk
  have hp : steps.map Step.segment <+: n.segments := (isPrefix_of_mem hn).map _
  exact h ((of_decide_eq_true hk).shorter hp)

theorem rooted_step (s : List Step) (x : Step) : rooted ((s ++ [x]).map Step.segment) =
    childPath (rooted (s.map Step.segment)) x.segment := by
  rw [List.map_append, List.map_singleton, rooted_concat]

/-- Whether a part is kept that stands directly in one that is kept. -/
theorem keeps_step {s : List Step} (hk : m.Keeps rooted (s.map Step.segment)) (x : Step) :
    m.Keeps rooted ((s ++ [x]).map Step.segment) ↔
      m.excludes (childPath (rooted (s.map Step.segment)) x.segment) = false := by
  rw [← rooted_step, List.map_append, List.map_singleton, keeps_concat]
  exact and_iff_right hk

theorem kept_excluded {s : List Step} {x : Step} (hk : m.Keeps rooted (s.map Step.segment))
    (he : m.excludes (childPath (rooted (s.map Step.segment)) x.segment) = true) (v : Json) :
    kept m rooted (nodesAt (s ++ [x]) v) = [] := by
  apply kept_eq_nil
  rw [keeps_step hk, he]
  decide

/-- A leaf stays as it is where it is kept. -/
theorem entries_kept_leaf {s t : List Step} (hst : s.map Step.name? = t.map Step.name?)
    (hk : m.Keeps rooted (s.map Step.segment)) (hv : v.isLeaf = true) :
    entries (nodesAt t v) = entries (kept m rooted (nodesAt s v)) := by
  rw [nodesAt_of_isLeaf hv, nodesAt_of_isLeaf hv, kept_cons hk]
  exact congrArg (· :: []) (entry_eq hst rfl)

/-! The parts of the projection are the parts that are kept. Items may have moved up, so the two
sides have steps of the same names. -/

mutual

theorem entries_projectAt {s t : List Step} (hst : s.map Step.name? = t.map Step.name?)
    (hk : m.Keeps rooted (s.map Step.segment)) :
    ∀ v : Json, entries (nodesAt t (projectAt m (rooted (s.map Step.segment)) v)) =
      entries (kept m rooted (nodesAt s v))
  | null | bool _ | num _ | str _ => entries_kept_leaf hst hk rfl
  | arr items => by
    rw [projectAt, nodesAt, nodesAt, kept_cons hk]
    exact congrArg₂ List.cons (entry_eq hst rfl) (entries_projectItems hst hk 0 0 items)
  | obj fields => by
    rw [projectAt, nodesAt, nodesAt, kept_cons hk]
    exact congrArg₂ List.cons (entry_eq hst rfl) (entries_projectFields hst hk fields)

theorem entries_projectItems {s t : List Step} (hst : s.map Step.name? = t.map Step.name?)
    (hk : m.Keeps rooted (s.map Step.segment)) (i j : Nat) :
    ∀ items : List Json,
      entries (itemNodes t j (projectItems m (rooted (s.map Step.segment)) i items)) =
        entries (kept m rooted (itemNodes s i items))
  | [] => rfl
  | v :: rest => by
    have hstep := names_concat hst (x := .item i) (y := .item j) rfl
    rw [itemNodes, kept_append, entries_append, projectItems]
    cases he : m.excludes (childPath (rooted (s.map Step.segment)) (toString i)) with
    | true =>
      rw [if_pos rfl, kept_excluded (x := .item i) hk he]
      exact entries_projectItems hst hk (i + 1) j rest
    | false =>
      have hv := entries_projectAt hstep ((keeps_step hk (.item i)).mpr he) v
      simp only [rooted_step, Step.segment] at hv
      rw [if_neg (by decide), itemNodes, entries_append, ← hv,
        ← entries_projectItems hst hk (i + 1) (j + 1) rest]

theorem entries_projectFields {s t : List Step} (hst : s.map Step.name? = t.map Step.name?)
    (hk : m.Keeps rooted (s.map Step.segment)) :
    ∀ fields : List (String × Json),
      entries (fieldNodes t (projectFields m (rooted (s.map Step.segment)) fields)) =
        entries (kept m rooted (fieldNodes s fields))
  | [] => rfl
  | (key, v) :: rest => by
    have hstep := names_concat hst (x := .field key) rfl
    rw [fieldNodes, kept_append, entries_append, projectFields]
    cases he : m.excludes (childPath (rooted (s.map Step.segment)) key) with
    | true =>
      rw [if_pos rfl, kept_excluded (x := .field key) hk he]
      exact entries_projectFields hst hk rest
    | false =>
      have hv := entries_projectAt hstep ((keeps_step hk (.field key)).mpr he) v
      simp only [rooted_step, Step.segment] at hv
      rw [if_neg (by decide), fieldNodes, entries_append, ← hv,
        ← entries_projectFields hst hk rest]

end

theorem outline_project (m : Inclusion) (v : Json) :
    (project m v).outline = entries (kept m rooted v.nodes) :=
  entries_projectAt rfl keeps_nil v

/-! Where the two ways to tell a path differ. -/

/-- Something stands in a field of the empty name at the top. -/
def HidesParts (v : Json) : Prop :=
  ∃ n ∈ v.nodes, ∃ x rest, n.steps = .field "" :: x :: rest

theorem Node.segments_head {n : Node} (h : n.segments.head? = some "") :
    ∃ rest, n.steps = .field "" :: rest := by
  obtain ⟨steps, v⟩ := n
  cases steps with
  | nil => simp [Node.segments] at h
  | cons x rest =>
    cases x with
    | item i => simp [Node.segments, Step.segment] at h
    | field key => exact ⟨rest, by simp_all [Node.segments, Step.segment]⟩

/-- A part has the same path either way unless it is hidden. -/
theorem rooted_eq_joined (hv : ¬ v.HidesParts) (hn : n ∈ v.nodes) {p : List String}
    (hp : p <+: n.segments) : rooted p = joined p := by
  by_cases hh : p.head? = some ""
  · obtain ⟨q, rfl⟩ : ∃ q, p = "" :: q := by cases p <;> simp_all
    obtain ⟨rest, hsteps⟩ := Node.segments_head (n := n) (by
      obtain ⟨r, hr⟩ := hp
      simp [← hr])
    cases rest with
    | nil =>
      have hq : q = [] := by
        simpa [Node.segments, hsteps, Step.segment] using hp
      rw [hq]
      decide
    | cons x rest => exact (hv ⟨n, hn, x, rest, hsteps⟩).elim
  · exact rooted_of_head hh

theorem kept_rooted (hv : ¬ v.HidesParts) (m : Inclusion) :
    kept m rooted v.nodes = kept m joined v.nodes := by
  refine List.filter_congr fun n hn => decide_eq_decide.mpr (forall₂_congr fun p hp => ?_)
  rw [rooted_eq_joined hv hn ((List.mem_inits _ _).mp hp)]

theorem segment_ne {x y : Step} (h : y.name? = x.name?) : y.segment ≠ "." ++ x.segment := by
  intro he
  have hlist := congrArg String.toList he
  cases y with
  | field key =>
    cases x with
    | field other =>
      obtain rfl : key = other := by simpa [Step.name?] using h
      have := congrArg List.length hlist
      simp [Step.segment] at this
    | item i => simp [Step.name?] at h
  | item j =>
    have hpoint : '.' ∈ (Nat.repr j).toList := by
      have hrepr : (Nat.repr j).toList = '.' :: x.segment.toList := by
        simpa [Step.segment] using hlist
      simp [hrepr]
    rw [Nat.toList_repr] at hpoint
    exact absurd (Nat.isDigit_of_mem_toDigits (by decide) (by decide) hpoint) (by decide)

/-- Excludes what is named by this step in a field of the empty name. -/
def excluding (x : Step) : Inclusion := ⟨[("." ++ x.segment, false)]⟩

theorem excludes_excluding (x : Step) (path : String) :
    (excluding x).excludes path = (path == "." ++ x.segment) := by
  rw [excluding, excludes, List.lookup_cons]
  cases path == "." ++ x.segment <;> rfl

/-- The empty segment in front leaves no trace in the path, so the inclusion misses. -/
theorem keeps_hidden {x y : Step} (h : y.name? = x.name?) :
    (excluding x).Keeps rooted ["", y.segment] := by
  have hempty : (excluding x).excludes "" = false := by simp [excludes_excluding]
  have hfull : (excluding x).excludes (rooted ["", y.segment]) = false := by
    rw [excludes_excluding, beq_eq_false_iff_ne]
    by_cases hy : y.segment = ""
    · simp [rooted, joined, hy]
    · simpa [rooted, joined, List.dropWhile_cons, hy] using segment_ne h
  have hone : (excluding x).Keeps rooted [""] := keeps_concat.mpr ⟨keeps_nil, hempty⟩
  exact keeps_concat.mpr ⟨hone, hfull⟩

theorem not_keeps_hidden (x : Step) : ¬ (excluding x).Keeps joined ["", x.segment] := by
  intro h
  have he := h ["", x.segment] (by simp) (by simp)
  rw [excludes_excluding] at he
  exact absurd he (by simp [joined])

/-- Parts that stand in a field of the empty name at the top, under the name of `x`. -/
def hidden (x : Step) (ns : List Node) : List Node :=
  ns.filter fun n => decide (n.names = [some "", x.name?])

theorem entries_kept_hidden (m : Inclusion) (path : List String → String) (x : Step)
    (ns : List Node) :
    ((entries (kept m path ns)).filter fun e => decide (e.1 = [some "", x.name?])) =
      entries (kept m path (hidden x ns)) := by
  simp only [entries, kept, hidden, List.filter_map, List.filter_filter, Bool.and_comm]
  rfl

theorem steps_of_hidden {x : Step} (h : n.names = [some "", x.name?]) :
    ∃ y : Step, n.steps = [.field "", y] ∧ y.name? = x.name? := by
  obtain ⟨z, ys, hsteps, hz, hys⟩ := List.map_eq_cons_iff.mp h
  obtain ⟨y, hy, hyx⟩ := List.map_eq_singleton_iff.mp hys
  cases z with
  | item i => simp [Step.name?] at hz
  | field key =>
    obtain rfl : key = "" := by simpa [Step.name?] using hz
    exact ⟨y, by rw [hsteps, hy], hyx⟩

theorem outline_differs (hv : v.HidesParts) :
    ∃ m, (project m v).outline ≠ entries (kept m joined v.nodes) := by
  obtain ⟨n, hn, x, rest, hsteps⟩ := hv
  obtain ⟨c, hc, hcs⟩ := exists_of_prefix (p := [.field "", x]) List.nil_prefix
    ⟨rest, hsteps.symm⟩ hn
  refine ⟨excluding x, fun he => ?_⟩
  -- of the hidden parts of this name all are kept, and not all should be
  have hall : kept (excluding x) rooted (hidden x v.nodes) = hidden x v.nodes := by
    refine List.filter_eq_self.mpr fun n hn => decide_eq_true ?_
    obtain ⟨y, hy, hyx⟩ := steps_of_hidden (of_decide_eq_true (List.mem_filter.mp hn).2)
    simpa [Node.segments, hy, Step.segment] using keeps_hidden hyx
  have hlost : (kept (excluding x) joined (hidden x v.nodes)).length <
      (hidden x v.nodes).length := by
    refine List.length_filter_lt_length_iff_exists.mpr ⟨c, ?_, ?_⟩
    · exact List.mem_filter.mpr ⟨hc, decide_eq_true (by simp [Node.names, hcs, Step.name?])⟩
    · simpa [Node.segments, hcs, Step.segment] using not_keeps_hidden x
  rw [outline_project] at he
  have hh := congrArg (List.filter fun e => decide (e.1 = [some "", x.name?])) he
  rw [entries_kept_hidden, entries_kept_hidden, hall] at hh
  have hlen := congrArg List.length hh
  simp only [entries, List.length_map] at hlen
  omega

/-- The projection is the value of the parts that are kept, where a part is kept when its path and
those of what it stands in are not excluded, and a path has no empty segments in front. Whole paths
tell the same parts for every inclusion exactly where nothing stands in a field of the empty name at
the top. -/
theorem projection_keeps_paths_iff (v : Json) :
    (∀ m w, w = project m v ↔ w.outline = entries (kept m rooted v.nodes)) ∧
      ((∀ m, (project m v).outline = entries (kept m joined v.nodes)) ↔ ¬ v.HidesParts) := by
  refine ⟨fun m w => ⟨?_, fun hw => ?_⟩, fun h hv => ?_, fun hv m => ?_⟩
  · rintro rfl
    exact outline_project m v
  · exact eq_of_outline (hw.trans (outline_project m v).symm)
  · obtain ⟨m, hm⟩ := outline_differs hv
    exact hm (h m)
  · rw [outline_project, kept_rooted hv]

/-- The part at `.a` goes with the path `a`, which is that of no part. -/
theorem unnamed_field_loses_its_part :
    (project ⟨[("a", false)]⟩ (obj [("", obj [("a", bool true)])])).outline ≠
      entries (kept ⟨[("a", false)]⟩ joined (obj [("", obj [("a", bool true)])]).nodes) := by
  decide +kernel

end Json

end CurlScribe
