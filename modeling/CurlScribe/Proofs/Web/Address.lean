import CurlScribe.Proofs.Request.ParamList
import CurlScribe.Proofs.Web.Percent
import CurlScribe.Web.Address

/-! What it takes for a text to be an address, and what its parts never lack. -/
namespace CurlScribe

namespace Address

variable {k : Kind} {cs : List Char} {a : Address}

def kind (a : Address) : Kind := Kind.ofScheme (String.ofList a.scheme)

/-- The text that names the host. -/
def authorityPart (k : Kind) (cs : List Char) : List Char :=
  cs.takeWhile fun c => !endsAuthority k c

/-- What follows the text that names the host. -/
def afterAuthority (k : Kind) (cs : List Char) : List Char :=
  cs.dropWhile fun c => !endsAuthority k c

def pathPart (tail : List Char) : List Char := tail.takeWhile fun c => c != '?' && c != '#'

def queryPart (tail : List Char) : List Char :=
  match tail.dropWhile fun c => c != '?' && c != '#' with
  | '?' :: q => q.takeWhile (· != '#')
  | _ => []

/-- A text is an address where each of its parts is read, one after the other. -/
theorem ofChars_eq_some_iff : ofChars? cs = some a ↔ ∃ afterColon rest early,
    cutScheme? (tidy cs) = some (a.scheme, afterColon) ∧
    afterSlashes? a.kind afterColon = some rest ∧
    readAuthority? a.kind (authorityPart a.kind rest) = some (a.host, a.port, early) ∧
    startsWithDrive a.kind (pathPart (early ++ afterAuthority a.kind rest)) = false ∧
    a.path = readPath a.kind (pathPart (early ++ afterAuthority a.kind rest)) ∧
    a.query = Percent.encode (Percent.inQuery a.kind.isSpecial)
      (queryPart (early ++ afterAuthority a.kind rest)) := by
  simp only [ofChars?, Option.bind_eq_bind, Option.bind_eq_some_iff]
  constructor
  · rintro ⟨⟨scheme, afterColon⟩, hscheme, rest, hrest, ⟨host, port, early⟩, hhost, h⟩
    split at h
    · simp at h
    · rename_i hdrive
      obtain rfl := Option.some.inj h
      exact ⟨afterColon, rest, early, hscheme, hrest, hhost, Bool.eq_false_iff.mpr hdrive,
        rfl, rfl⟩
  · rintro ⟨afterColon, rest, early, hscheme, hrest, hhost, hdrive, hpath, hquery⟩
    refine ⟨_, hscheme, rest, hrest, _, hhost, ?_⟩
    refine (if_neg (Bool.eq_false_iff.mp hdrive)).trans ?_
    obtain ⟨scheme, host, port, path, query⟩ := a
    dsimp only [kind] at hpath hquery
    subst hpath hquery
    rfl

/-! Paths. -/

theorem walk_ne_nil (folders segments : List (List Char)) : walk folders segments ≠ [] := by
  fun_induction walk folders segments with
  | case1 => simp
  | case2 => simp
  | case3 => simp
  | case4 => simp
  | case5 _ _ _ _ _ ih => exact ih
  | case6 _ _ _ _ _ _ ih => exact ih
  | case7 _ _ _ _ _ _ ih => exact ih

theorem tidySegments_ne_nil {segments : List (List Char)} (h : segments ≠ []) :
    tidySegments k segments ≠ [] := by
  unfold tidySegments
  split
  · split
    · simp
    · assumption
  · exact h

/-- A path that is not empty starts with a slash. -/
theorem readPath_cases (k : Kind) (cs : List Char) :
    readPath k cs = [] ∨ ∃ rest, readPath k cs = '/' :: rest := by
  unfold readPath
  split
  · exact .inl rfl
  · right
    obtain ⟨segment, more, hs⟩ :=
      List.exists_cons_of_ne_nil (tidySegments_ne_nil (k := k) (walk_ne_nil _ _))
    exact ⟨segment ++ pathText more, congrArg pathText hs⟩

/-- An endpoint starts with a slash. -/
theorem endpoint_eq_cons (h : ofChars? cs = some a) : ∃ rest, a.endpoint = '/' :: rest := by
  obtain ⟨_, _, _, -, -, -, -, hpath, -⟩ := ofChars_eq_some_iff.mp h
  rcases readPath_cases a.kind _ with hp | ⟨rest, hp⟩
  · rw [hp] at hpath
    exact ⟨[], by simp [endpoint, hpath]⟩
  · rw [hp] at hpath
    have hrelax : Percent.relax ('/' :: rest) = '/' :: Percent.relax rest :=
      Percent.relax_cons (by decide) rest
    exact ⟨Percent.relax rest, by simp [endpoint, hpath, hrelax]⟩

end Address

namespace Location

variable {u : String}

theorem blank_endpoint (u : String) : Text.blank (ofText u).endpoint = false := by
  rw [ofText]
  split
  · rename_i a ha
    obtain ⟨rest, he⟩ := Address.endpoint_eq_cons ha
    exact Text.blank_of_mem (c := '/') (by simp [he]) (by decide)
  · exact Text.blank_of_mem (c := '/') (by simp) (by decide)

/-- The base of an address is never blank. -/
theorem blank_baseUrl (h : Text.blank u = false) : Text.blank (ofText u).baseUrl = false := by
  rw [ofText]
  split
  · exact Text.blank_of_mem (c := ':') (by simp [Address.base]) (by decide)
  · obtain ⟨c, hc, hb⟩ := Text.exists_of_not_blank h
    exact Text.blank_of_mem (by simpa [Text.trimmed] using Text.mem_trim hb hc) hb

theorem distinct_queryParams (u : String) : (ofText u).queryParams.Distinct := by
  unfold ofText
  dsimp only
  split
  · exact ParamList.distinct_ofPairs _
  · exact List.nodup_nil

theorem enabled_queryParams (u : String) :
    ∀ p ∈ (ofText u).queryParams.entries, p.enabled = true := by
  unfold ofText
  dsimp only
  split
  · exact ParamList.enabled_ofPairs _
  · simp [ParamList.empty]

theorem base_isPrefix_join (base endpoint : String) :
    base.toList <+: (join base endpoint).toList := by
  rw [join, String.toList_ofList]
  split
  all_goals simp

theorem mem_join {c : Char} {base : String} (h : c ∈ base.toList) (endpoint : String) :
    c ∈ (join base endpoint).toList := (base_isPrefix_join base endpoint).subset h

theorem blank_join {base : String} (h : Text.blank base = false) (endpoint : String) :
    Text.blank (join base endpoint) = false := by
  obtain ⟨c, hc, hb⟩ := Text.exists_of_not_blank h
  exact Text.blank_of_mem (mem_join hc endpoint) hb

end Location

end CurlScribe
