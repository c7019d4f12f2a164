import CurlScribe.Proofs.Number.Digits
import CurlScribe.Proofs.Web.Form
import CurlScribe.Proofs.Web.Host
import CurlScribe.Proofs.Web.Path

/-! Addresses that are written from their parts and read again. -/
namespace CurlScribe

namespace Address

variable {k : Kind} {a : Address} {c : Char} {cs path query rest scheme : List Char} {host : Host}
  {port : Option Nat}

/-! Schemes. -/

/-- A scheme in small letters. -/
structure IsScheme (scheme : List Char) : Prop where
  head : ∃ c rest, scheme = c :: rest ∧ c.isAlpha = true
  chars : ∀ c ∈ scheme, isSchemeChar c = true ∧ c.toLower = c

theorem isSchemeChar_ascii (h : isSchemeChar c = true) : c.toNat < 0x80 := by
  simp only [isSchemeChar, Bool.or_eq_true, beq_iff_eq] at h
  rcases h with (((h | h) | rfl) | rfl) | rfl
  · exact Text.ascii_of_isAlpha h
  · exact Text.ascii_of_isDigit h
  all_goals decide

theorem isSchemeChar_toLower (h : isSchemeChar c = true) :
    isSchemeChar c.toLower = true ∧ c.toLower.toLower = c.toLower := by
  have hall : ∀ n < 0x80, isSchemeChar (Char.ofNat n) = true →
      isSchemeChar (Char.ofNat n).toLower = true ∧
        (Char.ofNat n).toLower.toLower = (Char.ofNat n).toLower := by
    decide
  exact Text.of_ascii (P := fun c => isSchemeChar c = true → isSchemeChar c.toLower = true ∧
    c.toLower.toLower = c.toLower) hall (isSchemeChar_ascii h) h

theorem isScheme_of_cut (h : cutScheme? cs = some (scheme, rest)) : IsScheme scheme := by
  unfold cutScheme? at h
  dsimp only at h
  split at h
  · rename_i c raw after hraw _
    obtain ⟨halpha, heq⟩ := Option.ite_none_right_eq_some.mp h
    obtain ⟨rfl, -⟩ := Prod.mk.inj (Option.some.inj heq)
    refine ⟨⟨c.toLower, raw.map Char.toLower, by rw [hraw]; rfl, Text.isAlpha_toLower halpha⟩, ?_⟩
    intro d hd
    obtain ⟨e, he, rfl⟩ := List.mem_map.mp hd
    exact isSchemeChar_toLower (List.mem_takeWhile_imp he)
  · simp at h

/-- A scheme is cut from the text that it stands before. -/
theorem cutScheme_append (h : IsScheme scheme) (rest : List Char) :
    cutScheme? (scheme ++ ':' :: rest) = some (scheme, rest) := by
  obtain ⟨c, more, hscheme, halpha⟩ := h.head
  have hstop : ∀ d ∈ (':' :: rest).head?, isSchemeChar d = false := by
    rintro _ ⟨⟩
    decide
  have hlower : scheme.map Char.toLower = scheme :=
    (List.map_congr_left fun d hd => (h.chars d hd).2).trans (List.map_id scheme)
  unfold cutScheme?
  rw [Text.takeWhile_append_stop (fun d hd => (h.chars d hd).1) hstop,
    Text.dropWhile_append_stop (fun d hd => (h.chars d hd).1) hstop]
  dsimp only
  rw [hlower, hscheme]
  exact if_pos halpha

/-! Ports. -/

theorem readPort_decimalDigits {n : Nat} (h : n ≤ 65535) :
    readPort? (decimalDigits n) = some (some n, []) := by
  have hdigits : ∀ c ∈ decimalDigits n, c.isDigit = true := fun c hc =>
    isDigit_of_mem_decimalDigits hc
  have ht : (decimalDigits n).takeWhile Char.isDigit = decimalDigits n :=
    List.takeWhile_eq_self_iff.mpr hdigits
  have hd : (decimalDigits n).dropWhile Char.isDigit = [] := List.dropWhile_eq_nil_iff.mpr hdigits
  have hn : ¬ 65535 < n := by omega
  simp [readPort?, ht, hd, digitsValue_decimalDigits, hn, decimalDigits_ne_nil]

theorem readPort_le {n : Nat} {digits : List Char} (h : readPort? digits = some (some n, rest)) :
    n ≤ 65535 := by
  obtain ⟨hle, heq⟩ := Option.ite_none_left_eq_some.mp h
  simp only [Bool.or_eq_true, decide_eq_true_eq, not_or, Nat.not_lt] at hle
  obtain ⟨hn, -⟩ := Prod.mk.inj (Option.some.inj heq)
  split at hn
  · simp at hn
  · rw [← Option.some.inj hn]
    exact hle.1

def portText (port : Option Nat) : List Char :=
  match port with
  | some n => ':' :: decimalDigits n
  | none => []

/-- A port that is written: one that is not the usual one. -/
def IsPort (k : Kind) (port : Option Nat) : Prop :=
  ∀ n, port = some n → n ≤ 65535 ∧ k.usualPort ≠ some n

/-! The text that names the host. -/

theorem readAuthority_eq (hk : k ≠ .file) (authority : List Char) :
    readAuthority? k authority =
      (let (hostText, portText) := cutPort false (afterCredentials authority)
      if hostText.isEmpty then none
      else
        (if k.isSpecial then Host.ofSpecial? hostText else Host.ofOpaque? hostText).bind fun host =>
          match portText with
          | none => some (host, none, [])
          | some digits =>
            (readPort? digits).bind fun (port, rest) =>
              if k.isSpecial && !rest.isEmpty then none
              else some (host, if port = k.usualPort then none else port, rest)) := by
  cases k with
  | file => simp at hk
  | special => rfl
  | other => rfl

/-- A file is read with its host alone. -/
theorem isNormal_of_readFile (h : readAuthority? .file cs = some (host, port, rest)) :
    host.IsNormal true ∧ port = none := by
  obtain ⟨-, h⟩ := Option.ite_none_left_eq_some.mp h
  obtain ⟨host', hhost, h⟩ := Option.bind_eq_some_iff.mp h
  obtain ⟨-, h⟩ := Option.ite_none_left_eq_some.mp h
  obtain ⟨rfl, rfl, -⟩ : host' = host ∧ none = port ∧ [] = rest := by simpa using h
  exact ⟨Host.isNormal_ofSpecial hhost, rfl⟩

theorem isNormal_of_readAuthority (h : readAuthority? k cs = some (host, port, rest)) :
    host.IsNormal k.isSpecial ∧ IsPort k port := by
  by_cases hk : k = .file
  · subst hk
    obtain ⟨hnormal, rfl⟩ := isNormal_of_readFile h
    exact ⟨hnormal, fun n hn => by simp at hn⟩
  rw [readAuthority_eq hk] at h
  generalize cutPort false (afterCredentials cs) = parts at h
  obtain ⟨hostText, found⟩ := parts
  obtain ⟨-, h⟩ := Option.ite_none_left_eq_some.mp h
  obtain ⟨host', hhost, h⟩ := Option.bind_eq_some_iff.mp h
  have hnormal : host'.IsNormal k.isSpecial := by
    cases hs : k.isSpecial with
    | true => exact Host.isNormal_ofSpecial (by simpa [hs] using hhost)
    | false => exact Host.isNormal_ofOpaque (by simpa [hs] using hhost)
  cases found with
  | none =>
    obtain ⟨rfl, rfl, -⟩ : host' = host ∧ none = port ∧ [] = rest := by simpa using h
    exact ⟨hnormal, fun n hn => by simp at hn⟩
  | some digits =>
    obtain ⟨⟨found, after⟩, hfound, h⟩ := Option.bind_eq_some_iff.mp h
    obtain ⟨-, h⟩ := Option.ite_none_left_eq_some.mp h
    obtain ⟨rfl, rfl, -⟩ : host' = host ∧
        (if found = k.usualPort then none else found) = port ∧ after = rest := by simpa using h
    refine ⟨hnormal, fun n hn => ?_⟩
    obtain ⟨hne, rfl⟩ := Option.ite_none_left_eq_some.mp hn
    exact ⟨readPort_le hfound, Ne.symm hne⟩

/-- What an address always has in its parts. -/
structure IsRead (a : Address) : Prop where
  scheme : IsScheme a.scheme
  host : a.host.IsNormal a.kind.isSpecial
  port : IsPort a.kind a.port

theorem isRead_of_ofChars (h : ofChars? cs = some a) : a.IsRead := by
  obtain ⟨_, _, _, hscheme, -, hhost, -⟩ := ofChars_eq_some_iff.mp h
  obtain ⟨hnormal, hport⟩ := isNormal_of_readAuthority hhost
  exact ⟨isScheme_of_cut hscheme, hnormal, hport⟩

theorem mem_portText (h : c ∈ portText port) : c = ':' ∨ c.isDigit = true := by
  cases port with
  | none => simp [portText] at h
  | some n =>
    rcases List.mem_cons.mp h with rfl | h
    · exact .inl rfl
    · exact .inr (isDigit_of_mem_decimalDigits h)

theorem isHostChar_of_mem_portText (h : c ∈ portText port) : Host.isHostChar c = true := by
  rcases mem_portText h with rfl | hd
  · decide
  · have hall : ∀ n < 0x80, (Char.ofNat n).isDigit = true →
        Host.isHostChar (Char.ofNat n) = true := by
      decide
    exact Text.of_ascii (P := fun c => c.isDigit = true → Host.isHostChar c = true) hall
      (Text.ascii_of_isDigit hd) hd

theorem isHostChar_of_mem_authority (h : host.IsNormal k.isSpecial)
    (hc : c ∈ host.text ++ portText port) : Host.isHostChar c = true := by
  rcases List.mem_append.mp hc with hc | hc
  · exact Host.isHostChar_of_mem_text h hc
  · exact isHostChar_of_mem_portText hc

/-- Host and port are read from their text. -/
theorem readAuthority_text (hk : k ≠ .file) (hhost : host.IsNormal k.isSpecial)
    (hport : IsPort k port) :
    readAuthority? k (host.text ++ portText port) = some (host, port, []) := by
  have hat : afterCredentials (host.text ++ portText port) = host.text ++ portText port := by
    have hchars : ∀ c ∈ (host.text ++ portText port).reverse, (c != '@') = true := by
      intro c hc
      have hh := isHostChar_of_mem_authority hhost (List.mem_reverse.mp hc)
      rw [bne_iff_ne]
      rintro rfl
      exact absurd hh (by decide)
    rw [afterCredentials, List.takeWhile_eq_self_iff.mpr hchars, List.reverse_reverse]
  have hread : (if k.isSpecial then Host.ofSpecial? host.text else Host.ofOpaque? host.text) =
      some host := by
    cases hs : k.isSpecial with
    | true => exact Host.ofSpecial_text (hs ▸ hhost)
    | false => exact Host.ofOpaque_text (hs ▸ hhost)
  have hne : host.text.isEmpty = false := by simpa using Host.text_ne_nil hhost
  rw [readAuthority_eq hk, hat, cutPort_text hhost]
  cases port with
  | none => simp [portText, cutPort, hne, hread]
  | some n =>
    obtain ⟨hn, husual⟩ := hport n rfl
    simp [portText, cutPort, hne, hread, readPort_decimalDigits hn, Ne.symm husual]

/-! Whole addresses. -/

theorem of_isVisible (h : Text.isVisible c = true) : decide (c.toNat ≤ 0x20) = false ∧
    (c != '\t' && c != '\n' && c != '\x0d') = true := by
  have hv : 0x20 < c.toNat := by
    simp only [Text.isVisible, Bool.and_eq_true, decide_eq_true_eq] at h
    exact h.1
  refine ⟨decide_eq_false (by omega), ?_⟩
  simp only [Bool.and_eq_true, bne_iff_ne]
  refine ⟨⟨?_, ?_⟩, ?_⟩
  all_goals
    rintro rfl
    exact absurd hv (by decide)

theorem tidy_visible (h : ∀ c ∈ cs, Text.isVisible c = true) : tidy cs = cs := by
  have hdrop (ds : List Char) (hd : ∀ c ∈ ds, Text.isVisible c = true) :
      ds.dropWhile (fun c => decide (c.toNat ≤ 0x20)) = ds := by
    cases ds with
    | nil => rfl
    | cons d ds => exact List.dropWhile_cons_of_neg (by simp [(of_isVisible (hd d (by simp))).1])
  have hfilter : cs.filter (fun c => c != '\t' && c != '\n' && c != '\x0d') = cs :=
    List.filter_eq_self.mpr fun c hc => (of_isVisible (h c hc)).2
  rw [tidy]
  rw [hdrop cs h, hdrop cs.reverse (by simpa using h), List.reverse_reverse, hfilter]

theorem tidy_cons (h : Text.isVisible c = true) (cs : List Char) :
    ∃ rest, tidy (c :: cs) = c :: rest := by
  obtain ⟨hmargin, hkept⟩ := of_isVisible h
  obtain ⟨rest, hr⟩ :=
    Text.reverse_dropWhile_cons (p := fun c : Char => decide (c.toNat ≤ 0x20)) hmargin cs
  refine ⟨rest.filter fun c => c != '\t' && c != '\n' && c != '\x0d', ?_⟩
  rw [tidy]
  rw [List.dropWhile_cons_of_neg (by simp [hmargin]), hr]
  exact List.filter_cons_of_pos hkept

/-- The scheme starts where a text starts that has no margin. -/
theorem head_scheme (h : ofChars? (c :: cs) = some a) (hc : Text.isVisible c = true) :
    a.scheme.head? = some c.toLower := by
  obtain ⟨_, _, _, hscheme, -⟩ := ofChars_eq_some_iff.mp h
  obtain ⟨rest, hrest⟩ := tidy_cons hc cs
  rw [hrest] at hscheme
  unfold cutScheme? at hscheme
  dsimp only at hscheme
  split at hscheme
  · rename_i d raw _ hraw _
    obtain ⟨-, heq⟩ := Option.ite_none_right_eq_some.mp hscheme
    obtain ⟨hs, -⟩ := Prod.mk.inj (Option.some.inj heq)
    rw [hraw] at hs
    rw [List.takeWhile_cons] at hraw
    split at hraw
    · rw [← hs, ← (List.cons.inj hraw).1]
      rfl
    · simp at hraw
  · simp at hscheme

theorem scheme_of_file (h : a.kind = .file) : a.scheme = "file".toList := by
  have hscheme : String.ofList a.scheme = "file" := by
    unfold kind Kind.ofScheme at h
    split at h
    all_goals simp_all
  rw [← hscheme, String.toList_ofList]

theorem base_eq (a : Address) :
    a.base = a.scheme ++ ':' :: '/' :: '/' :: (a.host.text ++ portText a.port) := by
  cases hp : a.port <;> simp [base, portText, hp]

theorem visible_base (h : a.IsRead) (hc : c ∈ a.base) : Text.isVisible c = true := by
  have hscheme : ∀ n < 0x80, isSchemeChar (Char.ofNat n) = true →
      Text.isVisible (Char.ofNat n) = true := by
    decide
  rw [base_eq] at hc
  simp only [List.mem_append, List.mem_cons] at hc
  rcases hc with hc | rfl | rfl | rfl | hc | hc
  · have hs := (h.scheme.chars c hc).1
    exact Text.of_ascii (P := fun c => isSchemeChar c = true → Text.isVisible c = true) hscheme
      (isSchemeChar_ascii hs) hs
  · decide
  · decide
  · decide
  · exact (Bool.and_eq_true_iff.mp (Host.isHostChar_of_mem_text h.host hc)).1
  · exact (Bool.and_eq_true_iff.mp (isHostChar_of_mem_portText hc)).1

/-- A path as it stands behind a base: empty, or with a slash before it. -/
structure IsPath (path : List Char) : Prop where
  head : ∀ c ∈ path.head?, c = '/'
  chars : ∀ c ∈ path, Text.isVisible c = true ∧ c ≠ '?' ∧ c ≠ '#'

/-- A query that is escaped already. -/
def IsQuery (k : Kind) (query : List Char) : Prop :=
  ∀ c ∈ query, Text.isVisible c = true ∧ c ≠ '#' ∧ Percent.inQuery k.isSpecial c = false

def queryText (query : List Char) : List Char := if query.isEmpty then [] else '?' :: query

theorem endsAuthority_of_isHostChar (h : Host.isHostChar c = true) :
    endsAuthority k c = false ∧ isSlash k c = false := by
  have hne : c ∉ ['/', '\\', '?', '#', '@'] := by
    simpa using (Bool.and_eq_true_iff.mp h).2
  simp only [List.mem_cons, List.not_mem_nil, or_false, not_or] at hne
  obtain ⟨h1, h2, h3, h4, -⟩ := hne
  simp [endsAuthority, isSlash, h1, h2, h3, h4]

theorem afterSlashes_append (h : ∃ c rest, cs = c :: rest ∧ isSlash k c = false)
    (hk : k ≠ .file) : afterSlashes? k ('/' :: '/' :: cs) = some cs := by
  obtain ⟨c, rest, rfl, hc⟩ := h
  have hslash : isSlash k '/' = true := rfl
  cases k with
  | special port => simp [afterSlashes?, hslash, hc]
  | file => simp at hk
  | other => simp [afterSlashes?, hslash]

/-- What follows the host is cut off where it starts. -/
theorem cutAuthority_append (h : ∀ c ∈ cs, Host.isHostChar c = true) (hpath : IsPath path)
    (query : List Char) :
    authorityPart k (cs ++ (path ++ queryText query)) = cs ∧
      afterAuthority k (cs ++ (path ++ queryText query)) = path ++ queryText query := by
  have hall : ∀ c ∈ cs, (!endsAuthority k c) = true := fun c hc => by
    simp [(endsAuthority_of_isHostChar (k := k) (h c hc)).1]
  have hstop : ∀ c ∈ (path ++ queryText query).head?, (!endsAuthority k c) = false := by
    intro c hc
    cases path with
    | nil =>
      rw [List.nil_append, queryText] at hc
      split at hc
      · simp at hc
      · obtain rfl : '?' = c := by simpa using hc
        rfl
    | cons d path =>
      obtain rfl : d = c := by simpa using hc
      rw [hpath.head d (by simp)]
      rfl
  exact ⟨Text.takeWhile_append_stop hall hstop, Text.dropWhile_append_stop hall hstop⟩

theorem cutQuery_append (hpath : IsPath path) (hquery : IsQuery k query) :
    pathPart (path ++ queryText query) = path ∧ queryPart (path ++ queryText query) = query := by
  have hall : ∀ c ∈ path, (c != '?' && c != '#') = true := fun c hc => by
    simp [(hpath.chars c hc).2]
  have hstop : ∀ c ∈ (queryText query).head?, (c != '?' && c != '#') = false := by
    intro c hc
    rw [queryText] at hc
    split at hc
    · simp at hc
    · obtain rfl : '?' = c := by simpa using hc
      rfl
  refine ⟨Text.takeWhile_append_stop hall hstop, ?_⟩
  rw [queryPart, Text.dropWhile_append_stop hall hstop, queryText]
  cases query with
  | nil => rfl
  | cons c query =>
    have hno : ∀ d ∈ c :: query, (d != '#') = true := fun d hd => by simp [(hquery d hd).2.1]
    exact List.takeWhile_eq_self_iff.mpr hno

theorem startsWithDrive_of_ne (hk : k ≠ .file) (cs : List Char) :
    startsWithDrive k cs = false := by
  simp [startsWithDrive, hk]

theorem visible_written (h : a.IsRead) (hpath : IsPath path) (hquery : IsQuery k query)
    (hc : c ∈ a.base ++ (path ++ queryText query)) : Text.isVisible c = true := by
  rw [List.mem_append, List.mem_append] at hc
  rcases hc with hc | hc | hc
  · exact visible_base h hc
  · exact (hpath.chars c hc).1
  · rw [queryText] at hc
    split at hc
    · simp at hc
    · rcases List.mem_cons.mp hc with rfl | hc
      · decide
      · exact (hquery c hc).1

/-- An address is read from its base, a path and a query. -/
theorem ofChars_written (h : a.IsRead) (hk : a.kind ≠ .file) (hpath : IsPath path)
    (hquery : IsQuery a.kind query) : ofChars? (a.base ++ (path ++ queryText query)) =
      some { a with path := readPath a.kind path, query } := by
  have hhost : ∀ c ∈ a.host.text ++ portText a.port, Host.isHostChar c = true := fun c hc =>
    isHostChar_of_mem_authority h.host hc
  obtain ⟨hauthority, hafter⟩ := cutAuthority_append (k := a.kind) hhost hpath query
  obtain ⟨hp, hq⟩ := cutQuery_append hpath hquery
  refine ofChars_eq_some_iff.mpr ⟨'/' :: '/' :: (a.host.text ++ portText a.port ++
    (path ++ queryText query)), a.host.text ++ portText a.port ++ (path ++ queryText query), [],
    ?_, ?_, ?_, ?_, ?_, ?_⟩
  · rw [tidy_visible fun c hc => visible_written h hpath hquery hc, base_eq, List.append_assoc,
      List.cons_append, List.cons_append, List.cons_append]
    exact cutScheme_append h.scheme _
  · obtain ⟨c, rest, hc⟩ := List.exists_cons_of_ne_nil (Host.text_ne_nil h.host)
    refine afterSlashes_append ⟨c, _, by rw [hc]; rfl, ?_⟩ hk
    exact (endsAuthority_of_isHostChar (hhost c (by simp [hc]))).2
  · exact (congrArg _ hauthority).trans (readAuthority_text hk h.host h.port)
  · exact startsWithDrive_of_ne hk _
  · rw [List.nil_append]
    exact congrArg (readPath a.kind) ((congrArg pathPart hafter).trans hp).symm
  · have hself : Percent.encode (Percent.inQuery a.kind.isSpecial) query = query :=
      Percent.encode_eq_self fun c hc =>
        ⟨Text.ascii_of_isVisible (hquery c hc).1, (hquery c hc).2.2⟩
    rw [List.nil_append]
    exact ((congrArg _ ((congrArg queryPart hafter).trans hq)).trans hself).symm

theorem endpoint_of_ne_nil (h : Percent.relax a.path ≠ []) : a.endpoint = Percent.relax a.path := by
  simp [endpoint, h]

theorem isPath_endpoint (h : ofChars? cs = some a) (hk : a.kind ≠ .file) : IsPath a.endpoint := by
  obtain ⟨segs, -, hsegs, he⟩ := endpoint_eq_pathText h hk
  obtain ⟨rest, hslash⟩ := endpoint_eq_cons h
  refine ⟨by simp [hslash], fun c hc => ?_⟩
  obtain ⟨s, hs, hcs⟩ := List.mem_flatMap.mp (he ▸ hc)
  rcases List.mem_cons.mp hcs with rfl | hcs
  · decide
  · refine ⟨(hsegs s hs).visible c hcs, ?_, ?_⟩
    all_goals
      rintro rfl
      exact absurd (((hsegs s hs).braces _ hcs).2 (by decide)) (by decide)

/-- The address of an endpoint is read as the path that the endpoint spells. -/
theorem ofChars_endpoint (h : ofChars? cs = some a) (hk : a.kind ≠ .file)
    (hquery : IsQuery a.kind query) : ofChars? (a.base ++ (a.endpoint ++ queryText query)) =
      some { a with path := readPath a.kind a.endpoint, query } :=
  ofChars_written (isRead_of_ofChars h) hk (isPath_endpoint h hk) hquery

theorem getLast_base (h : a.IsRead) : a.base.getLast? ≠ some '/' := by
  have hbase : a.base = a.scheme ++ [':', '/', '/'] ++ (a.host.text ++ portText a.port) := by
    simp [base_eq]
  have hne : a.host.text ++ portText a.port ≠ [] := by simp [Host.text_ne_nil h.host]
  intro hlast
  rw [hbase, List.getLast?_append_of_ne_nil _ hne] at hlast
  exact absurd (isHostChar_of_mem_authority h.host (List.mem_of_getLast? hlast)) (by decide)

end Address

namespace Location

open Address

variable {a : Address} {cs : List Char} {pairs : List (String × String)}

/-- The base of an address has no margins. -/
theorem trimmed_baseUrl (u : String) : Text.trimmed (ofText u).baseUrl = (ofText u).baseUrl := by
  rw [ofText]
  split
  · rename_i a ha
    have hread : a.IsRead := isRead_of_ofChars ha
    refine Text.trimmed_visible fun c hc => visible_base hread ?_
    rwa [String.toList_ofList] at hc
  · exact Text.trimmed_trimmed u

theorem join_base (h : ofChars? cs = some a) :
    join (String.ofList a.base) (String.ofList a.endpoint) =
      String.ofList (a.base ++ a.endpoint) := by
  obtain ⟨rest, he⟩ := endpoint_eq_cons h
  have hlast : (a.base.getLast? == some '/') = false := by
    simpa using getLast_base (isRead_of_ofChars h)
  simp [join, hlast, he]

theorem isQuery_encode (k : Kind) (pairs : List (String × String)) :
    IsQuery k (Form.encode pairs) := by
  have hall : ∀ n < 0x80,
      Form.isFormChar (Char.ofNat n) = true ∨ Char.ofNat n = '=' ∨ Char.ofNat n = '&' →
        Text.isVisible (Char.ofNat n) = true ∧ Char.ofNat n ≠ '#' ∧
          ∀ special, Percent.inQuery special (Char.ofNat n) = false := by
    decide
  intro c hc
  obtain ⟨hascii, hform⟩ := Form.mem_encode hc
  obtain ⟨hv, hh, hq⟩ := Text.of_ascii (P := fun c => Form.isFormChar c = true ∨ c = '=' ∨ c = '&' →
    Text.isVisible c = true ∧ c ≠ '#' ∧ ∀ special, Percent.inQuery special c = false) hall hascii
      hform
  exact ⟨hv, hh, hq _⟩

/-- An address that is written from its parts gives its base and its parameters back, and the
endpoint that its endpoint spells. -/
theorem ofText_written (h : ofChars? cs = some a) (hk : a.kind ≠ .file)
    (pairs : List (String × String)) :
    ofText (String.ofList (a.base ++ (a.endpoint ++ queryText (Form.encode pairs)))) =
      ⟨String.ofList a.base, String.ofList (Percent.relax (readPath a.kind a.endpoint)),
        ParamList.ofPairs pairs, true⟩ := by
  have hquery := isQuery_encode a.kind pairs
  have hread := ofChars_endpoint h hk hquery
  have hpath : Percent.relax (readPath a.kind a.endpoint) ≠ [] := by
    obtain ⟨segs, hne, hsegs, he⟩ := endpoint_eq_pathText h hk
    rw [he, readPath_pathText hk hne hsegs, relax_pathText,
      pathText_eq (by simpa using walk_ne_nil _ _)]
    simp
  rw [ofText, Text.trimmed_visible fun c hc => visible_written (isRead_of_ofChars h)
    (isPath_endpoint h hk) hquery (by rwa [String.toList_ofList] at hc), ofText?,
    String.toList_ofList, hread]
  have hendpoint : Address.endpoint
      { a with path := readPath a.kind a.endpoint, query := Form.encode pairs } =
        Percent.relax (readPath a.kind a.endpoint) := endpoint_of_ne_nil hpath
  simp [hendpoint, Address.base, Address.queryParams, Form.decode_encode]

end Location

end CurlScribe
