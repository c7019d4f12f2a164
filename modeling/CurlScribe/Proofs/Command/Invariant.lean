import CurlScribe.Proofs.Command.Reading
import CurlScribe.Proofs.Text.Cut

/-! What every draft of a command line has in common. -/
namespace CurlScribe

namespace Command

variable {policy : Repeated} {options : CommandOptions} {d : Draft} {word : String}

/-- What each word preserves, all words preserve. -/
theorem follow_preserves {P : Draft → Prop}
    (happly : ∀ o name value d, P d → P (apply policy o name value d))
    (hargument : ∀ word d, P d → P (addArgument word d))
    (hswitches : ∀ word flags d, read word = .switches flags → P d → P (setFlags flags d))
    (htls : ∀ word version d, read word = .tls version → P d →
      P { d with tls := { d.tls with version := some version } })
    (hkeep : ∀ word d, P d → P (keep [word] d)) (words : List String) (hd : P d) :
    P (follow policy d words) := by
  fun_induction follow policy d words with
  | case1 d => exact hd
  | case2 d word o h => exact hd
  | case3 d word o h value rest ih => exact ih (happly o word _ d hd)
  | case4 d word rest h ih => exact ih (hargument word d hd)
  | case5 d word flags rest h ih => exact ih (hswitches word flags d h hd)
  | case6 d word version rest h ih => exact ih (htls word version d h hd)
  | case7 d word o name value rest h ih => exact ih (happly o name value d hd)
  | case8 d word rest h ih => exact ih (hkeep word d hd)

/-- The parts that a command line gives to a draft read back, and it gives no others. -/
structure IsRead (policy : Repeated) (d : Draft) : Prop where
  headers : ∀ p ∈ d.headers.entries, p.IsHeader
  headersDistinct : policy = .keepAll ∨ d.headers.Distinct
  cookies : ∀ p ∈ d.cookies.entries, p.IsCookie
  cookiesDistinct : d.cookies.Distinct
  fields : ∀ p ∈ d.formData.entries, p.IsField
  fieldsDistinct : d.formData.Distinct
  auth : ∀ a, d.auth = some a → a.IsGiven
  flags : ∀ e ∈ d.flags.entries, e.2 = true ∧ e.1 ∈ Switch.all.map Switch.flag
  body : ∀ b, d.body = some b → b = .ofText b.raw
  noTimeout : d.network.timeout = none
  version : ∀ v, d.tls.version = some v → v ∈ TlsVersion.all.map Prod.snd
  noParts : d.baseUrl = none ∧ d.endpoint = none ∧ d.pathTemplate = none ∧
    d.pathParameters = none ∧ d.queryParams = .empty
  noGroups : d.networkGroup = none ∧ d.tlsGroup = none

theorem isRead_initial : IsRead policy {} where
  headers := by simp [ParamList.empty]
  headersDistinct := .inr List.nodup_nil
  cookies := by simp [ParamList.empty]
  cookiesDistinct := List.nodup_nil
  fields := by simp [ParamList.empty]
  fieldsDistinct := List.nodup_nil
  auth := by simp
  flags := by simp [Flags.empty]
  body := by simp
  noTimeout := rfl
  version := by simp
  noParts := ⟨rfl, rfl, rfl, rfl, rfl⟩
  noGroups := ⟨rfl, rfl⟩

theorem not_mem_of_cutAt {c : Char} {cs before after : List Char}
    (h : cutAt? c cs = some (before, after)) : c ∉ before ∧ cs = before ++ c :: after := by
  have hs := List.takeWhile_append_dropWhile (p := (· != c)) (l := cs)
  unfold cutAt? at h
  split at h
  · rename_i d rest hd
    obtain ⟨rfl, rfl⟩ := Prod.mk.inj (Option.some.inj h)
    have hdc : d = c := by
      have := List.head?_dropWhile_not (· != c) cs
      simpa [hd] using this
    subst hdc
    refine ⟨fun hm => ?_, by rw [← hd, hs]⟩
    simpa using List.mem_takeWhile_imp hm
  · simp at h

theorem isRead_addHeader (hd : IsRead policy d) (value : List Char) :
    IsRead policy (addHeader policy value d) := by
  unfold addHeader
  split
  · rename_i name rest hc
    dsimp only
    split
    · exact hd
    · rename_i hne
      have hcolon := (not_mem_of_cutAt hc).1
      refine { hd with
        headers := ParamList.forall_insertWith hd.headers ?_
        headersDistinct := ParamList.distinct_insertWith hd.headersDistinct }
      exact {
        enabled := rfl
        named := by simpa using hne
        key := by simpa using Text.isTrim_trim name
        noColon := by
          rw [String.toList_ofList]
          exact fun hm => hcolon (Text.mem_of_mem_trim hm)
        value := by simpa using Text.isTrim_trim rest }
  · exact hd

theorem not_mem_of_cutAt_none {c : Char} {cs : List Char} (h : cutAt? c cs = none) : c ∉ cs := by
  unfold cutAt? at h
  split at h
  · simp at h
  · rename_i hd
    intro hm
    simpa using List.dropWhile_eq_nil_iff.mp hd c hm

theorem isGiven_readUser (value : List Char) : (readUser value).IsGiven := by
  unfold readUser
  split
  · rename_i hc
    refine ⟨rfl, show ':' ∉ (String.ofList _).toList from ?_⟩
    simpa using (not_mem_of_cutAt hc).1
  · rename_i hc
    refine ⟨rfl, show ':' ∉ (String.ofList _).toList from ?_⟩
    simpa using not_mem_of_cutAt_none hc

theorem isRead_addFormField (hd : IsRead policy d) (value : List Char) :
    IsRead policy (addFormField value d) := by
  have hkey : '=' ∉ ((cutAt? '=' value).getD (value, [])).1 := by
    cases hc : cutAt? '=' value with
    | none => exact not_mem_of_cutAt_none hc
    | some parts => exact (not_mem_of_cutAt hc).1
  unfold addFormField
  generalize (cutAt? '=' value).getD (value, []) = parts at hkey
  obtain ⟨name, rest⟩ := parts
  refine { hd with
    fields := ParamList.forall_insertWith hd.fields ?_
    fieldsDistinct := ParamList.distinct_insert hd.fieldsDistinct }
  exact {
    enabled := rfl
    key := by simpa using Text.isTrim_trim name
    noEquals := by
      rw [String.toList_ofList]
      exact fun hm => hkey (Text.mem_of_mem_trim hm) }

theorem isCookie_of_mem {value : List Char} {e : String × String} (h : e ∈ readCookies value) :
    (⟨e.1, e.2, true⟩ : Param).IsCookie := by
  obtain ⟨part, hp, hr⟩ := List.mem_filterMap.mp h
  have hsemi := (Text.mem_splitOn hp).1
  unfold readCookie? at hr
  split at hr
  · rename_i name rest hc
    obtain rfl := Option.some.inj hr
    obtain ⟨hequals, hpart⟩ := not_mem_of_cutAt hc
    rw [hpart] at hsemi
    exact {
      enabled := rfl
      key := by simpa using Text.isTrim_trim name
      noEquals := by
        rw [String.toList_ofList]
        exact fun hm => hequals (Text.mem_of_mem_trim hm)
      noSemicolon := by
        rw [String.toList_ofList, String.toList_ofList]
        refine ⟨fun hm => hsemi ?_, fun hm => hsemi ?_⟩
        · exact List.mem_append_left _ (Text.mem_of_mem_trim hm)
        · exact List.mem_append_right _ (List.mem_cons_of_mem _ (Text.mem_of_mem_trim hm))
      value := by simpa using Text.isTrim_trim rest }
  · simp at hr

/-- Cookies that are inserted one by one keep what holds of each of them. -/
theorem cookies_insertAll (pairs : List (String × String)) {l : ParamList}
    (hp : ∀ e ∈ pairs, (⟨e.1, e.2, true⟩ : Param).IsCookie) (hl : ∀ p ∈ l.entries, p.IsCookie)
    (hd : l.Distinct) : (∀ p ∈ (pairs.foldl (fun l (k, v) => l.insert k v) l).entries, p.IsCookie) ∧
      (pairs.foldl (fun l (k, v) => l.insert k v) l).Distinct := by
  induction pairs generalizing l with
  | nil => exact ⟨hl, hd⟩
  | cons e pairs ih =>
    exact ih (fun f hf => hp f (by simp [hf])) (ParamList.forall_insertWith hl (hp e (by simp)))
      (ParamList.distinct_insert hd)

theorem isRead_keep (hd : IsRead policy d) (words : List String) : IsRead policy (keep words d) :=
  { hd with }

theorem isRead_addCookies (hd : IsRead policy d) (name value : String) :
    IsRead policy (addCookies name value d) := by
  unfold addCookies
  split
  · obtain ⟨hall, hdistinct⟩ := cookies_insertAll (readCookies value.toList)
      (fun e he => isCookie_of_mem he) hd.cookies hd.cookiesDistinct
    exact { hd with
      cookies := hall
      cookiesDistinct := hdistinct }
  · exact isRead_keep hd _

/-- No option adds anything that does not read back. -/
theorem isRead_apply (o : ValueOption) (name value : String) (hd : IsRead policy d) :
    IsRead policy (apply policy o name value d) := by
  unfold apply
  dsimp only
  -- the number is beside the point, and is not to be computed
  generalize Argument.real? (Text.trim value.toList) = x
  cases o with
  | request =>
    dsimp only
    split
    · exact { hd with }
    · exact hd
  | header => exact isRead_addHeader hd _
  | data => exact { hd with body := by simp [Body.ofText] }
  | user => exact { hd with auth := by simpa using isGiven_readUser value.toList }
  | bearer => exact { hd with auth := by simp [Auth.IsGiven, Auth.bearer] }
  | form => exact isRead_addFormField hd _
  | cookie => exact isRead_addCookies hd _ _
  | url =>
    dsimp only
    split
    · exact { hd with }
    · exact isRead_keep hd _
  | inert => exact isRead_keep hd _
  | _ => exact { hd with }

theorem isRead_setFlags {flags : List String}
    (hf : ∀ name ∈ flags, name ∈ Switch.all.map Switch.flag) (hd : IsRead policy d) :
    IsRead policy (setFlags flags d) := by
  have hset : ∀ e ∈ (flags.foldl (fun f name => f.set name true) d.flags).entries,
      e.2 = true ∧ e.1 ∈ Switch.all.map Switch.flag := by
    have hall := hd.flags
    generalize d.flags = f at hall
    induction flags generalizing f with
    | nil => exact hall
    | cons name flags ih =>
      refine ih (fun n hn => hf n (by simp [hn])) (f.set name true) fun e he => ?_
      rcases Named.mem_put he with he | rfl
      · exact hall e he
      · exact ⟨rfl, hf name (by simp)⟩
  exact { hd with flags := hset }

/-- The draft of a command line. -/
theorem isRead_follow (words : List String) (hd : IsRead policy d) :
    IsRead policy (follow policy d words) := by
  refine follow_preserves (fun o name value d hd => isRead_apply o name value hd) ?_ ?_ ?_ ?_ words
    hd
  · intro word d hd
    unfold addArgument
    dsimp only
    split
    · exact { hd with }
    · exact isRead_keep hd _
  · intro word flags d h hd
    exact isRead_setFlags (switches_of_read h) hd
  · intro word version d h hd
    exact { hd with version := by simpa using version_of_read h }
  · intro word d hd
    exact isRead_keep hd _

theorem isRead_interpret (words : List String) :
    IsRead options.repeatedHeaders (interpret options words) := by
  unfold interpret
  split
  · split
    · exact isRead_follow _ isRead_initial
    · exact isRead_follow _ isRead_initial
  · exact isRead_initial

end Command

end CurlScribe
