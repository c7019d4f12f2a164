import CurlScribe.Proofs.Json.Projection
import CurlScribe.Proofs.Request.Tidy

/-! Projections that name whole fields of a request: the fields go back to what they are where
nothing is said, and all others are cleaned as if the projection were not there. -/
namespace CurlScribe

open Json Inclusion

namespace Inclusion

variable {s : String}

theorem dot_mem_joined_of_head (h : '.' ∈ s.toList) (rest : List String) :
    '.' ∈ (joined (s :: rest)).toList := by
  induction rest generalizing s with
  | nil => exact h
  | cons t rest ih =>
    rw [joined_cons]
    exact ih (by simp)

/-- The path of a part that stands in another part has a point in it. -/
theorem dot_mem_joined (s t : String) (rest : List String) :
    '.' ∈ (joined (s :: t :: rest)).toList := by
  rw [joined_cons]
  exact dot_mem_joined_of_head (by simp) rest

end Inclusion

namespace Json

variable {m : Inclusion}

/-! A value in which nothing is excluded stays as it is. -/

mutual

theorem projectAt_eq_self {steps : List Step} :
    ∀ {v : Json}, (∀ n ∈ (nodesAt steps v).tail, m.excludes (rooted n.segments) = false) →
      projectAt m (rooted (steps.map Step.segment)) v = v
  | null, _ | bool _, _ | num _, _ | str _, _ => rfl
  | arr _, h => congrArg arr (projectItems_eq_self 0 h)
  | obj _, h => congrArg obj (projectFields_eq_self h)

theorem projectItems_eq_self {steps : List Step} (index : Nat) :
    ∀ {items : List Json},
      (∀ n ∈ itemNodes steps index items, m.excludes (rooted n.segments) = false) →
        projectItems m (rooted (steps.map Step.segment)) index items = items
  | [], _ => rfl
  | v :: rest, h => by
    rw [itemNodes, List.forall_mem_append, nodesAt_eq_cons, List.forall_mem_cons] at h
    obtain ⟨⟨hself, hparts⟩, hrest⟩ := h
    have hv := projectAt_eq_self hparts
    rw [Node.segments, rooted_step] at hself
    rw [rooted_step] at hv
    simp only [Step.segment] at hself hv
    rw [projectItems, if_neg (by rw [hself]; decide), hv, projectItems_eq_self (index + 1) hrest]

theorem projectFields_eq_self {steps : List Step} :
    ∀ {fields : List (String × Json)},
      (∀ n ∈ fieldNodes steps fields, m.excludes (rooted n.segments) = false) →
        projectFields m (rooted (steps.map Step.segment)) fields = fields
  | [], _ => rfl
  | (key, v) :: rest, h => by
    rw [fieldNodes, List.forall_mem_append, nodesAt_eq_cons, List.forall_mem_cons] at h
    obtain ⟨⟨hself, hparts⟩, hrest⟩ := h
    have hv := projectAt_eq_self hparts
    rw [Node.segments, rooted_step] at hself
    rw [rooted_step] at hv
    simp only [Step.segment] at hself hv
    rw [projectFields, if_neg (by rw [hself]; decide), hv, projectFields_eq_self hrest]

end

/-- Fields that go as a whole or stay as they are. -/
theorem projectFields_top {fields : List (String × Json)}
    (h : ∀ e ∈ fields, projectAt m e.1 e.2 = e.2) :
    projectFields m "" fields = fields.filter fun e => !m.excludes e.1 := by
  induction fields with
  | nil => rfl
  | cons e rest ih =>
    obtain ⟨he, hrest⟩ := List.forall_mem_cons.mp h
    rw [projectFields, childPath, if_pos rfl, he, ih hrest]
    cases hx : m.excludes e.1 <;> simp [hx]

namespace Record

variable {σ α : Type} {c : Codec α} {tidy : α → Option α} {named : String → Bool} {r s : σ}

theorem filter_write (d : Record σ) (r : σ) (p : String → Bool) :
    (d.write r).filter (fun e => p e.1) =
      (d.fields.filter fun f => p f.name).filterMap fun f =>
        (f.write r).map fun v => (f.name, v) := by
  rw [write, List.filter_filterMap, List.filterMap_filter]
  refine congrArg (List.filterMap · d.fields) (funext fun f => ?_)
  cases f.write r <;> cases hp : p f.name <;> simp [Option.filter, hp]

/-- A field of a record that is left out keeps its first value. -/
theorem restore_always_unless (hc : c.Tidies tidy) {get : σ → α} {set : α → σ → σ} {start : α}
    (name : String) (fs : List (Field σ)) (hs : set start s = s) :
    restore r ((Field.always name c get set :: fs).filter fun f => !named f.name) s =
      restore r (fs.filter fun f => !named f.name)
        (set (if named name then start else (tidy (get r)).getD start) s) := by
  cases hn : named name with
  | true => rw [List.filter_cons_of_neg (by simp [hn]), if_pos rfl, hs]
  | false =>
    rw [List.filter_cons_of_pos (by simp [hn]), if_neg (by decide),
      restore_cons (Field.restore_always hc name r hs)]

theorem restore_optional_unless (hc : c.Tidies tidy) {get : σ → Option α}
    {set : Option α → σ → σ} (name : String) (fs : List (Field σ)) (hs : set none s = s) :
    restore r ((Field.optional name c get set :: fs).filter fun f => !named f.name) s =
      restore r (fs.filter fun f => !named f.name)
        (set (if named name then none else (get r).bind tidy) s) := by
  cases hn : named name with
  | true => rw [List.filter_cons_of_neg (by simp [hn]), if_pos rfl, hs]
  | false =>
    rw [List.filter_cons_of_pos (by simp [hn]), if_neg (by decide),
      restore_cons (Field.restore_optional hc name r hs)]

end Record

end Json

namespace Request

variable {m : Inclusion} {r : Request}

def fieldNames : List String := record.fields.map Field.name

theorem plain_of_mem_fieldNames {name : String} (h : name ∈ fieldNames) :
    name ≠ "" ∧ '.' ∉ name.toList := by
  have hall : ∀ name ∈ fieldNames, name ≠ "" ∧ '.' ∉ name.toList := by decide
  exact hall name h

/-- The named fields are those of `d`. -/
def replace (named : String → Bool) (r d : Request) : Request where
  method := if named "method" then d.method else r.method
  url := if named "url" then d.url else r.url
  baseUrl := if named "baseUrl" then d.baseUrl else r.baseUrl
  endpoint := if named "endpoint" then d.endpoint else r.endpoint
  pathTemplate := if named "pathTemplate" then d.pathTemplate else r.pathTemplate
  pathParameters := if named "pathParameters" then d.pathParameters else r.pathParameters
  queryParams := if named "queryParams" then d.queryParams else r.queryParams
  headers := if named "headers" then d.headers else r.headers
  body := if named "body" then d.body else r.body
  formData := if named "formData" then d.formData else r.formData
  cookies := if named "cookies" then d.cookies else r.cookies
  auth := if named "auth" then d.auth else r.auth
  proxy := if named "proxy" then d.proxy else r.proxy
  userAgent := if named "userAgent" then d.userAgent else r.userAgent
  referer := if named "referer" then d.referer else r.referer
  flags := if named "flags" then d.flags else r.flags
  network := if named "networkConfig" then d.network else r.network
  tls := if named "sslConfig" then d.tls else r.tls
  rawOptions := if named "rawOptions" then d.rawOptions else r.rawOptions

/-- The named fields are as they are where nothing is said. -/
def reset (named : String → Bool) (r : Request) : Request := r.replace named {}

theorem restore_unless (named : String → Bool) (r : Request) :
    Record.restore r (record.fields.filter fun f => !named f.name) record.start =
      .ok (r.tidied.reset named) := by
  have htext := Codec.tidies_text
  have hlist := Codec.tidies_list Codec.tidies_text
  rw [record]
  rw [Record.restore_always_unless Method.tidies _ _ rfl]
  iterate 4 rw [Record.restore_always_unless htext _ _ rfl]
  rw [Record.restore_always_unless hlist _ _ rfl]
  iterate 2 rw [Record.restore_always_unless ParamList.tidies _ _ rfl]
  rw [Record.restore_optional_unless Body.tidies _ _ rfl]
  iterate 2 rw [Record.restore_always_unless ParamList.tidies _ _ rfl]
  rw [Record.restore_optional_unless Auth.tidies _ _ rfl]
  iterate 3 rw [Record.restore_optional_unless htext _ _ rfl]
  rw [Record.restore_always_unless Flags.tidies _ _ rfl,
    Record.restore_optional_unless Network.tidies _ _ rfl,
    Record.restore_optional_unless Tls.tidies _ _ rfl,
    Record.restore_always_unless hlist _ _ rfl]
  simp only [List.filter_nil, Record.restore, Option.getD_some, getD_text, getD_list, getD_params,
    getD_flags, bind_group, bind_body, Option.bind_guard]
  simp [reset, replace, tidied]

theorem mem_fieldNames {e : String × Json} (he : e ∈ record.write r) : e.1 ∈ fieldNames := by
  obtain ⟨f, hf, hw⟩ := List.mem_filterMap.mp he
  obtain ⟨v, -, rfl⟩ := Option.map_eq_some_iff.mp hw
  exact List.mem_map_of_mem hf

/-- Every excluded path is the name of a field, or that of no part of the JSON form. -/
def ExcludesFields (m : Inclusion) (r : Request) : Prop :=
  ∀ path, m.excludes path = true →
    path ∈ fieldNames ∨ ∀ n ∈ (codec.write r).nodes, n.steps ≠ [] → joined n.segments ≠ path

/-- Inside a field nothing is excluded. -/
theorem not_excludes_inside (h : ExcludesFields m r) {e : String × Json} (he : e ∈ record.write r)
    {n : Node} (hn : n ∈ (nodesAt [.field e.1] e.2).tail) :
    m.excludes (rooted n.segments) = false := by
  obtain ⟨hne, -⟩ := plain_of_mem_fieldNames (mem_fieldNames he)
  obtain ⟨x, rest, hsteps⟩ := exists_step_of_mem_tail hn
  have hseg : n.segments = e.1 :: x.segment :: rest.map Step.segment := by
    simp [Node.segments, ← hsteps, Step.segment]
  have hmem : n ∈ (codec.write r).nodes := List.mem_cons_of_mem _
    (mem_fieldNodes he (List.mem_of_mem_tail hn))
  rw [rooted_of_head (by simpa [hseg] using hne)]
  by_contra hx
  rcases h _ (by simpa using hx) with hname | hnone
  · refine (plain_of_mem_fieldNames hname).2 ?_
    rw [hseg]
    exact dot_mem_joined _ _ _
  · exact hnone n hmem (by simp [← hsteps]) rfl

theorem project_write (h : ExcludesFields m r) : Json.project m (codec.write r) =
    obj ((record.write r).filter fun e => !m.excludes e.1) := by
  have hfields : projectFields m "" (record.write r) =
      (record.write r).filter fun e => !m.excludes e.1 := by
    refine projectFields_top fun e he => ?_
    have hself := projectAt_eq_self fun n hn => not_excludes_inside h he hn
    have hne : e.1 ≠ "" := (plain_of_mem_fieldNames (mem_fieldNames he)).1
    have hroot : rooted [e.1] = e.1 := rooted_of_head (by simpa using hne)
    simpa only [List.map_singleton, Step.segment, hroot] using hself
  exact congrArg obj hfields

theorem project_eq (h : ExcludesFields m r) : project m r = .ok (r.tidied.reset m.excludes) := by
  have hread : codec.read (obj (pruneFields ((record.write r).filter fun e => !m.excludes e.1))) =
      record.readFields record.start
        (pruneFields ((record.write r).filter fun e => !m.excludes e.1)) := rfl
  rw [project, project_write h, pruned_obj, hread,
    Record.filter_write record r fun name => !m.excludes name,
    Record.readFields_pruned_of record (by decide) r _ fun f hf => (List.mem_filter.mp hf).1,
    restore_unless]

theorem reset_nothing {named : String → Bool} (h : ∀ name, named name = false) (s : Request) :
    s.reset named = s := by
  simp [reset, replace, h]

/-- Excluding whole fields resets them in the cleaned request, and does nothing else; excluding
nothing is cleaning. -/
theorem project_resets_fields (r : Request) :
    (∀ m, ExcludesFields m r → ∃ s, r.clean = .ok s ∧ project m r = .ok (s.reset m.excludes)) ∧
      ∀ m : Inclusion, (∀ e ∈ m.paths, e.2 = true) → project m r = r.clean := by
  refine ⟨fun m h => ⟨r.tidied, clean_eq r, project_eq h⟩, fun m hm => ?_⟩
  have hnone : ∀ path, m.excludes path = false := by
    intro path
    by_contra hx
    have hl : m.paths.lookup path = some false := by simpa [excludes] using hx
    obtain ⟨before, after, hpaths, -⟩ := List.lookup_eq_some_iff.mp hl
    exact Bool.false_ne_true (hm (path, false) (by simp [hpaths]))
  have h : ExcludesFields m r := fun path hp => by simp [hnone path] at hp
  rw [project_eq h, reset_nothing hnone, clean_eq]

/-- Two fields, one of them absent, and a header that is not there. -/
def agentless : Inclusion :=
  ⟨[("userAgent", false), ("headers.2", false), ("body", false), ("headers", true)]⟩

/-- A header is void, and the group of settings is not. -/
def labelled : Request :=
  { url := "http://[::1]/", headers := ⟨[⟨"A", "1", true⟩, ⟨"", "", false⟩]⟩,
    userAgent := some "agent", network := some { retry := some 2 } }

theorem excludesFields_agentless : ExcludesFields agentless labelled := by
  intro path hp
  have hpath : path = "userAgent" ∨ path = "headers.2" ∨ path = "body" := by
    simp only [excludes, agentless, List.lookup_cons, List.lookup_nil] at hp
    grind
  rcases hpath with rfl | rfl | rfl
  · exact .inl (by decide)
  · exact .inr (by decide +kernel)
  · exact .inl (by decide)

theorem labelled_loses_its_agent :
    ExcludesFields agentless labelled ∧
      ∃ s, labelled.clean = .ok s ∧ project agentless labelled = .ok (s.reset agentless.excludes) :=
  ⟨excludesFields_agentless, (project_resets_fields labelled).1 _ excludesFields_agentless⟩

end Request

end CurlScribe
