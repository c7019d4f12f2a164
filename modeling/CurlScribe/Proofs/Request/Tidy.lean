import CurlScribe.Proofs.Json.Restore
import CurlScribe.Request.Clean

/-! Dropping empty content, field by field. -/
namespace CurlScribe

open Json

namespace Param

/-- An entry that says nothing: switched off, without key and value. -/
def isVoid (p : Param) : Bool := p.key == "" && p.value == "" && !p.enabled

theorem tidies : Param.record.codec.Tidies (Option.guard fun p => !p.isVoid) := by
  refine Record.tidies_codec Param.record id isVoid (by decide) ?_ ?_
  · intro p
    simp [Param.record, Field.always, Codec.text, Codec.switch, prune?, isVoid, and_assoc]
  · intro p
    rw [Param.record, Record.restore_cons (Field.restore_always Codec.tidies_text _ p rfl),
      Record.restore_cons (Field.restore_always Codec.tidies_text _ p rfl),
      Record.restore_cons (Field.restore_always Codec.tidies_switch _ p rfl)]
    obtain ⟨key, value, enabled⟩ := p
    by_cases hk : key = "" <;> by_cases hv : value = "" <;> cases enabled <;>
      simp [Record.restore, Option.guard, hk, hv]

end Param

namespace ParamList

/-- Without the entries that say nothing. -/
def tidied (l : ParamList) : ParamList := ⟨l.entries.filter fun p => !p.isVoid⟩

theorem tidied_of_enabled {l : ParamList} (h : ∀ p ∈ l.entries, p.enabled = true) :
    l.tidied = l := by
  have hf : l.entries.filter (fun p => !p.isVoid) = l.entries :=
    List.filter_eq_self.mpr fun p hp => by simp [Param.isVoid, h p hp]
  rw [tidied, hf]

theorem tidies : ParamList.codec.Tidies fun l => Option.guard (fun m => !m.isEmpty) l.tidied := by
  intro l
  have h := Codec.tidies_list Param.tidies l.entries
  rw [List.filterMap_eq_filter] at h
  simp only [codec, Codec.list, prune?] at h ⊢
  generalize pruneItems (l.entries.map Param.record.codec.write) = kept at h ⊢
  cases kept with
  | nil => simp_all [Option.guard, tidied, isEmpty]
  | cons v rest =>
    simp only [Option.map_some, Option.guard] at h
    split at h
    · simp_all [Option.guard, tidied, isEmpty]
    · simp at h

end ParamList

namespace Method

theorem ofText_name (m : Method) : ofText? m.name = some m := by
  cases m <;> decide

theorem tidies : Method.codec.Tidies some := by
  refine Codec.tidies_of_kept fun m => ⟨?_, ?_⟩
  · cases m <;> simp [codec, name, prune?]
  · simp [codec, ofText_name]

end Method

namespace Auth

theorem tidies : Auth.codec.Tidies some := by
  rintro ⟨scheme, enabled⟩
  cases scheme with
  | none => cases enabled <;> simp [codec, Scheme.fields, prune?, pruneFields, Scheme.ofFields,
      Scheme.Kind.ofJson, List.lookup_cons, Codec.switch, bind, Except.bind, pure, Except.pure]
  | basic username password =>
    by_cases hu : username = "" <;> by_cases hp : password = "" <;> cases enabled <;>
      simp [codec, Scheme.fields, prune?, pruneFields, Scheme.ofFields, hu, hp, Codec.text,
        Scheme.textField, Scheme.Kind.ofJson, List.lookup_cons, Codec.switch, bind, Except.bind,
        pure, Except.pure]
  | bearer token =>
    by_cases ht : token = "" <;> cases enabled <;>
      simp [codec, Scheme.fields, prune?, pruneFields, Scheme.ofFields, ht, Codec.text,
        Scheme.textField, Scheme.Kind.ofJson, List.lookup_cons, Codec.switch, bind, Except.bind,
        pure, Except.pure]

end Auth

namespace Body

theorem tidies : Body.codec.Tidies fun b => if b.raw = "" then none else some (ofText b.raw) := by
  intro b
  by_cases h : b.raw = "" <;> simp [codec, prune?, h, ofJson]

end Body

namespace Network

/-- Without times that are not finite. -/
def tidied (n : Network) : Network where
  timeout := n.timeout.filter Binary64.isFinite
  connectTimeout := n.connectTimeout.filter Binary64.isFinite
  maxTime := n.maxTime.filter Binary64.isFinite
  retry := n.retry
  retryDelay := n.retryDelay.filter Binary64.isFinite
  retryMaxTime := n.retryMaxTime.filter Binary64.isFinite
  maxRedirects := n.maxRedirects

theorem tidies : Network.record.codec.Tidies fun n =>
    Option.guard (fun m => !m.isEmpty) n.tidied := by
  refine Record.tidies_codec Network.record tidied isEmpty (by decide) ?_ ?_
  · intro n
    simp only [record, fieldsIn, List.forall_mem_cons, Field.bind_prune_optional Codec.tidies_real,
      Field.bind_prune_optional Codec.tidies_count32,
      Field.bind_prune_optional Codec.tidies_integer32, Option.bind_guard]
    simp [isEmpty, tidied]
  · intro n
    rw [record, fieldsIn]
    iterate 3 rw [Record.restore_cons (Field.restore_optional Codec.tidies_real _ n rfl)]
    rw [Record.restore_cons (Field.restore_optional Codec.tidies_count32 _ n rfl)]
    iterate 2 rw [Record.restore_cons (Field.restore_optional Codec.tidies_real _ n rfl)]
    rw [Record.restore_cons (Field.restore_optional Codec.tidies_integer32 _ n rfl)]
    simp [Record.restore, Option.bind_guard, tidied]

end Network

namespace Tls

/-- Without empty texts. -/
def tidied (t : Tls) : Tls where
  cert := t.cert.filter (· != "")
  key := t.key.filter (· != "")
  caCert := t.caCert.filter (· != "")
  caPath := t.caPath.filter (· != "")
  version := t.version.filter (· != "")

theorem tidies : Tls.record.codec.Tidies fun t =>
    Option.guard (fun u => !u.isEmpty) t.tidied := by
  refine Record.tidies_codec Tls.record tidied isEmpty (by decide) ?_ ?_
  · intro t
    simp only [record, fieldsIn, List.forall_mem_cons, Field.bind_prune_optional Codec.tidies_text,
      Option.bind_guard]
    simp [isEmpty, tidied]
  · intro t
    rw [record, fieldsIn]
    iterate 5 rw [Record.restore_cons (Field.restore_optional Codec.tidies_text _ t rfl)]
    simp [Record.restore, Option.bind_guard, tidied]

end Tls

namespace Flags

variable {f g : Flags}

theorem eq_of_entries (h : f.entries = g.entries) : f = g := by
  cases f
  cases g
  simp_all

/-- Without the switches that are off. -/
def tidied (f : Flags) : Flags where
  entries := f.entries.filter Prod.snd
  distinct := (List.filter_sublist.map Prod.fst).nodup f.distinct

theorem tidied_of_on {f : Flags} (h : ∀ e ∈ f.entries, e.2 = true) : f.tidied = f := by
  apply eq_of_entries
  exact List.filter_eq_self.mpr fun e he => h e he

/-- Switches of new names are read to the end of the list. -/
theorem readFields_new (entries : List (String × Bool)) (f : Flags)
    (hn : (Named.names (f.entries ++ entries)).Nodup) :
    ∃ g, readFields f (entries.map fun (name, on) => (name, .bool on)) = .ok g ∧
      g.entries = f.entries ++ entries := by
  induction entries generalizing f with
  | nil => exact ⟨f, rfl, by simp⟩
  | cons e rest ih =>
    have hnew : e.1 ∉ Named.names f.entries := by
      intro hm
      simp only [Named.names, List.map_append, List.map_cons] at hn
      exact (List.nodup_append.mp hn).2.2 e.1 hm e.1 (by simp) rfl
    have hset : (f.set e.1 e.2).entries = f.entries ++ [e] := Named.put_of_new hnew e.2
    obtain ⟨g, hg, he⟩ := ih (f.set e.1 e.2) (by rw [hset, List.append_assoc]; exact hn)
    exact ⟨g, hg, by rw [he, hset, List.append_assoc]; rfl⟩

theorem pruneFields_switches (entries : List (String × Bool)) :
    pruneFields (entries.map fun (name, on) => (name, .bool on)) =
      (entries.filter Prod.snd).map fun (name, on) => (name, .bool on) := by
  induction entries with
  | nil => rfl
  | cons e rest ih =>
    obtain ⟨name, on⟩ := e
    cases on <;> simp [pruneFields_cons, prune?, ih]

theorem tidies : Flags.codec.Tidies fun f =>
    Option.guard (fun g => !g.entries.isEmpty) f.tidied := by
  intro f
  obtain ⟨g, hg, he⟩ :=
    readFields_new f.tidied.entries empty (by simpa [empty] using f.tidied.distinct)
  obtain rfl : g = f.tidied := eq_of_entries he
  have hp : pruneFields (f.entries.map fun (name, on) => (name, .bool on)) =
      f.tidied.entries.map fun (name, on) => (name, .bool on) := pruneFields_switches f.entries
  simp only [codec, prune?, hp]
  cases ht : f.tidied.entries with
  | nil => simp [Option.guard, ht]
  | cons e rest =>
    rw [ht] at hg
    simpa [Option.guard, ht] using hg

end Flags

namespace Request

/-- Without empty content. The value of a body is read again from its text. -/
def tidied (r : Request) : Request where
  method := r.method
  url := r.url
  baseUrl := r.baseUrl
  endpoint := r.endpoint
  pathTemplate := r.pathTemplate
  pathParameters := r.pathParameters.filter (· != "")
  queryParams := r.queryParams.tidied
  headers := r.headers.tidied
  body := (r.body.filter fun b => b.raw != "").map fun b => .ofText b.raw
  formData := r.formData.tidied
  cookies := r.cookies.tidied
  auth := r.auth
  proxy := r.proxy.filter (· != "")
  userAgent := r.userAgent.filter (· != "")
  referer := r.referer.filter (· != "")
  flags := r.flags.tidied
  network := (r.network.map Network.tidied).filter fun n => !n.isEmpty
  tls := (r.tls.map Tls.tidied).filter fun t => !t.isEmpty
  rawOptions := r.rawOptions.filter (· != "")

theorem getD_text (s : String) : (Option.guard (fun s => s != "") s).getD "" = s := by
  by_cases h : s = "" <;> simp [Option.guard, h]

theorem getD_list (ts : List String) :
    (Option.guard (fun ts : List String => !ts.isEmpty)
      (ts.filterMap (Option.guard fun s => s != ""))).getD [] = ts.filter (· != "") := by
  rw [List.filterMap_eq_filter]
  cases h : ts.filter (· != "") <;> simp [Option.guard]

theorem getD_params (l : ParamList) :
    (Option.guard (fun m => !m.isEmpty) l.tidied).getD .empty = l.tidied := by
  cases h : l.tidied with
  | mk entries => cases entries <;> simp [Option.guard, ParamList.isEmpty, ParamList.empty]

theorem getD_flags (f : Flags) :
    (Option.guard (fun g : Flags => !g.entries.isEmpty) f.tidied).getD .empty = f.tidied := by
  cases h : f.tidied with
  | mk entries distinct => cases entries <;> simp [Option.guard, Flags.empty]

theorem bind_group {α : Type} (group : Option α) (tidied : α → α) (p : α → Bool) :
    (group.bind fun a => Option.guard p (tidied a)) = (group.map tidied).filter p := by
  cases group <;> simp [Option.guard, Option.filter]

theorem bind_body (body : Option Body) :
    (body.bind fun b => if b.raw = "" then none else some (Body.ofText b.raw)) =
      (body.filter fun b => b.raw != "").map fun b => .ofText b.raw := by
  cases body with
  | none => rfl
  | some b => by_cases h : b.raw = "" <;> simp [Option.filter, h]

/-- Cleaning never fails, and drops empty content field by field. -/
theorem clean_eq (r : Request) : r.clean = .ok r.tidied := by
  have htext := Codec.tidies_text
  have hlist := Codec.tidies_list Codec.tidies_text
  rw [clean, codec, Record.codec]
  simp only [pruned_obj]
  rw [Record.readFields_pruned record (by decide), record]
  rw [Record.restore_cons (Field.restore_always Method.tidies _ r rfl)]
  iterate 4 rw [Record.restore_cons (Field.restore_always htext _ r rfl)]
  rw [Record.restore_cons (Field.restore_always hlist _ r rfl)]
  iterate 2 rw [Record.restore_cons (Field.restore_always ParamList.tidies _ r rfl)]
  rw [Record.restore_cons (Field.restore_optional Body.tidies _ r rfl)]
  iterate 2 rw [Record.restore_cons (Field.restore_always ParamList.tidies _ r rfl)]
  rw [Record.restore_cons (Field.restore_optional Auth.tidies _ r rfl)]
  iterate 3 rw [Record.restore_cons (Field.restore_optional htext _ r rfl)]
  rw [Record.restore_cons (Field.restore_always Flags.tidies _ r rfl),
    Record.restore_cons (Field.restore_optional Network.tidies _ r rfl),
    Record.restore_cons (Field.restore_optional Tls.tidies _ r rfl),
    Record.restore_cons (Field.restore_always hlist _ r rfl)]
  simp only [Record.restore, Option.getD_some, getD_text, getD_list, getD_params, getD_flags,
    bind_group, bind_body, Option.bind_guard]
  simp [tidied]

end Request

end CurlScribe
