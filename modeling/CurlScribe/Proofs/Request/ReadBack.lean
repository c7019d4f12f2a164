import CurlScribe.Proofs.Json.ReadBack
import CurlScribe.Proofs.Request.Cleaning
import CurlScribe.Request.Draft

/-! Requests that are written as JSON and read back as drafts. -/
namespace CurlScribe

open Json

namespace Param

theorem readsBack (p : Param) : record.codec.ReadsBack p := by
  refine ⟨nofun, ?_⟩
  rw [Record.read_write, record, Record.readFields_always rfl rfl (Codec.readsBack_text _),
    Record.readFields_always rfl rfl (Codec.readsBack_text _),
    Record.readFields_always rfl rfl (Codec.readsBack_switch _), Record.readFields_written_nil]

end Param

namespace ParamList

theorem readsBack (l : ParamList) : codec.ReadsBack l := by
  have hl : (Codec.list Param.record.codec).ReadsBack l.entries :=
    Codec.readsBack_list fun p _ => Param.readsBack p
  refine ⟨nofun, ?_⟩
  simp only [codec, Codec.list, Codec.ReadsBack] at hl ⊢
  rw [hl.2]

end ParamList

theorem Method.readsBack (m : Method) : codec.ReadsBack m :=
  ⟨nofun, by simp [codec, ofText_name]⟩

namespace Auth

theorem readsBack (a : Auth) : codec.ReadsBack a := by
  refine ⟨nofun, ?_⟩
  obtain ⟨scheme, enabled⟩ := a
  cases scheme with
  | none => rfl
  | basic username password => rfl
  | bearer token => rfl

end Auth

namespace Flags

theorem readsBack (f : Flags) : codec.ReadsBack f := by
  obtain ⟨g, hg, he⟩ := readFields_new f.entries empty (by simpa [empty] using f.distinct)
  obtain rfl : g = f := eq_of_entries he
  exact ⟨by simp [codec], hg⟩

end Flags

/-- A body comes back as what its text says. -/
theorem Body.echoes : codec.Echoes fun b => some (.ofText b.raw) := fun _ => rfl

namespace Network

/-- Times that are not finite do not come back. -/
theorem reads_tidied (n : Network) : record.codec.read (record.codec.write n) = .ok n.tidied := by
  have hcount := Codec.echoes_of_readsBack Codec.readsBack_count32
  have hinteger := Codec.echoes_of_readsBack Codec.readsBack_integer32
  rw [Record.read_write, record, fieldsIn]
  iterate 3 rw [Record.readFields_optional Codec.echoes_real rfl rfl rfl]
  rw [Record.readFields_optional hcount rfl rfl rfl]
  iterate 2 rw [Record.readFields_optional Codec.echoes_real rfl rfl rfl]
  rw [Record.readFields_optional hinteger rfl rfl rfl, Record.readFields_written_nil]
  simp only [Option.bind_guard, Option.bind_fun_some]
  rfl

theorem echoes : record.codec.Echoes fun n => some n.tidied := by
  intro n
  have hw : record.codec.write n = .obj (record.write n) := rfl
  have hr := reads_tidied n
  rw [hw] at hr ⊢
  simp only [Codec.nullable, hr, Except.map]

end Network

namespace Tls

theorem readsBack (t : Tls) : record.codec.ReadsBack t := by
  refine ⟨nofun, ?_⟩
  have htext := Codec.echoes_of_readsBack Codec.readsBack_text
  rw [Record.read_write, record, fieldsIn]
  iterate 5 rw [Record.readFields_optional htext rfl rfl rfl]
  simp only [Record.readFields_written_nil, Option.bind_fun_some]

end Tls

namespace Draft

variable {r : Request}

/-- The draft that gives every part of a request. -/
def ofRequest (r : Request) : Draft where
  method := some r.method
  url := some r.url
  baseUrl := some r.baseUrl
  endpoint := some r.endpoint
  pathTemplate := some r.pathTemplate
  pathParameters := some r.pathParameters
  queryParams := r.queryParams
  headers := r.headers
  body := r.body
  formData := r.formData
  cookies := r.cookies
  auth := r.auth
  proxy := r.proxy
  userAgent := r.userAgent
  referer := r.referer
  flags := r.flags
  rawOptions := r.rawOptions
  networkGroup := r.network
  tlsGroup := r.tls

/-- What comes back of a draft through JSON: bodies are read again from their texts, and times that
are not finite are lost. -/
def echo (d : Draft) : Draft :=
  { d with
    body := d.body.map fun b => .ofText b.raw
    network := d.network.tidied
    networkGroup := d.networkGroup.map Network.tidied }

/-- Every draft reads back from its JSON form. -/
theorem read_draft (d : Draft) : codec.read (codec.write d) = .ok d.echo := by
  have htext := Codec.echoes_of_readsBack Codec.readsBack_text
  have hlist (as : List String) : (Codec.list .text).ReadsBack as :=
    Codec.readsBack_list fun s _ => Codec.readsBack_text s
  have hcount := Codec.echoes_of_readsBack Codec.readsBack_count32
  have hinteger := Codec.echoes_of_readsBack Codec.readsBack_integer32
  rw [codec, Record.read_write, record, Network.fieldsIn, Tls.fieldsIn]
  simp only [List.cons_append, List.nil_append]
  rw [Record.readFields_nullable (Codec.echoes_of_readsBack Method.readsBack) rfl rfl]
  iterate 4 rw [Record.readFields_nullable htext rfl rfl]
  rw [Record.readFields_nullable (Codec.echoes_of_readsBack hlist) rfl rfl]
  iterate 2 rw [Record.readFields_always rfl rfl (ParamList.readsBack _)]
  rw [Record.readFields_nullable Body.echoes rfl rfl]
  iterate 2 rw [Record.readFields_always rfl rfl (ParamList.readsBack _)]
  rw [Record.readFields_nullable (Codec.echoes_of_readsBack Auth.readsBack) rfl rfl]
  iterate 3 rw [Record.readFields_nullable htext rfl rfl]
  rw [Record.readFields_always rfl rfl (Flags.readsBack _),
    Record.readFields_always rfl rfl (hlist _)]
  -- the network settings, given one by one and in a group
  iterate 3 rw [Record.readFields_nullable Codec.echoes_real rfl rfl]
  rw [Record.readFields_nullable hcount rfl rfl]
  iterate 2 rw [Record.readFields_nullable Codec.echoes_real rfl rfl]
  rw [Record.readFields_nullable hinteger rfl rfl,
    Record.readFields_nullable Network.echoes rfl rfl]
  -- the TLS settings
  iterate 5 rw [Record.readFields_nullable htext rfl rfl]
  rw [Record.readFields_nullable (Codec.echoes_of_readsBack Tls.readsBack) rfl rfl,
    Record.readFields_written_nil]
  simp only [Option.bind_guard, Option.bind_fun_some, echo, Option.map_eq_bind, Function.comp_def]
  rfl

/-- Every request reads as the draft that gives every part of it. -/
theorem read_request (r : Request) :
    codec.read (Request.codec.write r) = .ok (ofRequest r).echo := by
  have htext := Codec.readsBack_text
  have hlist (as : List String) : (Codec.list .text).ReadsBack as :=
    Codec.readsBack_list fun s _ => htext s
  have hspoken := Codec.echoes_of_readsBack htext
  rw [codec, Request.codec, Record.read_write, Request.record,
    Record.readFields_given rfl rfl (Method.readsBack _)]
  iterate 4 rw [Record.readFields_given rfl rfl (htext _)]
  rw [Record.readFields_given rfl rfl (hlist _)]
  iterate 2 rw [Record.readFields_always rfl rfl (ParamList.readsBack _)]
  rw [Record.readFields_optional Body.echoes rfl rfl rfl]
  iterate 2 rw [Record.readFields_always rfl rfl (ParamList.readsBack _)]
  rw [Record.readFields_optional (Codec.echoes_of_readsBack Auth.readsBack) rfl rfl rfl]
  iterate 3 rw [Record.readFields_optional hspoken rfl rfl rfl]
  rw [Record.readFields_always rfl rfl (Flags.readsBack _),
    Record.readFields_optional Network.echoes rfl rfl rfl,
    Record.readFields_optional (Codec.echoes_of_readsBack Tls.readsBack) rfl rfl rfl,
    Record.readFields_always rfl rfl (hlist _), Record.readFields_written_nil]
  simp only [Option.bind_fun_some, echo, Option.map_eq_bind, Function.comp_def]
  rfl

/-- The body of a request without empty content has the value of its text. -/
theorem body_of_tidied_eq (h : r.tidied = r) {b : Body} (hb : r.body = some b) :
    b = .ofText b.raw := by
  rw [← h, Request.tidied] at hb
  obtain ⟨a, -, rfl⟩ := Option.map_eq_some_iff.mp hb
  rfl

/-- The times of a request without empty content are finite. -/
theorem network_of_tidied_eq (h : r.tidied = r) {n : Network} (hn : r.network = some n) :
    n.tidied = n := by
  obtain ⟨m, -, rfl, -⟩ := ((Request.cleaned_tidied r).network n).mp (by rw [h, hn])
  exact Network.tidied_tidied m

/-- Nothing is lost of a request without empty content. -/
theorem echo_ofRequest (h : r.tidied = r) : (ofRequest r).echo = ofRequest r := by
  have hbody : (r.body.map fun b => Body.ofText b.raw) = r.body := by
    cases hb : r.body with
    | none => rfl
    | some b => rw [Option.map_some, ← body_of_tidied_eq h hb]
  have hnetwork : r.network.map Network.tidied = r.network := by
    cases hn : r.network with
    | none => rfl
    | some n => rw [Option.map_some, network_of_tidied_eq h hn]
  simp only [echo, ofRequest, hbody, hnetwork]
  rfl

end Draft

end CurlScribe
