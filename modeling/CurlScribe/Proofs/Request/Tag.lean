import CurlScribe.Proofs.Json.Remains
import CurlScribe.Proofs.Request.Tidy

/-! Which projections still make a request. Every field reads whatever is left of it, save for
credentials that have lost the kind of their scheme and kept something else. -/
namespace CurlScribe

open Json Inclusion

theorem Param.isTolerant : record.codec.IsTolerant := by
  refine Record.isTolerant_codec (by decide) ?_
  simp only [record, List.forall_mem_cons]
  exact ⟨Field.isTolerant_always Codec.isTolerant_text _ _ _,
    Field.isTolerant_always Codec.isTolerant_text _ _ _,
    Field.isTolerant_always Codec.isTolerant_switch _ _ _, by simp⟩

theorem ParamList.isTolerant : codec.IsTolerant := by
  intro m path l w h
  obtain ⟨entries, he⟩ := Codec.isTolerant_list Param.isTolerant m path l.entries w h
  obtain ⟨-, rfl⟩ := prune_arr_eq_some (h : prune? (arr (projectItems m path 0 _)) = some w)
  exact ⟨⟨entries⟩, by simp only [codec, he]⟩

theorem Method.isTolerant : codec.IsTolerant :=
  Codec.isTolerant_of_kept (fun _ => rfl) Method.tidies

theorem Body.isTolerant : codec.IsTolerant :=
  Codec.isTolerant_of_isLeaf (fun _ => rfl) fun b _ => ⟨ofJson (.str b.raw), rfl⟩

theorem Network.isTolerant : record.codec.IsTolerant := by
  have hreal (name : String) (get : Network → Option Binary64)
      (set : Option Binary64 → Network → Network) :=
    Field.isTolerant_optional Codec.isTolerant_real name get set
  refine Record.isTolerant_codec (by decide) ?_
  simp only [record, fieldsIn, List.forall_mem_cons]
  exact ⟨hreal _ _ _, hreal _ _ _, hreal _ _ _,
    Field.isTolerant_optional (Codec.isTolerant_of_kept (fun _ => rfl) Codec.tidies_count32)
      _ _ _,
    hreal _ _ _, hreal _ _ _,
    Field.isTolerant_optional (Codec.isTolerant_of_kept (fun _ => rfl) Codec.tidies_integer32)
      _ _ _,
    by simp⟩

theorem Tls.isTolerant : record.codec.IsTolerant := by
  have htext (name : String) (get : Tls → Option String) (set : Option String → Tls → Tls) :=
    Field.isTolerant_optional Codec.isTolerant_text name get set
  refine Record.isTolerant_codec (by decide) ?_
  simp only [record, fieldsIn, List.forall_mem_cons]
  exact ⟨htext _ _ _, htext _ _ _, htext _ _ _, htext _ _ _, htext _ _ _, by simp⟩

namespace Flags

theorem readFields_switches {fields : List (String × Json)}
    (h : ∀ e ∈ fields, ∃ on, e.2 = .bool on) (f : Flags) : ∃ g, readFields f fields = .ok g := by
  induction fields generalizing f with
  | nil => exact ⟨f, rfl⟩
  | cons e rest ih =>
    obtain ⟨⟨on, hon⟩, hrest⟩ := List.forall_mem_cons.mp h
    obtain ⟨g, hg⟩ := ih hrest (f.set e.1 on)
    exact ⟨g, by rw [readFields, hon]; exact hg⟩

/-- Flags are written as switches. -/
theorem exists_written (f : Flags) :
    ∃ fields, codec.write f = .obj fields ∧ ∀ e ∈ fields, ∃ on, e.2 = .bool on := by
  refine ⟨_, rfl, fun e he => ?_⟩
  obtain ⟨⟨name, on⟩, -, rfl⟩ := List.mem_map.mp he
  exact ⟨on, rfl⟩

theorem isTolerant : codec.IsTolerant := by
  intro m path f w h
  obtain ⟨fields, hwritten, hswitch⟩ := exists_written f
  rw [hwritten] at h
  obtain ⟨-, rfl⟩ := prune_obj_eq_some (h : prune? (obj (projectFields m path fields)) = some w)
  rw [pruneFields_leaves fun e he => by obtain ⟨on, hon⟩ := hswitch e he; rw [hon]; rfl]
  exact readFields_switches (fun e he => hswitch e (List.mem_filter.mp he).1) empty

end Flags

namespace Scheme

/-- The texts of a scheme by the names of their fields. -/
def texts : Scheme → List (String × String)
  | none => []
  | basic username password => [("username", username), ("password", password)]
  | bearer token => [("token", token)]

end Scheme

namespace Auth

variable {m : Inclusion} {a : Auth} {w : Json}

/-- Some field beside the kind of the scheme is left: it says something and is not excluded. -/
def Survives (m : Inclusion) (a : Auth) : Prop :=
  (∃ e ∈ a.scheme.texts, e.2 ≠ "" ∧ m.excludes ("auth." ++ e.1) = false) ∨
    (a.enabled = true ∧ m.excludes "auth.enabled" = false)

/-- The written fields. -/
def fields (a : Auth) : List (String × Json) := a.scheme.fields ++ [("enabled", .bool a.enabled)]

theorem nodup_fields (a : Auth) : (a.fields.map Prod.fst).Nodup := by
  obtain ⟨scheme, enabled⟩ := a
  cases scheme <;> simp [fields, Scheme.fields]

theorem isLeaf_fields (a : Auth) : ∀ e ∈ a.fields, e.2.isLeaf = true := by
  obtain ⟨scheme, enabled⟩ := a
  cases scheme <;> simp [fields, Scheme.fields, isLeaf]

/-- A text that may have been left out. -/
theorem exists_textField {fs : List (String × Json)} {name s : String} {p : Json → Bool}
    (h : fs.lookup name = Option.filter p (some (.str s))) :
    ∃ t, Scheme.textField fs name = .ok t := by
  rw [Scheme.textField, h]
  cases hp : p (.str s) <;> simp [Option.filter, hp, Codec.text]

theorem lookup_left (a : Auth) (p : String × Json → Bool) (key : String) :
    (a.fields.filter p).lookup key = (a.fields.lookup key).filter fun v => p (key, v) :=
  lookup_filter (nodup_fields a) p key

/-- The kind of a scheme is enough to read it. -/
theorem exists_scheme {p : String × Json → Bool}
    (h : ((a.fields.filter p).lookup "type").isSome = true) :
    ∃ s, Scheme.ofFields (a.fields.filter p) = .ok s := by
  have htype := lookup_left a p "type"
  have htext (name : String) := lookup_left a p name
  obtain ⟨v, hv⟩ := Option.isSome_iff_exists.mp h
  rw [Scheme.ofFields, hv]
  obtain ⟨hkind, -⟩ := Option.filter_eq_some_iff.mp (htype.symm.trans hv)
  obtain ⟨scheme, enabled⟩ := a
  cases scheme with
  | none =>
    obtain rfl := Option.some.inj hkind
    exact ⟨.none, rfl⟩
  | basic username password =>
    obtain rfl := Option.some.inj hkind
    obtain ⟨u, hu⟩ := exists_textField (htext "username")
    obtain ⟨q, hq⟩ := exists_textField (htext "password")
    refine ⟨.basic u q, ?_⟩
    simp only [Scheme.Kind.ofJson, bind, Except.bind, hu, hq, pure, Except.pure]
  | bearer token =>
    obtain rfl := Option.some.inj hkind
    obtain ⟨t, ht⟩ := exists_textField (htext "token")
    refine ⟨.bearer t, ?_⟩
    simp only [Scheme.Kind.ofJson, bind, Except.bind, ht, pure, Except.pure]

theorem lookup_enabled (a : Auth) : a.fields.lookup "enabled" = some (.bool a.enabled) := by
  obtain ⟨scheme, enabled⟩ := a
  cases scheme <;> rfl

theorem exists_read {p : String × Json → Bool}
    (h : ((a.fields.filter p).lookup "type").isSome = true) :
    ∃ b, codec.read (.obj (a.fields.filter p)) = .ok b := by
  obtain ⟨s, hs⟩ := exists_scheme h
  have henabled := lookup_left a p "enabled"
  rw [lookup_enabled] at henabled
  simp only [codec, hs, henabled, bind, Except.bind, pure, Except.pure]
  cases hp : p ("enabled", .bool a.enabled) with
  | false => exact ⟨⟨s, false⟩, by simp [Option.filter, hp]⟩
  | true => exact ⟨⟨s, a.enabled⟩, by simp [Option.filter, hp, Codec.switch]⟩

theorem read_untagged {fs : List (String × Json)} (h : fs.lookup "type" = none) :
    codec.read (.obj fs) = .error .shape := by
  simp [codec, Scheme.ofFields, h, bind, Except.bind]

/-- Which fields are left: those that say something and are not excluded. -/
def isLeft (m : Inclusion) (e : String × Json) : Bool :=
  !m.excludes (childPath "auth" e.1) && e.2.speaks

theorem lookup_type (a : Auth) : ((a.fields.filter (isLeft m)).lookup "type").isSome =
    !m.excludes "auth.type" := by
  have hpath : childPath "auth" "type" = "auth.type" := rfl
  rw [lookup_left]
  obtain ⟨scheme, enabled⟩ := a
  cases scheme <;> cases hx : m.excludes "auth.type" <;>
    simp [fields, Scheme.fields, Option.filter, isLeft, hpath, hx, speaks]

/-- Without the kind something is left exactly where a field beside it survives. -/
theorem left_eq_nil_iff (ht : m.excludes "auth.type" = true) (a : Auth) :
    a.fields.filter (isLeft m) ≠ [] ↔ a.Survives m := by
  have hpath (name : String) : childPath "auth" name = "auth." ++ name := rfl
  simp only [ne_eq, List.filter_eq_nil_iff, not_forall, not_not, exists_prop]
  obtain ⟨scheme, enabled⟩ := a
  cases scheme <;> simp [fields, Scheme.fields, isLeft, hpath, ht, speaks, Survives, Scheme.texts,
    and_comm, or_assoc]

end Auth

namespace Request

variable {m : Inclusion} {r : Request} {w : Json}

def authField : Json.Field Request :=
  .optional "auth" Auth.codec auth fun a r => { r with auth := a }

/-- Every field reads whatever is left of it, except perhaps the credentials. -/
theorem isTolerant_fields : ∀ f ∈ record.fields, f = authField ∨ f.IsTolerant := by
  have htext (name : String) (get : Request → String) (set : String → Request → Request) :=
    Field.isTolerant_always Codec.isTolerant_text name get set
  have htexts (name : String) (get : Request → Option String)
      (set : Option String → Request → Request) :=
    Field.isTolerant_optional Codec.isTolerant_text name get set
  have hlist (name : String) (get : Request → List String)
      (set : List String → Request → Request) :=
    Field.isTolerant_always (Codec.isTolerant_list Codec.isTolerant_text) name get set
  have hparams (name : String) (get : Request → ParamList)
      (set : ParamList → Request → Request) :=
    Field.isTolerant_always ParamList.isTolerant name get set
  simp only [record, List.forall_mem_cons]
  refine ⟨.inr (Field.isTolerant_always Method.isTolerant _ _ _), .inr (htext _ _ _),
    .inr (htext _ _ _), .inr (htext _ _ _), .inr (htext _ _ _), .inr (hlist _ _ _),
    .inr (hparams _ _ _), .inr (hparams _ _ _),
    .inr (Field.isTolerant_optional Body.isTolerant _ _ _), .inr (hparams _ _ _),
    .inr (hparams _ _ _), .inl rfl, .inr (htexts _ _ _), .inr (htexts _ _ _),
    .inr (htexts _ _ _), .inr (Field.isTolerant_always Flags.isTolerant _ _ _),
    .inr (Field.isTolerant_optional Network.isTolerant _ _ _),
    .inr (Field.isTolerant_optional Tls.isTolerant _ _ _), .inr (hlist _ _ _), by simp⟩

/-- The projection takes the kind of the scheme and leaves something else of the credentials. -/
def TearsTag (m : Inclusion) (r : Request) : Prop :=
  ∃ a, r.auth = some a ∧ m.excludes "auth" = false ∧ m.excludes "auth.type" = true ∧ a.Survives m

/-- Of credentials that are not excluded the fields are left that are not excluded and speak. -/
theorem left_auth_eq_some_iff : authField.left m "" r = some w ↔
    ∃ a, r.auth = some a ∧ m.excludes "auth" = false ∧ a.fields.filter (Auth.isLeft m) ≠ [] ∧
      w = .obj (a.fields.filter (Auth.isLeft m)) := by
  have hleft (a : Auth) : remains m "auth" (.obj a.fields) =
      if a.fields.filter (Auth.isLeft m) = [] then none
      else some (.obj (a.fields.filter (Auth.isLeft m))) := by
    have hfields : pruneFields (projectFields m "auth" a.fields) =
        a.fields.filter (Auth.isLeft m) := pruneFields_leaves (Auth.isLeaf_fields a)
    rw [remains, projectAt, prune_obj, hfields]
  have hwrite (a : Auth) : Auth.codec.write a = .obj a.fields := rfl
  have hroot : childPath "" "auth" = "auth" := rfl
  simp only [Field.left, authField, Field.optional, hroot, Option.bind_eq_some_iff,
    Option.map_eq_some_iff, hwrite]
  cases hx : m.excludes "auth" with
  | true => simp
  | false =>
    constructor
    · rintro ⟨_, ⟨a, ha, rfl⟩, hw⟩
      rw [if_neg (by decide), hleft] at hw
      split at hw
      · simp at hw
      · rename_i hne
        exact ⟨a, ha, rfl, hne, (Option.some.inj hw).symm⟩
    · rintro ⟨a, ha, -, hne, rfl⟩
      exact ⟨_, ⟨a, ha, rfl⟩, by rw [if_neg (by decide), hleft, if_neg hne]⟩

theorem accepts_auth (ht : m.excludes "auth.type" = false)
    (hw : authField.left m "" r = some w) : authField.Accepts w := by
  obtain ⟨a, -, -, -, rfl⟩ := left_auth_eq_some_iff.mp hw
  obtain ⟨b, hb⟩ := Auth.exists_read (a := a) (by rw [Auth.lookup_type, ht]; rfl)
  exact Field.accepts_optional hb nofun _ _ _

theorem refuses_auth (ht : m.excludes "auth.type" = true)
    (hw : authField.left m "" r = some w) : authField.Refuses w := by
  obtain ⟨a, -, -, -, rfl⟩ := left_auth_eq_some_iff.mp hw
  have hnone : (a.fields.filter (Auth.isLeft m)).lookup "type" = none := by
    rw [← Option.not_isSome_iff_eq_none, Auth.lookup_type, ht]
    decide
  have hread := Auth.read_untagged hnone
  intro s
  simp [authField, Field.optional, Codec.nullable, hread, Except.map]

theorem tearsTag_iff :
    TearsTag m r ↔ ∃ w, authField.left m "" r = some w ∧ authField.Refuses w := by
  constructor
  · rintro ⟨a, ha, hx, ht, hs⟩
    have hw := left_auth_eq_some_iff.mpr ⟨a, ha, hx, (Auth.left_eq_nil_iff ht a).mpr hs, rfl⟩
    exact ⟨_, hw, refuses_auth ht hw⟩
  · rintro ⟨w, hw, hr⟩
    obtain ⟨a, ha, hx, hne, -⟩ := left_auth_eq_some_iff.mp hw
    cases ht : m.excludes "auth.type" with
    | true => exact ⟨a, ha, hx, ht, (Auth.left_eq_nil_iff ht a).mp hne⟩
    | false =>
      obtain ⟨t, hok⟩ := accepts_auth ht hw {}
      rw [hr] at hok
      simp at hok

/-- A projection makes no request exactly where it tears the tag off credentials of which something
else survives, and then the rest has the wrong shape. -/
theorem project_fails_iff (m : Inclusion) (r : Request) :
    (project m r = .error .shape ↔ TearsTag m r) ∧
      ((∃ s, project m r = .ok s) ↔ ¬ TearsTag m r) := by
  have hread : project m r =
      record.readFields record.start (Record.left m "" r record.fields) := by
    rw [project, ← Record.pruneFields_write]
    exact congrArg codec.read (pruned_obj (projectFields m "" (record.write r)))
  have hfields : ∀ f ∈ record.fields, ∀ w, f.left m "" r = some w → f.Accepts w ∨ f.Refuses w := by
    intro f hf w hw
    rcases isTolerant_fields f hf with rfl | ht
    · cases ht : m.excludes "auth.type" with
      | false => exact .inl (accepts_auth ht hw)
      | true => exact .inr (refuses_auth ht hw)
    · exact .inl (ht m "" r w hw)
  have hauth : authField ∈ record.fields := by simp [record, authField]
  rw [hread]
  rcases Record.readFields_left (by decide) (fun _ hf => hf) hfields record.start with
    ⟨⟨s, hs⟩, hall⟩ | ⟨he, f, hf, w, hw, hr⟩
  · have hkept : ¬ TearsTag m r := by
      rw [tearsTag_iff]
      rintro ⟨w, hw, hr⟩
      obtain ⟨t, ht⟩ := hall authField hauth w hw {}
      rw [hr] at ht
      simp at ht
    simp [hs, hkept]
  · have htorn : TearsTag m r := by
      rcases isTolerant_fields f hf with rfl | ht
      · exact tearsTag_iff.mpr ⟨w, hw, hr⟩
      · obtain ⟨t, ht⟩ := ht m "" r w hw {}
        rw [hr] at ht
        simp at ht
    simp [he, htorn]

/-- A token without the kind of its scheme is no credentials; without the token nothing is torn. -/
example : project ⟨[("auth.type", false)]⟩ { auth := some ⟨.bearer "t", false⟩ } = .error .shape ∧
    project ⟨[("auth.type", false), ("auth.token", false)]⟩ { auth := some ⟨.bearer "t", false⟩ } =
      .ok {} :=
  ⟨rfl, rfl⟩

end Request

end CurlScribe
