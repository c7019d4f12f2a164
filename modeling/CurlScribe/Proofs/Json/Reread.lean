import CurlScribe.Proofs.Json.Lex
import CurlScribe.Proofs.Json.Node

/-! What the text of a value is read as: a numeral may come back as another number, brackets may be
too many, and of fields with one name a single one is left. -/
namespace CurlScribe.Json

/-- Fields are taken in one after another. -/
def takeFields (done fields : List (String × Json)) : List (String × Json) :=
  fields.foldl (fun fs f => Named.put fs f.1 f.2) done

mutual

/-- What a value comes back as, with room for so many brackets inside each other. -/
def reread (room : Nat) : Json → Option Json
  | num n => (Number.ofChars? n.text).map num
  | arr items => if room = 0 then none else (rereadItems (room - 1) items).map arr
  | obj fields =>
    if room = 0 then none else (rereadFields (room - 1) fields).map fun fs => obj (takeFields [] fs)
  | v => some v

def rereadItems (room : Nat) : List Json → Option (List Json)
  | [] => some []
  | v :: rest => (reread room v).bind fun w => (rereadItems room rest).map (w :: ·)

def rereadFields (room : Nat) : List (String × Json) → Option (List (String × Json))
  | [] => some []
  | (key, v) :: rest => (reread room v).bind fun w => (rereadFields room rest).map ((key, w) :: ·)

end

/-- The machine goes over a text. -/
def Machine.run (limit : Nat) (cs : List Char) (m : Machine) : Option Machine :=
  (lex cs).bind fun ts => ts.foldlM (Machine.step (some limit)) m

/-- Only the number of brackets around it and the numbers and names in it keep a part from being
read back. The fields of an object that comes from a map always have distinct names. -/
def Node.IsLegible : Node → Prop
  | ⟨_, num (.real x finite)⟩ => Number.ofChars? x.jsonText = some (.real x finite)
  | ⟨steps, arr _⟩ => steps.length < depthLimit
  | ⟨steps, obj fields⟩ => steps.length < depthLimit ∧ (Named.names fields).Nodup
  | _ => True

variable {limit : Nat} {rest : List Char} {frames : List Frame} {m : Machine}

namespace Machine

/-- The step that a token makes, and then the rest of the text. -/
theorem run_cons (t : Token) (rest : List Char) (m : Machine) :
    (((lex rest).map (t :: ·)).bind fun ts => ts.foldlM (Machine.step (some limit)) m) =
      (m.step (some limit) t).bind (run limit rest) := by
  cases hl : lex rest with
  | none => cases m.step (some limit) t <;> simp [run, hl]
  | some ts =>
    rw [Option.map_some, Option.bind_some, List.foldlM_cons]
    cases m.step (some limit) t <;> simp [run, hl]

theorem run_token {t : Token} (ht : t.isNumeral = false) (rest : List Char) (m : Machine) :
    run limit (t.text ++ rest) m = (m.step (some limit) t).bind (run limit rest) := by
  rw [run, lex_token ht, run_cons]

theorem run_numeral (n : Number) (hrest : Breaks rest) (m : Machine) :
    run limit (n.text ++ rest) m = (Number.ofChars? n.text).bind fun k =>
      (m.step (some limit) (.num k)).bind (run limit rest) := by
  rw [run, lex_numeral n.text_ne_nil n.all_text hrest, Option.bind_assoc]
  simp only [run_cons]

end Machine

/-! The text of what stands in brackets. -/

def itemChars (items : List Json) : List Char := (itemTokens items).flatMap Token.text

def fieldChars (fields : List (String × Json)) : List Char :=
  (fieldTokens fields).flatMap Token.text

theorem chars_arr (items : List Json) :
    (arr items).chars = Token.openArr.text ++ (itemChars items ++ Token.closeArr.text) := by
  simp [chars, tokens, itemChars]

theorem chars_obj (fields : List (String × Json)) :
    (obj fields).chars = Token.openObj.text ++ (fieldChars fields ++ Token.closeObj.text) := by
  simp [chars, tokens, fieldChars]

theorem itemChars_singleton (v : Json) : itemChars [v] = v.chars := rfl

theorem itemChars_cons (v w : Json) (vs : List Json) :
    itemChars (v :: w :: vs) = v.chars ++ (Token.comma.text ++ itemChars (w :: vs)) := by
  simp [itemChars, itemTokens, chars]

theorem fieldChars_singleton (key : String) (v : Json) :
    fieldChars [(key, v)] = (Token.str key).text ++ (Token.colon.text ++ v.chars) := by
  simp [fieldChars, fieldTokens, chars]

theorem fieldChars_cons (key : String) (v : Json) (f : String × Json)
    (fs : List (String × Json)) : fieldChars ((key, v) :: f :: fs) =
      (Token.str key).text ++ (Token.colon.text ++
        (v.chars ++ (Token.comma.text ++ fieldChars (f :: fs)))) := by
  simp [fieldChars, fieldTokens, chars]

theorem breaks_nil : Breaks [] := by simp [Breaks]

theorem breaks_token {t : Token} (ht : t = .comma ∨ t = .closeArr ∨ t = .closeObj)
    (rest : List Char) : Breaks (t.text ++ rest) := by
  rcases ht with rfl | rfl | rfl <;> simp [Breaks, Token.text, isNumberChar]

/-! One token at a time, with the state that it leads to. -/

namespace Machine

/-- Where a bracket has just been opened, a value starts as it does elsewhere. -/
theorem step_first {t : Token} (ht : t ≠ .closeArr) (frames : List Frame) :
    step (some limit) ⟨frames, .valueOrClose⟩ t = step (some limit) ⟨frames, .value⟩ t := by
  cases t with
  | closeArr => exact (ht rfl).elim
  | _ => rfl

/-- The first token of a value that is no number. -/
theorem exists_first (v : Json) : (∃ n, v = num n) ∨ ∃ t cs, Token.isNumeral t = false ∧
    t ≠ .closeArr ∧ v.chars = Token.text t ++ cs := by
  cases v with
  | num n => exact .inl ⟨n, rfl⟩
  | null => exact .inr ⟨.null, [], rfl, nofun, rfl⟩
  | bool b => exact .inr ⟨.bool b, [], rfl, nofun, rfl⟩
  | str s => exact .inr ⟨.str s, [], rfl, nofun, rfl⟩
  | arr items => exact .inr ⟨.openArr, _, rfl, nofun, chars_arr items⟩
  | obj fields => exact .inr ⟨.openObj, _, rfl, nofun, chars_obj fields⟩

theorem chars_num (n : Number) : (num n).chars = n.text := List.append_nil _

theorem chars_bool (b : Bool) : (bool b).chars = (Token.bool b).text := List.append_nil _

theorem chars_str (s : String) : (str s).chars = (Token.str s).text := List.append_nil _

theorem run_first (v : Json) (hrest : Breaks rest) (frames : List Frame) :
    run limit (v.chars ++ rest) ⟨frames, .valueOrClose⟩ =
      run limit (v.chars ++ rest) ⟨frames, .value⟩ := by
  rcases exists_first v with ⟨n, rfl⟩ | ⟨t, cs, hnum, hclose, hv⟩
  · rw [chars_num, run_numeral n hrest, run_numeral n hrest]
    rfl
  · rw [hv, List.append_assoc, run_token hnum, run_token hnum, step_first hclose]

theorem run_first_items (v : Json) (vs : List Json) (hrest : Breaks rest) (frames : List Frame) :
    run limit (itemChars (v :: vs) ++ rest) ⟨frames, .valueOrClose⟩ =
      run limit (itemChars (v :: vs) ++ rest) ⟨frames, .value⟩ := by
  cases vs with
  | nil => exact run_first v hrest frames
  | cons w vs =>
    rw [itemChars_cons, List.append_assoc, List.append_assoc]
    exact run_first v (breaks_token (.inl rfl) _) frames

/-- Where a brace has just been opened, a name is read as it is elsewhere. -/
theorem run_first_fields (key : String) (v : Json) (fs : List (String × Json)) (rest : List Char)
    (frames : List Frame) :
    run limit (fieldChars ((key, v) :: fs) ++ rest) ⟨frames, .keyOrClose⟩ =
      run limit (fieldChars ((key, v) :: fs) ++ rest) ⟨frames, .key []⟩ := by
  cases fs with
  | nil =>
    rw [fieldChars_singleton, List.append_assoc, run_token rfl, run_token rfl]
    rfl
  | cons f fs =>
    rw [fieldChars_cons, List.append_assoc, run_token rfl, run_token rfl]
    rfl

theorem run_step {t : Token} {m m' : Machine} (ht : t.isNumeral = false)
    (hs : step (some limit) m t = some m') (rest : List Char) :
    run limit (t.text ++ rest) m = run limit rest m' := by
  rw [run_token ht, hs, Option.bind_some]

theorem step_open {t : Token} {m : Machine}
    (ht : step (some limit) ⟨frames, .value⟩ t = enter (some limit) frames m) :
    step (some limit) ⟨frames, .value⟩ t =
      if limit - frames.length = 0 then none else some m := by
  rw [ht, enter]
  by_cases h : frames.length < limit
  · rw [if_pos h, if_neg (by omega)]
  · rw [if_neg h, if_pos (by omega)]

mutual

/-- From where a value is expected, its text leads to what it comes back as. -/
theorem run_value (limit : Nat) {rest : List Char} (hrest : Breaks rest) (frames : List Frame) :
    ∀ v : Json, run limit (v.chars ++ rest) ⟨frames, .value⟩ =
      (reread (limit - frames.length) v).bind fun w => run limit rest ⟨frames, .afterValue w⟩
  | null => run_step (t := .null) rfl rfl rest
  | bool b => by
    rw [chars_bool]
    exact run_step rfl rfl rest
  | str s => by
    rw [chars_str]
    exact run_step rfl rfl rest
  | num n => by
    rw [chars_num, run_numeral n hrest, reread, Option.bind_map]
    rfl
  | arr items => by
    rw [chars_arr, List.append_assoc, run_token rfl, step_open rfl, reread]
    split
    · rfl
    · rw [Option.bind_some, Option.bind_map, List.append_assoc]
      have hclose := breaks_token (.inr (.inl rfl)) rest
      match items with
      | [] => exact run_token (t := .closeArr) rfl rest _
      | v :: vs =>
        rw [run_first_items v vs hclose, run_items limit rest frames [] (v :: vs) nofun]
        rfl
  | obj fields => by
    rw [chars_obj, List.append_assoc, run_token rfl, step_open rfl, reread]
    split
    · rfl
    · rw [Option.bind_some, Option.bind_map, List.append_assoc]
      match fields with
      | [] => exact run_token (t := .closeObj) rfl rest _
      | (key, v) :: fs =>
        rw [run_first_fields, run_fields limit rest frames [] ((key, v) :: fs) nofun]
        rfl

theorem run_items (limit : Nat) (rest : List Char) (frames : List Frame) (done : List Json) :
    ∀ items : List Json, items ≠ [] →
      run limit (itemChars items ++ (Token.closeArr.text ++ rest))
          ⟨.items done :: frames, .value⟩ =
        (rereadItems (limit - frames.length - 1) items).bind fun ws =>
          run limit rest ⟨frames, .afterValue (.arr (done.reverse ++ ws))⟩
  | [], h => (h rfl).elim
  | [v], _ => by
    have hv := run_value limit (breaks_token (.inr (.inl rfl)) rest) (.items done :: frames) v
    rw [List.length_cons, ← Nat.sub_sub] at hv
    rw [itemChars_singleton, hv, rereadItems, rereadItems, Option.bind_assoc]
    refine Option.bind_congr fun w _ => ?_
    rw [run_step (t := .closeArr) rfl rfl, List.reverse_cons]
    rfl
  | v :: w :: vs, _ => by
    have hv := run_value limit
      (breaks_token (.inl rfl) (itemChars (w :: vs) ++ (Token.closeArr.text ++ rest)))
      (.items done :: frames) v
    rw [List.length_cons, ← Nat.sub_sub] at hv
    rw [itemChars_cons, List.append_assoc, List.append_assoc, hv, rereadItems, Option.bind_assoc]
    refine Option.bind_congr fun u _ => ?_
    rw [run_step (t := .comma) rfl rfl, run_items limit rest frames (u :: done) (w :: vs) nofun,
      Option.bind_map, List.reverse_cons]
    refine Option.bind_congr fun ws _ => ?_
    rw [List.append_assoc]
    rfl

theorem run_fields (limit : Nat) (rest : List Char) (frames : List Frame)
    (done : List (String × Json)) :
    ∀ fields : List (String × Json), fields ≠ [] →
      run limit (fieldChars fields ++ (Token.closeObj.text ++ rest)) ⟨frames, .key done⟩ =
        (rereadFields (limit - frames.length - 1) fields).bind fun gs =>
          run limit rest ⟨frames, .afterValue (.obj (takeFields done gs))⟩
  | [], h => (h rfl).elim
  | [(key, v)], _ => by
    have hv := run_value limit (breaks_token (.inr (.inr rfl)) rest) (.fields done key :: frames) v
    rw [List.length_cons, ← Nat.sub_sub] at hv
    rw [fieldChars_singleton, List.append_assoc, List.append_assoc,
      run_step (t := .str key) rfl rfl, run_step (t := .colon) rfl rfl, hv, rereadFields,
      rereadFields, Option.bind_assoc]
    refine Option.bind_congr fun w _ => ?_
    rw [run_step (t := .closeObj) rfl rfl]
    rfl
  | (key, v) :: f :: fs, _ => by
    have hv := run_value limit
      (breaks_token (.inl rfl) (fieldChars (f :: fs) ++ (Token.closeObj.text ++ rest)))
      (.fields done key :: frames) v
    rw [List.length_cons, ← Nat.sub_sub] at hv
    rw [fieldChars_cons]
    simp only [List.append_assoc]
    rw [run_step (t := .str key) rfl rfl, run_step (t := .colon) rfl rfl, hv, rereadFields,
      Option.bind_assoc]
    refine Option.bind_congr fun w _ => ?_
    rw [run_step (t := .comma) rfl rfl,
      run_fields limit rest frames (Named.put done key w) (f :: fs) nofun, Option.bind_map]
    rfl

end

end Machine

/-- What the text of a value is read as. -/
theorem read_text (v : Json) : read? v.text = reread depthLimit v := by
  have hrun := Machine.run_value depthLimit breaks_nil [] v
  rw [List.append_nil] at hrun
  have hread : read? v.text =
      (Machine.run depthLimit v.chars ⟨[], .value⟩).bind Machine.result? := by
    rw [read?, text, String.toList_ofList, ofChars?, Machine.run, Option.bind_assoc]
    rfl
  have hend (w : Json) :
      (Machine.run depthLimit [] ⟨[], .afterValue w⟩).bind Machine.result? = some w := by
    rw [Machine.run, lex]
    rfl
  rw [hread, hrun, Option.bind_assoc]
  simp only [hend, Option.bind_fun_some]
  rfl

/-! When a value is read back as it was. -/

theorem takeFields_nodup (done fields : List (String × Json)) (h : (Named.names done).Nodup) :
    (Named.names (takeFields done fields)).Nodup := by
  induction fields generalizing done with
  | nil => exact h
  | cons f fields ih => exact ih _ (Named.nodup_names_put h f.1 f.2)

theorem takeFields_of_nodup {done fields : List (String × Json)}
    (h : (Named.names (done ++ fields)).Nodup) : takeFields done fields = done ++ fields := by
  induction fields generalizing done with
  | nil => exact (List.append_nil done).symm
  | cons f fields ih =>
    have hnew : f.1 ∉ Named.names done := by
      intro hm
      rw [Named.names, List.map_append, List.map_cons] at h
      exact (List.nodup_append.mp h).2.2 f.1 hm f.1 (by simp) rfl
    have happend : done ++ f :: fields = done ++ [(f.1, f.2)] ++ fields := by simp
    rw [takeFields, List.foldl_cons, Named.put_of_new hnew, happend]
    exact ih (happend ▸ h)

theorem names_rereadFields {room : Nat} {fields gs : List (String × Json)}
    (h : rereadFields room fields = some gs) : Named.names gs = Named.names fields := by
  induction fields generalizing gs with
  | nil =>
    obtain rfl := Option.some.inj h
    rfl
  | cons f fields ih =>
    obtain ⟨key, v⟩ := f
    rw [rereadFields] at h
    obtain ⟨w, -, hrest⟩ := Option.bind_eq_some_iff.mp h
    obtain ⟨hs, hhs, rfl⟩ := Option.map_eq_some_iff.mp hrest
    simp only [Named.names, List.map_cons] at ih ⊢
    rw [ih hhs]

/-- An object comes back as it was if its fields do and no name stands twice. -/
theorem map_takeFields_iff {room : Nat} {fields : List (String × Json)} :
    (rereadFields room fields).map (fun fs => obj (takeFields [] fs)) = some (obj fields) ↔
      (Named.names fields).Nodup ∧ rereadFields room fields = some fields := by
  constructor
  · intro h
    obtain ⟨gs, hgs, htake⟩ := Option.map_eq_some_iff.mp h
    have htake : takeFields [] gs = fields := obj.inj htake
    have hnodup : (Named.names (takeFields [] gs)).Nodup := takeFields_nodup [] gs List.nodup_nil
    rw [htake] at hnodup
    have hsame : takeFields [] gs = gs := by
      refine takeFields_of_nodup ?_
      rw [List.nil_append, names_rereadFields hgs]
      exact hnodup
    exact ⟨hnodup, by rw [hgs, ← htake, hsame]⟩
  · rintro ⟨hnodup, hfields⟩
    rw [hfields, Option.map_some, takeFields_of_nodup (by simpa using hnodup), List.nil_append]

mutual

theorem reread_eq_self_iff (steps : List Step) : ∀ v : Json,
    reread (depthLimit - steps.length) v = some v ↔ ∀ n ∈ nodesAt steps v, n.IsLegible
  | null => by simp [reread, nodesAt, Node.IsLegible]
  | bool b => by simp [reread, nodesAt, Node.IsLegible]
  | str s => by simp [reread, nodesAt, Node.IsLegible]
  | num (.whole m low high) => by
    simp [reread, nodesAt, Node.IsLegible, Number.ofChars_whole]
  | num (.real x finite) => by
    simp [reread, nodesAt, Node.IsLegible, Number.text]
  | arr items => by
    rw [reread, nodesAt, List.forall_mem_cons, Node.IsLegible, ← rereadItems_eq_self_iff steps 0]
    split
    · simp only [reduceCtorEq, false_iff]
      omega
    · have hdepth : steps.length < depthLimit := by omega
      simp [hdepth]
  | obj fields => by
    rw [reread, nodesAt, List.forall_mem_cons, Node.IsLegible, ← rereadFields_eq_self_iff steps]
    split
    · simp only [reduceCtorEq, false_iff]
      omega
    · have hdepth : steps.length < depthLimit := by omega
      rw [map_takeFields_iff]
      simp [hdepth]

theorem rereadItems_eq_self_iff (steps : List Step) (index : Nat) : ∀ items : List Json,
    rereadItems (depthLimit - steps.length - 1) items = some items ↔
      ∀ n ∈ itemNodes steps index items, n.IsLegible
  | [] => by simp [rereadItems, itemNodes]
  | v :: rest => by
    have hv := reread_eq_self_iff (steps ++ [.item index]) v
    rw [List.length_append, List.length_singleton, ← Nat.sub_sub] at hv
    rw [rereadItems, itemNodes, List.forall_mem_append, ← hv,
      ← rereadItems_eq_self_iff steps (index + 1) rest, Option.bind_eq_some_iff]
    simp

theorem rereadFields_eq_self_iff (steps : List Step) : ∀ fields : List (String × Json),
    rereadFields (depthLimit - steps.length - 1) fields = some fields ↔
      ∀ n ∈ fieldNodes steps fields, n.IsLegible
  | [] => by simp [rereadFields, fieldNodes]
  | (key, v) :: rest => by
    have hv := reread_eq_self_iff (steps ++ [.field key]) v
    rw [List.length_append, List.length_singleton, ← Nat.sub_sub] at hv
    rw [rereadFields, fieldNodes, List.forall_mem_append, ← hv,
      ← rereadFields_eq_self_iff steps rest, Option.bind_eq_some_iff]
    simp

end

end CurlScribe.Json
