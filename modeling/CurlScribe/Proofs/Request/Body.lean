import CurlScribe.Proofs.Json.Reread
import CurlScribe.Proofs.Json.Short
import CurlScribe.Proofs.Request.ReadBack
import CurlScribe.Proofs.Text.Trim

/-! The two forms of a body: the value it holds and the value its text is read as. They agree
exactly where every part of the value is legible. -/
namespace CurlScribe

open Json

theorem Json.not_blank_of_isNumberChar {c : Char} (h : isNumberChar c = true) :
    Text.isBlank c = false := by
  simp only [isNumberChar, Bool.or_eq_true, beq_iff_eq] at h
  rcases h with ((((h | rfl) | rfl) | rfl) | rfl) | rfl
  · exact Argument.not_blank_of_digit h
  all_goals decide

/-- What starts and ends with something has no margins. -/
theorem Text.trim_between {c d : Char} (hc : isBlank c = false) (hd : isBlank d = false)
    (cs : List Char) : trim (c :: (cs ++ [d])) = c :: (cs ++ [d]) := by
  have hend : trimEnd [d] = [d] := by
    rw [trimEnd, List.reverse_singleton, List.dropWhile_cons_of_neg (by simp [hd])]
    rfl
  rw [← List.cons_append, trim_append hc cs ⟨d, by simp, hd⟩, hend]

/-- The text of a value has no blank margins. -/
theorem Json.trim_chars (v : Json) : Text.trim v.chars = v.chars := by
  cases v with
  | null => decide
  | bool b => cases b <;> decide
  | num n =>
    rw [Machine.chars_num]
    exact Text.trim_of_not_blank fun c hc =>
      not_blank_of_isNumberChar (List.all_eq_true.mp n.all_text c hc)
  | str s =>
    rw [Machine.chars_str]
    exact Text.trim_between (by decide) (by decide) _
  | arr items =>
    rw [chars_arr]
    exact Text.trim_between (by decide) (by decide) _
  | obj fields =>
    rw [chars_obj]
    exact Text.trim_between (by decide) (by decide) _

namespace Body

variable {v : Json}

theorem json_ofText_text (v : Json) : (ofText v.text).json = reread depthLimit v := by
  have htrim : Text.trimmed v.text = v.text := by
    rw [Text.trimmed, text, String.toList_ofList, trim_chars]
  rw [ofText, htrim]
  exact read_text v

theorem rereads_iff (v : Json) :
    (ofText (ofJson v).raw).json = (ofJson v).json ↔ ∀ n ∈ v.nodes, n.IsLegible := by
  have hread : reread depthLimit v = some v ↔ ∀ n ∈ v.nodes, n.IsLegible :=
    reread_eq_self_iff [] v
  rw [← json_ofText_text] at hread
  cases v with
  | null => simp [ofJson, ofText, nodes, nodesAt, Node.IsLegible]
  | str s => simp [ofJson, ofText, nodes, nodesAt, Node.IsLegible]
  | _ => exact hread

end Body

namespace Request

/-- Cleaning reads the value of a body from its text again. -/
theorem json_tidied (r : Request) (b : Body) :
    (({ r with body := some b } : Request).tidied.body.bind Body.json) =
      (Body.ofText b.raw).json := by
  by_cases hraw : b.raw = ""
  · have hempty : (Body.ofText "").json = none := by
      rw [Body.ofText, read?, ofChars?]
      have hnil : (Text.trimmed "").toList = [] := by decide
      rw [hnil, lex]
      rfl
    simp [tidied, Option.filter, hraw, hempty]
  · simp [tidied, Option.filter, hraw]

/-- What comes back of a request through JSON: the body is read again from its text, and times that
are not finite are lost. -/
def echo (r : Request) : Request :=
  { r with
    body := r.body.map fun b => .ofText b.raw
    network := r.network.map Network.tidied }

/-- Every request reads back from its JSON form. -/
theorem read_echo (r : Request) : codec.read (codec.write r) = .ok r.echo := by
  have htext := Codec.readsBack_text
  have hlist (as : List String) : (Codec.list .text).ReadsBack as :=
    Codec.readsBack_list fun s _ => htext s
  have hspoken := Codec.echoes_of_readsBack htext
  rw [codec, Record.read_write, record, Record.readFields_always rfl rfl (Method.readsBack _)]
  iterate 4 rw [Record.readFields_always rfl rfl (htext _)]
  rw [Record.readFields_always rfl rfl (hlist _)]
  iterate 2 rw [Record.readFields_always rfl rfl (ParamList.readsBack _)]
  rw [Record.readFields_optional Body.echoes rfl rfl rfl]
  iterate 2 rw [Record.readFields_always rfl rfl (ParamList.readsBack _)]
  rw [Record.readFields_optional (Codec.echoes_of_readsBack Auth.readsBack) rfl rfl rfl]
  iterate 3 rw [Record.readFields_optional hspoken rfl rfl rfl]
  rw [Record.readFields_always rfl rfl (Flags.readsBack _),
    Record.readFields_optional Network.echoes rfl rfl rfl,
    Record.readFields_optional (Codec.echoes_of_readsBack Tls.readsBack) rfl rfl rfl,
    Record.readFields_always rfl rfl (hlist _), Record.readFields_written_nil]
  simp only [Option.bind_fun_some, echo, Option.map_eq_bind, Function.comp_def]

end Request

namespace Body

/-- The two forms of a body agree, and cleaning or reading a request again changes nothing in what
its body holds, exactly where every part of the value is legible. -/
theorem forms_agree_iff (v : Json) (r : Request) :
    ((ofText (ofJson v).raw).json = (ofJson v).json ↔ ∀ n ∈ v.nodes, n.IsLegible) ∧
    (∃ s, ({ r with body := some (ofJson v) } : Request).clean = .ok s ∧
      (s.body.bind json = (ofJson v).json ↔ ∀ n ∈ v.nodes, n.IsLegible)) ∧
    ∃ s, Request.codec.read (Request.codec.write { r with body := some (ofJson v) }) = .ok s ∧
      (s.body.bind json = (ofJson v).json ↔ ∀ n ∈ v.nodes, n.IsLegible) := by
  refine ⟨rereads_iff v, ⟨_, Request.clean_eq _, ?_⟩, ⟨_, Request.read_echo _, rereads_iff v⟩⟩
  rw [Request.json_tidied]
  exact rereads_iff v

/-- A number of few digits is one of the legible parts. -/
theorem isLegible_of_short {x : Binary64} (finite : x.isFinite = true) (steps : List Step)
    (hs : x.spelled.digits < 2 ^ 53) (hp : x.spelled.power.natAbs ≤ Decimal.exactPower) :
    Node.IsLegible ⟨steps, .num (.real x finite)⟩ :=
  Binary64.ofChars_short finite hs hp

example : Node.IsLegible ⟨[], .num (.real ⟨false, 0x3fb999999999999a⟩ (by decide))⟩ :=
  isLegible_of_short _ _ (by decide +kernel) (by decide +kernel)

/-- The number 5.0000000000000004e+32, the next one above 5e+32. -/
def longNumber : Number := .real ⟨false, 0x46b8a6e32246c99d⟩ (by decide)

/-- The reader takes its digits for those of 5e+32. -/
theorem ofChars_longNumber : Number.ofChars? longNumber.text =
    some (.real ⟨false, 0x46b8a6e32246c99c⟩ (by decide)) := by
  decide +kernel

/-- An array of this number is another one when its text is read, and so after a cleaning. -/
theorem longNumber_is_reread_differently :
    (ofText (ofJson (.arr [.num longNumber])).raw).json ≠ (ofJson (.arr [.num longNumber])).json ∧
      ∃ s, ({ body := some (ofJson (.arr [.num longNumber])) } : Request).clean = .ok s ∧
        s.body.bind json ≠ (ofJson (.arr [.num longNumber])).json := by
  have hread : (ofText (ofJson (.arr [.num longNumber])).raw).json =
      some (.arr [.num (.real ⟨false, 0x46b8a6e32246c99c⟩ (by decide))]) := by
    refine (json_ofText_text (.arr [.num longNumber])).trans ?_
    simp [reread, rereadItems, ofChars_longNumber, depthLimit]
  have hne : (ofText (ofJson (.arr [.num longNumber])).raw).json ≠
      (ofJson (.arr [.num longNumber])).json := by
    rw [hread]
    simp [ofJson, longNumber]
  exact ⟨hne, _, Request.clean_eq _, fun h => hne ((Request.json_tidied {} _).symm.trans h)⟩

def nested : Nat → Json
  | 0 => .null
  | n + 1 => .arr [nested n]

theorem reread_nested {room n : Nat} (h : room < n) : reread room (nested n) = none := by
  induction n generalizing room with
  | zero => omega
  | succ n ih =>
    rw [nested, reread]
    split
    · rfl
    · rw [rereadItems, ih (by omega)]
      rfl

/-- What is nested too deep has a text, but nothing is read from it. -/
theorem json_nested {n : Nat} (h : depthLimit < n) :
    (ofJson (nested n)).json = some (nested n) ∧ (ofText (ofJson (nested n)).raw).json = none := by
  obtain ⟨m, rfl⟩ : ∃ m, n = m + 1 := ⟨n - 1, by omega⟩
  exact ⟨rfl, (json_ofText_text (nested (m + 1))).trans (reread_nested h)⟩

end Body

end CurlScribe
