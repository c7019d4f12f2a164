import CurlScribe.Proofs.Text.Cut
import CurlScribe.Web.Host
import Mathlib.Data.List.TakeWhile
import Mathlib.Tactic.Linarith

/-! IPv4 and IPv6 addresses read back from their normal written form. -/
namespace CurlScribe.Host

variable {b n : Nat} {c : Char} {cs : List Char} {ns : List Nat}

/-! Digits. -/

theorem digitsInBase_append (b : Nat) (cs ds : List Char) : digitsInBase b (cs ++ ds) =
    (digitsInBase b cs).bind fun n => ds.foldlM (fun n c =>
      (Percent.hexByte? c.toNat).bind fun d => if d < b then some (b * n + d) else none) n :=
  List.foldlM_append

theorem hexByte_digitChar (h : n < 16) : Percent.hexByte? n.digitChar.toNat = some n := by
  have hall : ∀ n < 16, Percent.hexByte? n.digitChar.toNat = some n := by decide
  exact hall n h

theorem digitsInBase_toDigits (hb : 1 < b) (hle : b ≤ 16) (n : Nat) :
    digitsInBase b (Nat.toDigits b n) = some n := by
  have hlast (m d : Nat) (hd : d < b) : [d.digitChar].foldlM (fun n c =>
      (Percent.hexByte? c.toNat).bind fun d => if d < b then some (b * n + d) else none) m =
        some (b * m + d) := by
    simp [hexByte_digitChar (Nat.lt_of_lt_of_le hd hle), hd]
  induction n using Nat.strongRecOn with
  | _ n ih =>
    rw [Nat.toDigits_eq_if hb]
    split
    · rename_i hlt
      exact (hlast 0 n hlt).trans (by simp)
    · rename_i hge
      rw [digitsInBase_append, ih _ (Nat.div_lt_self (by omega) hb), Option.bind_some,
        hlast _ _ (Nat.mod_lt _ (by omega)), Nat.div_add_mod]

theorem digitsInBase_lt (h : digitsInBase b cs = some n) : n < b ^ cs.length := by
  have hfold : ∀ (cs : List Char) (m n : Nat), cs.foldlM (fun n c =>
      (Percent.hexByte? c.toNat).bind fun d => if d < b then some (b * n + d) else none) m =
        some n → n < (m + 1) * b ^ cs.length := by
    intro cs
    induction cs with
    | nil =>
      intro m n h
      obtain rfl := Option.some.inj h
      simp
    | cons c cs ih =>
      intro m n h
      rw [List.foldlM_cons] at h
      obtain ⟨k, hk, hrest⟩ := Option.bind_eq_some_iff.mp h
      obtain ⟨d, -, hd⟩ := Option.bind_eq_some_iff.mp hk
      obtain ⟨hlt, heq⟩ := Option.ite_none_right_eq_some.mp hd
      obtain rfl := Option.some.inj heq
      have hstep : b * m + d + 1 ≤ (m + 1) * b := by
        rw [Nat.add_mul, Nat.mul_comm b m]
        omega
      calc
        n < (b * m + d + 1) * b ^ cs.length := ih _ _ hrest
        _ ≤ (m + 1) * b * b ^ cs.length := Nat.mul_le_mul_right _ hstep
        _ = (m + 1) * b ^ (c :: cs).length := by
          rw [List.length_cons, Nat.pow_succ, Nat.mul_assoc, Nat.mul_comm b]
  simpa using hfold cs 0 n h

/-! IPv4. -/

theorem v4Part_toDigits (h : n < 256) : v4Part? (Nat.toDigits 10 n) = some n := by
  have hall : ∀ n < 256, v4Part? (Nat.toDigits 10 n) = some n := by decide +kernel
  exact hall n h

/-- The bytes of an address, the highest first. -/
def v4Bytes (n : Nat) : List Nat :=
  [n / 0x1000000 % 256, n / 0x10000 % 256, n / 256 % 256, n % 256]

theorem v4Text_eq (n : Nat) :
    v4Text n = ['.'].intercalate ((v4Bytes n).map (Nat.toDigits 10)) := rfl

theorem isDigit_of_mem_toDigits (h : c ∈ Nat.toDigits 10 n) : c.isDigit = true :=
  Nat.isDigit_of_mem_toDigits (by decide) (by decide) h

theorem dotParts_v4Text (n : Nat) : dotParts (v4Text n) = (v4Bytes n).map (Nat.toDigits 10) := by
  have hdot : ∀ part ∈ (v4Bytes n).map (Nat.toDigits 10), '.' ∉ part := by
    intro part hp hm
    obtain ⟨m, -, rfl⟩ := List.mem_map.mp hp
    exact absurd (isDigit_of_mem_toDigits hm) (by decide)
  rw [dotParts, v4Text_eq, List.splitOn_intercalate _ hdot (by simp [v4Bytes])]
  simp [v4Bytes, Nat.toDigits_ne_nil]

theorem endsInNumber_v4Text (n : Nat) : endsInNumber (v4Text n) = true := by
  rw [endsInNumber, dotParts_v4Text]
  simp [v4Bytes, v4Part_toDigits (Nat.mod_lt n (by decide : 256 > 0))]

theorem v4_v4Text (h : n < 2 ^ 32) : v4? (v4Text n) = some n := by
  have hparts : ((v4Bytes n).map (Nat.toDigits 10)).mapM v4Part? = some (v4Bytes n) := by
    refine Text.mapM_map fun m hm => v4Part_toDigits ?_
    simp only [v4Bytes, List.mem_cons, List.not_mem_nil, or_false] at hm
    rcases hm with rfl | rfl | rfl | rfl <;> exact Nat.mod_lt _ (by decide)
  have h1 : ¬ 255 < n / 0x1000000 % 256 := by omega
  have h2 : ¬ 255 < n / 0x10000 % 256 := by omega
  have h3 : ¬ 255 < n / 256 % 256 := by omega
  have h4 : ¬ 256 ≤ n % 256 := by omega
  rw [v4?, dotParts_v4Text, hparts]
  simp [v4Bytes, h1, h2, h3, h4]
  omega

/-- The value of bytes, the first of them the highest of four. -/
def highValue (bytes : List Nat) : List Nat :=
  bytes.zipIdx.map fun (n, i) => n * Nat.pow 256 (3 - i)

theorem v4_lt (h : v4? cs = some n) : n < 2 ^ 32 := by
  have p3 : Nat.pow 256 3 = 0x1000000 := rfl
  have p2 : Nat.pow 256 2 = 0x10000 := rfl
  have p1 : Nat.pow 256 1 = 0x100 := rfl
  unfold v4? at h
  split at h
  · rename_i last before hparts
    obtain ⟨hfits, heq⟩ := Option.ite_none_left_eq_some.mp h
    simp only [Bool.or_eq_true, decide_eq_true_eq, not_or, Nat.not_lt, Nat.not_le,
      List.any_eq_true, not_exists, not_and] at hfits
    obtain ⟨⟨hlength, hbytes⟩, hlast⟩ := hfits
    have hn : (highValue before.reverse).foldl (· + ·) last = n := Option.some.inj heq
    rw [← hn]
    -- at most three bytes stand before the last part
    match before, hlength with
    | [], _ => exact hlast
    | [a], _ =>
      have ha := hbytes a (by simp)
      have hv : highValue [a] = [a * Nat.pow 256 3] := rfl
      have h3 : 4 - [a].length = 3 := rfl
      rw [h3, p3] at hlast
      rw [List.reverse_singleton, hv, p3, List.foldl_cons, List.foldl_nil]
      omega
    | [b, a], _ =>
      have ha := hbytes a (by simp)
      have hb := hbytes b (by simp)
      have hv : highValue [b, a].reverse = [a * Nat.pow 256 3, b * Nat.pow 256 2] := rfl
      have h2 : 4 - [b, a].length = 2 := rfl
      rw [h2, p2] at hlast
      rw [hv, p3, p2, List.foldl_cons, List.foldl_cons, List.foldl_nil]
      omega
    | [c, b, a], _ =>
      have ha := hbytes a (by simp)
      have hb := hbytes b (by simp)
      have hc := hbytes c (by simp)
      have hv : highValue [c, b, a].reverse =
          [a * Nat.pow 256 3, b * Nat.pow 256 2, c * Nat.pow 256 1] := rfl
      have h1 : 4 - [c, b, a].length = 1 := rfl
      rw [h1, p1] at hlast
      rw [hv, p3, p2, p1, List.foldl_cons, List.foldl_cons, List.foldl_cons, List.foldl_nil]
      omega
  · simp at h

/-! IPv6. -/

theorem group_toDigits (h : n < 0x10000) : group? (Nat.toDigits 16 n) = some n := by
  have hlength : (Nat.toDigits 16 n).length ≤ 4 :=
    (Nat.length_toDigits_le_iff (by decide) (by decide)).mpr h
  rw [group?, if_neg, digitsInBase_toDigits (by decide) (by decide)]
  simp [Nat.toDigits_ne_nil, hlength]

theorem group_lt (h : group? cs = some n) : n < 0x10000 := by
  obtain ⟨hlength, hn⟩ := Option.ite_none_left_eq_some.mp h
  simp only [Bool.or_eq_true, decide_eq_true_eq, not_or, Nat.not_lt] at hlength
  calc
    n < 16 ^ cs.length := digitsInBase_lt hn
    _ ≤ 16 ^ 4 := Nat.pow_le_pow_right (by decide) hlength.2

theorem dottedGroups_lt (h : dottedGroups? cs = some ns) : ∀ n ∈ ns, n < 0x10000 := by
  unfold dottedGroups? at h
  split at h
  · rename_i a b c d hbytes
    have hlt : ∀ n ∈ [a, b, c, d], n < 256 := by
      intro n hn
      obtain ⟨part, -, hp⟩ := Text.mem_of_mapM hbytes n hn
      obtain ⟨-, hv⟩ := Option.ite_none_left_eq_some.mp hp
      obtain ⟨m, -, hm⟩ := Option.bind_eq_some_iff.mp hv
      obtain ⟨hlt, heq⟩ := Option.ite_none_right_eq_some.mp hm
      rwa [← Option.some.inj heq]
    simp only [List.forall_mem_cons, List.not_mem_nil, false_imp_iff, implies_true, and_true] at hlt
    obtain rfl := Option.some.inj h
    simp
    omega
  · simp at h

theorem groups_lt {tail : Bool} {parts : List (List Char)} (h : groups? tail parts = some ns) :
    ∀ n ∈ ns, n < 0x10000 := by
  induction parts generalizing ns with
  | nil =>
    obtain rfl := Option.some.inj h
    simp
  | cons part parts ih =>
    cases parts with
    | nil =>
      rw [groups?] at h
      split at h
      · rename_i m hm
        obtain rfl := Option.some.inj h
        simpa using group_lt hm
      · cases tail with
        | true => exact dottedGroups_lt h
        | false => simp at h
    | cons next parts =>
      rw [groups?] at h
      · split at h
        · rename_i m ms hm hms
          obtain rfl := Option.some.inj h
          exact List.forall_mem_cons.mpr ⟨group_lt hm, ih hms⟩
        · simp at h
      · simp

/-- Groups that are written between colons are read back. -/
theorem groups_map {tail : Bool} (h : ∀ n ∈ ns, n < 0x10000) :
    groups? tail (ns.map (Nat.toDigits 16)) = some ns := by
  induction ns with
  | nil => rfl
  | cons n ns ih =>
    have hn := group_toDigits (h n (by simp))
    have hrest := ih fun m hm => h m (List.mem_cons_of_mem n hm)
    cases ns with
    | nil => simp [groups?, hn]
    | cons m ns =>
      rw [List.map_cons, List.map_cons, groups?, hn, ← List.map_cons, hrest]
      simp

theorem colonGroups_lt {tail : Bool} (h : colonGroups? tail cs = some ns) :
    ∀ n ∈ ns, n < 0x10000 := by
  unfold colonGroups? at h
  split at h
  · obtain rfl := Option.some.inj h
    simp
  · exact groups_lt h

/-- An address has eight groups. -/
theorem v6_bounds (h : v6? cs = some ns) : ns.length = 8 ∧ ∀ n ∈ ns, n < 0x10000 := by
  unfold v6? at h
  split at h
  · obtain ⟨ms, hms, hl⟩ := Option.bind_eq_some_iff.mp h
    obtain ⟨hlength, heq⟩ := Option.ite_none_right_eq_some.mp hl
    obtain rfl := Option.some.inj heq
    exact ⟨hlength, colonGroups_lt hms⟩
  · split at h
    · rename_i ms ks hms hks
      obtain ⟨hlength, heq⟩ := Option.ite_none_right_eq_some.mp h
      obtain rfl := Option.some.inj heq
      refine ⟨by simp; omega, fun n hn => ?_⟩
      simp only [List.mem_append, List.mem_replicate] at hn
      rcases hn with (hn | ⟨-, rfl⟩) | hn
      · exact colonGroups_lt hms n hn
      · decide
      · exact colonGroups_lt hks n hn
    · simp at h

theorem mem_toDigits (hb : 1 < b) (h : c ∈ Nat.toDigits b n) : ∃ d < b, c = d.digitChar := by
  induction n using Nat.strongRecOn with
  | _ n ih =>
    rw [Nat.toDigits_eq_if hb] at h
    split at h
    · exact ⟨n, by assumption, List.mem_singleton.mp h⟩
    · rcases List.mem_append.mp h with h | h
      · exact ih _ (Nat.div_lt_self (by omega) hb) h
      · exact ⟨n % b, Nat.mod_lt _ (by omega), List.mem_singleton.mp h⟩

theorem colon_not_mem (n : Nat) : ':' ∉ Nat.toDigits 16 n := by
  intro h
  obtain ⟨d, hd, heq⟩ := mem_toDigits (by decide) h
  have hall : ∀ d < 16, ':' ≠ d.digitChar := by decide
  exact hall d hd heq

theorem groupsText_cons (n m : Nat) (ns : List Nat) :
    groupsText (n :: m :: ns) = Nat.toDigits 16 n ++ ':' :: groupsText (m :: ns) := by
  simp [groupsText, List.intercalate_cons_cons]

theorem groupsText_singleton (n : Nat) : groupsText [n] = Nat.toDigits 16 n := by
  simp [groupsText]

/-- The text of groups starts with a digit. -/
theorem groupsText_head (n : Nat) (ns : List Nat) :
    ∃ c rest, groupsText (n :: ns) = c :: rest ∧ c ≠ ':' := by
  obtain ⟨c, rest, hc⟩ := List.exists_cons_of_ne_nil (Nat.toDigits_ne_nil (b := 16) (n := n))
  have hne : c ≠ ':' := by
    rintro rfl
    exact colon_not_mem n (by simp [hc])
  cases ns with
  | nil => exact ⟨c, rest, by rw [groupsText_singleton, hc], hne⟩
  | cons m ns => exact ⟨c, _, by rw [groupsText_cons, hc, List.cons_append], hne⟩

theorem colonGroups_groupsText {tail : Bool} (h : ∀ n ∈ ns, n < 0x10000) :
    colonGroups? tail (groupsText ns) = some ns := by
  cases ns with
  | nil => rfl
  | cons n ns =>
    obtain ⟨c, rest, hc, -⟩ := groupsText_head n ns
    rw [colonGroups?, if_neg (by simp [hc]), groupsText, List.splitOn_intercalate, groups_map h]
    · intro part hp
      obtain ⟨m, -, rfl⟩ := List.mem_map.mp hp
      exact colon_not_mem m
    · simp

theorem cutDoubleColon_cons (h : c ≠ ':' ∨ cs.head? ≠ some ':') : cutDoubleColon (c :: cs) =
    (cutDoubleColon cs).map fun (before, after) => (c :: before, after) := by
  rw [cutDoubleColon]
  rintro rest rfl rfl
  simp at h

theorem cutDoubleColon_append {part : List Char} (h : ':' ∉ part) (rest : List Char) :
    cutDoubleColon (part ++ rest) =
      (cutDoubleColon rest).map fun (before, after) => (part ++ before, after) := by
  induction part with
  | nil => simp
  | cons c part ih =>
    rw [List.mem_cons, not_or] at h
    rw [List.cons_append, cutDoubleColon_cons (.inl (Ne.symm h.1)), ih h.2, Option.map_map]
    rfl

theorem cutDoubleColon_groupsText (ns : List Nat) : cutDoubleColon (groupsText ns) = none := by
  induction ns with
  | nil => rfl
  | cons n ns ih =>
    cases ns with
    | nil =>
      have h := cutDoubleColon_append (colon_not_mem n) []
      rw [List.append_nil] at h
      rw [groupsText_singleton, h]
      rfl
    | cons m ns =>
      obtain ⟨c, rest, hc, hne⟩ := groupsText_head m ns
      rw [groupsText_cons, cutDoubleColon_append (colon_not_mem n),
        cutDoubleColon_cons (.inr (by simp [hc, hne])), ih]
      rfl

/-- The first double colon is the one between two texts of groups. -/
theorem cutDoubleColon_double (ns : List Nat) (after : List Char) :
    cutDoubleColon (groupsText ns ++ ':' :: ':' :: after) = some (groupsText ns, after) := by
  induction ns with
  | nil => rfl
  | cons n ns ih =>
    cases ns with
    | nil =>
      rw [groupsText_singleton, cutDoubleColon_append (colon_not_mem n)]
      simp [cutDoubleColon]
    | cons m ns =>
      obtain ⟨c, rest, hc, hne⟩ := groupsText_head m ns
      rw [groupsText_cons, List.append_assoc, cutDoubleColon_append (colon_not_mem n),
        List.cons_append, cutDoubleColon_cons (.inr (by simp [hc, hne])), ih]
      rfl

/-- The longest run of zeros is one, and is not short. -/
theorem longestZeros_spec {i n : Nat} (h : longestZeros ns = some (i, n)) :
    n = zeroRun (ns.drop i) ∧ 1 < n := by
  let P (p : Nat × Nat) : Prop := p.2 = zeroRun (ns.drop p.1) ∧ 1 < p.2
  -- whichever way the better one of two runs is told, it is one of them
  have hfold {f : Option (Nat × Nat) → Nat × Nat → Option (Nat × Nat)}
      (hf : ∀ best p, f best p = best ∨ (f best p = some p ∧ 1 < p.2)) :
      ∀ (runs : List (Nat × Nat)) (best : Option (Nat × Nat)), (∀ p ∈ best, P p) →
        (∀ p ∈ runs, p.2 = zeroRun (ns.drop p.1)) → ∀ p ∈ runs.foldl f best, P p := by
    intro runs
    induction runs with
    | nil => exact fun best hbest _ => hbest
    | cons p runs ih =>
      intro best hbest hruns
      refine ih _ ?_ fun q hq => hruns q (List.mem_cons_of_mem p hq)
      rcases hf best p with heq | ⟨heq, hlong⟩
      · rwa [heq]
      · rw [heq]
        rintro q ⟨⟩
        exact ⟨hruns p (by simp), hlong⟩
  have hchoice (longer : Bool) (best : Option (Nat × Nat)) (p : Nat × Nat) :
      (if 1 < p.2 && longer then some p else best) = best ∨
        ((if 1 < p.2 && longer then some p else best) = some p ∧ 1 < p.2) := by
    split
    · rename_i hbetter
      rw [Bool.and_eq_true, decide_eq_true_eq] at hbetter
      exact .inr ⟨rfl, hbetter.1⟩
    · exact .inl rfl
  refine hfold (fun best p => hchoice _ best p) _ none (by simp) ?_ (i, n) h
  intro p hp
  obtain ⟨j, -, rfl⟩ := List.mem_map.mp hp
  rfl

theorem zeroRun_spec (ns : List Nat) :
    ns = List.replicate (zeroRun ns) 0 ++ ns.drop (zeroRun ns) := by
  have hzeros : ns.takeWhile (· == 0) = List.replicate (zeroRun ns) 0 :=
    List.eq_replicate_of_mem fun n hn => by simpa using List.mem_takeWhile_imp hn
  have hcut := List.takeWhile_append_dropWhile (p := (· == 0)) (l := ns)
  have hdrop : ns.drop (zeroRun ns) = ns.dropWhile (· == 0) := by
    have hleft : (ns.takeWhile (· == 0) ++ ns.dropWhile (· == 0)).drop (zeroRun ns) =
        ns.dropWhile (· == 0) := List.drop_left
    rwa [hcut] at hleft
  rw [hdrop, ← hzeros, hcut]

/-- An address is read from its normal written form. -/
theorem bracketed_v6Text (hl : ns.length = 8) (h : ∀ n ∈ ns, n < 0x10000) :
    bracketed? (v6Text ns) = some (some ns) := by
  have hinner (inner : List Char) (hv : v6? inner = some ns) :
      bracketed? ('[' :: inner ++ [']']) = some (some ns) := by
    simp [bracketed?, hv]
  unfold v6Text
  split
  · rename_i i n hz
    obtain ⟨hn, hlong⟩ := longestZeros_spec hz
    have hrun := zeroRun_spec (ns.drop i)
    rw [← hn, List.drop_drop] at hrun
    have hlength : n + (ns.drop (i + n)).length = (ns.drop i).length := by
      conv_rhs => rw [hrun]
      simp
    rw [List.length_drop, List.length_drop, hl] at hlength
    have hi : (ns.take i).length = i := by
      rw [List.length_take, hl]
      omega
    have htake : ∀ m ∈ ns.take i, m < 0x10000 := fun m hm => h m (List.mem_of_mem_take hm)
    have hdrop : ∀ m ∈ ns.drop (i + n), m < 0x10000 := fun m hm => h m (List.mem_of_mem_drop hm)
    refine hinner _ ?_
    rw [v6?, List.append_assoc, List.cons_append, List.cons_append, List.nil_append,
      cutDoubleColon_double]
    simp only [colonGroups_groupsText htake, colonGroups_groupsText hdrop]
    rw [if_pos, hi, List.length_drop, hl]
    · have hzeros : 8 - i - (8 - (i + n)) = n := by omega
      rw [hzeros, List.append_assoc, ← hrun, List.take_append_drop]
    · rw [hi, List.length_drop, hl]
      omega
  · refine hinner _ ?_
    rw [v6?, cutDoubleColon_groupsText]
    simp [colonGroups_groupsText h, hl]

end CurlScribe.Host
