import CurlScribe.Proofs.Command.Spelling

/-! Options with a value that cannot be used. A method and a header are passed over. A number takes
away the number that an earlier option has set, and shows unless a later one sets it again. -/
namespace CurlScribe.Command

variable {o : CommandOptions} {policy : Repeated} {d : Draft} {option other : ValueOption}
  {name value word : String} {ps qs ws : List String} {n : Network}

/-- The option wants a method, a header or a number, and the value is none. -/
def IsUnusable (option : ValueOption) (value : String) : Prop :=
  let number := Text.trim value.toList
  match option with
  | .request => Method.ofText? value = none
  | .header => ∀ name rest, cutAt? ':' value.toList = some (name, rest) → Text.trim name = []
  | .maxTime | .connectTimeout | .retryDelay | .retryMaxTime => Argument.real? number = none
  | .retry => Argument.count32? number = none
  | .maxRedirects => Argument.integer32? number = none
  | _ => False

/-- Whether the number of an option is set. -/
def hasNumber (option : ValueOption) (n : Network) : Bool :=
  match option with
  | .maxTime => n.maxTime.isSome
  | .connectTimeout => n.connectTimeout.isSome
  | .retry => n.retry.isSome
  | .retryDelay => n.retryDelay.isSome
  | .retryMaxTime => n.retryMaxTime.isSome
  | .maxRedirects => n.maxRedirects.isSome
  | _ => false

/-- The options among words, each with the value that it is given. -/
def givenValues : List String → List (ValueOption × String)
  | [] => []
  | word :: rest =>
    match read word, rest with
    | .option _, [] => []
    | .option o, value :: rest => (o, Word.unquoted value) :: givenValues rest
    | .argument, rest => givenValues rest
    | .switches _, rest => givenValues rest
    | .tls _, rest => givenValues rest
    | .inline o _ value, rest => (o, value) :: givenValues rest
    | .unknown, rest => givenValues rest

/-! The numbers of a draft, apart from everything else in it. -/

/-- What an option makes of the numbers when it is given this text, or none. -/
def setNumber (option : ValueOption) (text : Option (List Char)) (n : Network) : Network :=
  match option with
  | .maxTime => { n with maxTime := text.bind Argument.real? }
  | .connectTimeout => { n with connectTimeout := text.bind Argument.real? }
  | .retry => { n with retry := text.bind Argument.count32? }
  | .retryDelay => { n with retryDelay := text.bind Argument.real? }
  | .retryMaxTime => { n with retryMaxTime := text.bind Argument.real? }
  | .maxRedirects => { n with maxRedirects := text.bind Argument.integer32? }
  | _ => n

def withNetwork (d : Draft) (n : Network) : Draft := { d with network := n }

theorem addHeader_withNetwork (value : List Char) (d : Draft) (n : Network) :
    addHeader policy value (withNetwork d n) = withNetwork (addHeader policy value d) n := by
  unfold addHeader
  split
  · dsimp only
    split <;> rfl
  · rfl

theorem addCookies_withNetwork (name value : String) (d : Draft) (n : Network) :
    addCookies name value (withNetwork d n) = withNetwork (addCookies name value d) n := by
  unfold addCookies
  split <;> rfl

theorem addArgument_withNetwork (word : String) (d : Draft) (n : Network) :
    addArgument word (withNetwork d n) = withNetwork (addArgument word d) n := by
  have hurl : (withNetwork d n).url = d.url := rfl
  unfold addArgument
  rw [hurl]
  dsimp only
  split <;> rfl

theorem apply_withNetwork (option : ValueOption) (name value : String) (d : Draft) (n : Network) :
    apply policy option name value (withNetwork d n) =
      withNetwork (apply policy option name value d)
        (setNumber option (some (Text.trim value.toList)) n) := by
  have hurl : (withNetwork d n).url = d.url := rfl
  unfold apply setNumber
  dsimp only [Option.bind_some]
  generalize Argument.real? (Text.trim value.toList) = x
  cases option with
  | request =>
    dsimp only
    split <;> rfl
  | header => exact addHeader_withNetwork _ d n
  | cookie => exact addCookies_withNetwork name value d n
  | url =>
    dsimp only
    rw [hurl]
    split <;> rfl
  | _ => rfl

/-- The numbers after words that give these values. -/
def setNumbers (given : List (ValueOption × String)) (n : Network) : Network :=
  given.foldl (fun n (option, value) => setNumber option (some (Text.trim value.toList)) n) n

theorem given_cons (word : String) (rest : List String) : givenValues (word :: rest) =
    match read word, rest with
    | .option _, [] => []
    | .option o, value :: rest => (o, Word.unquoted value) :: givenValues rest
    | .argument, rest => givenValues rest
    | .switches _, rest => givenValues rest
    | .tls _, rest => givenValues rest
    | .inline o _ value, rest => (o, value) :: givenValues rest
    | .unknown, rest => givenValues rest :=
  givenValues.eq_def (word :: rest)

/-- Words set numbers one after the other, and nothing else that they say depends on them. -/
theorem follow_withNetwork (policy : Repeated) (ws : List String) (d : Draft) (n : Network) :
    follow policy (withNetwork d n) ws =
      withNetwork (follow policy d ws) (setNumbers (givenValues ws) n) := by
  fun_induction follow policy d ws generalizing n with
  | case1 d => rfl
  | case2 d word o hr =>
    rw [follow_cons, given_cons, hr]
    rfl
  | case3 d word o value rest hr ih =>
    rw [follow_option hr, given_cons, hr, apply_withNetwork, ih]
    rfl
  | case4 d word rest hr ih =>
    rw [follow_argument hr, given_cons, hr, addArgument_withNetwork, ih]
  | case5 d word flags rest hr ih =>
    rw [follow_switches hr, given_cons, hr]
    exact ih n
  | case6 d word version rest hr ih =>
    rw [follow_tls hr, given_cons, hr]
    exact ih n
  | case7 d word o name value rest hr ih =>
    rw [follow_inline hr, given_cons, hr, apply_withNetwork, ih]
    rfl
  | case8 d word rest hr ih =>
    rw [follow_unknown hr, given_cons, hr]
    exact ih n

theorem withNetwork_inj {m n : Network} (h : withNetwork d m = withNetwork d n) : m = n :=
  congrArg Draft.network h

/-! A number that is taken away. -/

theorem apply_of_unusable (h : IsUnusable option value) (name : String) (d : Draft) :
    apply policy option name value d = withNetwork d (setNumber option none d.network) := by
  unfold IsUnusable at h
  unfold apply
  cases option with
  | request =>
    simp only [h]
    rfl
  | header =>
    dsimp only at h ⊢
    unfold addHeader
    split
    · rename_i name rest hcut
      simp [h name rest hcut, setNumber, withNetwork]
    · rfl
  | maxTime | connectTimeout | retry | retryDelay | retryMaxTime | maxRedirects =>
    simp only [h]
    rfl
  | _ => exact h.elim

theorem setNumber_none_eq_iff (option : ValueOption) (n : Network) :
    setNumber option none n = n ↔ hasNumber option n = false := by
  obtain ⟨timeout, connectTimeout, maxTime, retry, retryDelay, retryMaxTime, maxRedirects⟩ := n
  cases option <;> simp [setNumber, hasNumber, eq_comm (a := none)]

theorem setNumber_none (option other : ValueOption) (text : Option (List Char)) (n : Network) :
    setNumber other text (setNumber option none n) =
      if other = option then setNumber other text n else
        setNumber option none (setNumber other text n) := by
  cases option <;> cases other <;> rfl

theorem hasNumber_setNumber (h : other ≠ option) (text : Option (List Char)) (n : Network) :
    hasNumber option (setNumber other text n) = hasNumber option n := by
  cases option <;> cases other <;> first | rfl | exact (h rfl).elim

/-- A number that is taken away shows until it is set again. -/
theorem setNumbers_none_eq_iff (option : ValueOption) (given : List (ValueOption × String))
    (n : Network) : setNumbers given (setNumber option none n) = setNumbers given n ↔
      hasNumber option n = false ∨ ∃ value, (option, value) ∈ given := by
  induction given generalizing n with
  | nil =>
    have h := setNumber_none_eq_iff option n
    simpa [setNumbers] using h
  | cons first given ih =>
    obtain ⟨other, value⟩ := first
    have hstep (n : Network) : setNumbers ((other, value) :: given) n =
        setNumbers given (setNumber other (some (Text.trim value.toList)) n) := rfl
    rw [hstep, hstep, setNumber_none]
    by_cases ho : other = option
    · subst ho
      simp
    · have hne : ¬ option = other := fun h => ho h.symm
      rw [if_neg ho, ih, hasNumber_setNumber ho]
      simp [hne]

/-- Between words behind which an option is expected and any others, an option with an unusable
value is not seen exactly where its number was not set before, or is given again afterwards. A
method and a header have no number, so they are never seen. -/
theorem unusable_value_is_unseen_iff (h : ExpectsOption ps)
    (hn : (name, option) ∈ ValueOption.spellings) (hw : Gives name value ws)
    (hu : IsUnusable option (Word.unquoted value)) (qs : List String) :
    interpret o (ps ++ ws ++ qs) = interpret o (ps ++ qs) ↔
      hasNumber option (interpret o ps).network = false ∨
        ∃ given, (option, given) ∈ givenValues qs := by
  have hself := follow_withNetwork o.repeatedHeaders qs (interpret o ps) (interpret o ps).network
  have hsame : withNetwork (interpret o ps) (interpret o ps).network = interpret o ps := rfl
  rw [hsame] at hself
  rw [List.append_assoc, interpret_append h, interpret_append h, follow_gives hn hw,
    apply_of_unusable hu, follow_withNetwork, ← setNumbers_none_eq_iff]
  generalize follow o.repeatedHeaders (interpret o ps) qs = d at hself ⊢
  constructor
  · intro heq
    rw [hself] at heq
    exact withNetwork_inj heq
  · intro heq
    rw [heq, ← hself]

theorem replaced_number_is_unseen : ExpectsOption ["curl", "-m", "5"] ∧
    ("-m", .maxTime) ∈ ValueOption.spellings ∧ Gives "-m" "'x'" ["-m'x'"] ∧
      IsUnusable .maxTime (Word.unquoted "'x'") ∧
      interpret {} (["curl", "-m", "5"] ++ ["-m'x'"] ++ ["-k", "--max-time=7"]) =
        interpret {} (["curl", "-m", "5"] ++ ["-k", "--max-time=7"]) := by
  have hp : ExpectsOption ["curl", "-m", "5"] :=
    ⟨⟨"curl", rfl, by decide +kernel⟩, by decide +kernel⟩
  have hn : ("-m", .maxTime) ∈ ValueOption.spellings := by decide
  have hw : Gives "-m" "'x'" ["-m'x'"] := .joined (by decide) (by decide)
  have hu : IsUnusable .maxTime (Word.unquoted "'x'") :=
    Option.isNone_iff_eq_none.mp (by decide +kernel)
  have hgiven : ∃ given, (.maxTime, given) ∈ givenValues ["-k", "--max-time=7"] :=
    ⟨"7", by decide +kernel⟩
  exact ⟨hp, hn, hw, hu, (unusable_value_is_unseen_iff hp hn hw hu _).mpr (.inr hgiven)⟩

/-- The number that was accepted before is gone. -/
theorem accepted_number_is_taken_away : ExpectsOption ["curl", "-m", "5"] ∧
    Argument.real? (Text.trim (Word.unquoted "x").toList) = none ∧
      interpret {} (["curl", "-m", "5"] ++ ["-m", "x"]) ≠ interpret {} ["curl", "-m", "5"] := by
  have hp : ExpectsOption ["curl", "-m", "5"] :=
    ⟨⟨"curl", rfl, by decide +kernel⟩, by decide +kernel⟩
  refine ⟨hp, Option.isNone_iff_eq_none.mp (by decide +kernel), fun h => ?_⟩
  have hset : (interpret {} ["curl", "-m", "5"]).network.maxTime.isSome = true := by decide +kernel
  rw [← h] at hset
  exact absurd hset (by decide +kernel)

end CurlScribe.Command
