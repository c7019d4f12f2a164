import CurlScribe.Proofs.Command.Method

/-! The address among the words of a command line. -/
namespace CurlScribe.Command

variable {o : CommandOptions} {e : EmitOptions} {policy : Repeated} {r : Request} {d : Draft}
  {word : String} {words : List String} {a : String}

def isHttp (text : String) : Bool := "http".toList.isPrefixOf text.toList

/-- The address that words give: the value of an option for it, or an argument that looks like one,
whichever comes first. -/
def foundAddress : List String → Option String
  | [] => none
  | word :: rest =>
    match read word, rest with
    | .option _, [] => none
    | .option o, value :: rest =>
      if o = .url then some (Word.unquoted value) else foundAddress rest
    | .argument, rest =>
      if isHttp (Word.unquoted word) then some (Word.unquoted word) else foundAddress rest
    | .inline o _ value, rest => if o = .url then some value else foundAddress rest
    | .switches _, rest => foundAddress rest
    | .tls _, rest => foundAddress rest
    | .unknown, rest => foundAddress rest

theorem found_option {o : ValueOption} (h : read word = .option o) (value : String)
    (rest : List String) : foundAddress (word :: value :: rest) =
      if o = .url then some (Word.unquoted value) else foundAddress rest := by
  rw [foundAddress.eq_def]
  simp only [h]

theorem found_last {o : ValueOption} (h : read word = .option o) : foundAddress [word] = none := by
  rw [foundAddress.eq_def]
  simp only [h]

theorem found_argument (h : read word = .argument) (rest : List String) :
    foundAddress (word :: rest) =
      if isHttp (Word.unquoted word) then some (Word.unquoted word) else foundAddress rest := by
  rw [foundAddress.eq_def]
  simp only [h]

theorem found_inline {o : ValueOption} {name value : String} (h : read word = .inline o name value)
    (rest : List String) : foundAddress (word :: rest) =
      if o = .url then some value else foundAddress rest := by
  rw [foundAddress.eq_def]
  simp only [h]

theorem found_switches {flags : List String} (h : read word = .switches flags)
    (rest : List String) : foundAddress (word :: rest) = foundAddress rest := by
  rw [foundAddress.eq_def]
  simp only [h]

theorem found_tls {version : String} (h : read word = .tls version) (rest : List String) :
    foundAddress (word :: rest) = foundAddress rest := by
  rw [foundAddress.eq_def]
  simp only [h]

theorem found_unknown (h : read word = .unknown) (rest : List String) :
    foundAddress (word :: rest) = foundAddress rest := by
  rw [foundAddress.eq_def]
  simp only [h]

theorem url_addCookies (name value : String) (d : Draft) :
    (addCookies name value d).url = d.url := by
  unfold addCookies
  split <;> rfl

theorem url_addHeader (value : List Char) (d : Draft) : (addHeader policy value d).url = d.url := by
  unfold addHeader
  split
  · dsimp only
    split <;> rfl
  · rfl

theorem url_apply (o : ValueOption) (name value : String) (d : Draft) :
    (apply policy o name value d).url = if o = .url then d.url.or (some value) else d.url := by
  unfold apply
  dsimp only
  generalize Argument.real? (Text.trim value.toList) = x
  cases o with
  | request =>
    dsimp only
    split <;> rfl
  | header => exact url_addHeader _ d
  | cookie => exact url_addCookies _ _ d
  | url => cases hu : d.url <;> simp [keep, hu]
  | _ => rfl

theorem addArgument_eq (word : String) (d : Draft) :
    addArgument word d =
      if isHttp (Word.unquoted word) && d.url.isNone then
        { d with url := some (Word.unquoted word) }
      else keep [word] d := by
  have h : (Word.unquoted word).toList = Word.unquote word.toList := String.toList_ofList
  unfold addArgument isHttp
  rw [h]
  rfl

theorem url_addArgument (word : String) (d : Draft) :
    (addArgument word d).url =
      if isHttp (Word.unquoted word) then d.url.or (some (Word.unquoted word)) else d.url := by
  rw [addArgument_eq]
  cases hp : isHttp (Word.unquoted word) <;> cases hu : d.url <;> simp [keep, hu]

/-- The first address is the one that counts. -/
theorem url_follow (words : List String) (d : Draft) :
    (follow policy d words).url = d.url.or (foundAddress words) := by
  fun_induction follow policy d words with
  | case1 d => exact (Option.or_none).symm
  | case2 d word o h =>
    rw [found_last h, Option.or_none]
  | case3 d word o value rest h ih =>
    rw [ih, url_apply, found_option h]
    split <;> simp
  | case4 d word rest h ih =>
    rw [ih, url_addArgument, found_argument h]
    split <;> simp
  | case5 d word flags rest h ih =>
    rw [ih, found_switches h]
    rfl
  | case6 d word version rest h ih => rw [ih, found_tls h]
  | case7 d word o name value rest h ih =>
    rw [ih, url_apply, found_inline h]
    split <;> simp
  | case8 d word rest h ih =>
    rw [ih, found_unknown h]
    rfl

end CurlScribe.Command
