import CurlScribe.Proofs.Command.Parse
import CurlScribe.Proofs.Word.Unclosed

/-! Commands that are refused because of a quote. -/
namespace CurlScribe.Command

/-- A command is refused where quotes must be closed and one is left open. The place is counted from
the first character that is not blank, so it is the quote's own place in the command exactly where
no blank starts the command. -/
theorem unterminated_quote_iff (o : CommandOptions) (c : String) (mark : Char) (position : Nat) :
    (parse o c = .error (.unterminatedQuote mark position) ↔ o.quoting.strict = true ∧
      Word.IsLeftOpen o.quoting.single c.toList ⟨mark, Word.indent c.toList + position⟩) ∧
    (parse o c = .error (.unterminatedQuote mark position) →
      (Text.bytes c.toList)[Word.indent c.toList + position]? = some mark.toNat ∧
        (Word.IsLeftOpen o.quoting.single c.toList ⟨mark, position⟩ ↔
          Text.trimStart c.toList = c.toList)) := by
  have hiff : parse o c = .error (.unterminatedQuote mark position) ↔ o.quoting.strict = true ∧
      Word.IsLeftOpen o.quoting.single c.toList ⟨mark, Word.indent c.toList + position⟩ := by
    rw [parse_eq_unterminatedQuote_iff, Word.split_eq_some_iff, Word.isLeftOpen_trim_iff]
  refine ⟨hiff, fun h => ?_⟩
  obtain ⟨-, hopen⟩ := hiff.mp h
  refine ⟨hopen.byte, fun hplace => ?_, fun htrim => ?_⟩
  · have hsame := congrArg Word.OpenQuote.position (hplace.unique hopen)
    have hindent : Word.indent c.toList = 0 := by
      simp only at hsame
      omega
    exact Word.indent_eq_zero_iff.mp hindent
  · rwa [Word.indent_eq_zero_iff.mpr htrim, Nat.zero_add] at hopen

/-- Quotes as they are, and a quote that stays open refused. -/
def strict : CommandOptions := { quoting := { strict := true } }

theorem unindented_is_refused_in_place :
    parse strict "curl \u00e9\\\r\n\"b" = .error (.unterminatedQuote '"' 10) ∧
      Word.IsLeftOpen false "curl \u00e9\\\r\n\"b".toList ⟨'"', 10⟩ := by
  have hrefused : parse strict "curl \u00e9\\\r\n\"b" = .error (.unterminatedQuote '"' 10) :=
    parse_eq_unterminatedQuote_iff.mpr ⟨rfl, by decide +kernel⟩
  have hplain : Text.trimStart "curl \u00e9\\\r\n\"b".toList = "curl \u00e9\\\r\n\"b".toList := by
    decide +kernel
  exact ⟨hrefused, ((unterminated_quote_iff strict _ '"' 10).2 hrefused).2.mpr hplain⟩

/-- One blank in front, and the byte that is named is the one before the quote. -/
theorem indented_is_refused_elsewhere :
    parse strict " curl \"http://[::1]/" = .error (.unterminatedQuote '"' 5) ∧
      (Text.bytes " curl \"http://[::1]/".toList)[5]? ≠ some '"'.toNat :=
  ⟨parse_eq_unterminatedQuote_iff.mpr ⟨rfl, by decide +kernel⟩, by decide +kernel⟩

end CurlScribe.Command
