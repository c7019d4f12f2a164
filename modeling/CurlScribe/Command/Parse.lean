import CurlScribe.Command.Interpret
import CurlScribe.Request.Normalize

/-! From a command line to a request. -/
namespace CurlScribe.Command

/-- The request of a command line. Places of quotes are counted from its first character that is
not blank. -/
def parse (options : CommandOptions) (command : String) : Except RequestError Request :=
  let line := Text.trimmed command
  if line = "" then .error .emptyInput
  else
    match Word.ofLine options.quoting line with
    | .error q => .error (.unterminatedQuote q.mark q.position)
    | .ok words => (interpret options words).normalize

end CurlScribe.Command
