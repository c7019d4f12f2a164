/-! Why a JSON value does not read as what is wanted. -/
namespace CurlScribe

/-- A wrong shape, or a text of the right shape that names nothing known. -/
inductive Misfit where
  | shape
  | unknownMethod (text : String)
  | unsupportedJava (text : String)
deriving DecidableEq

namespace Misfit

/-- The reason in words, where the value has the right shape. -/
def reason? : Misfit → Option String
  | shape => none
  | unknownMethod text => some ("unknown HTTP method '" ++ text ++ "'")
  | unsupportedJava text =>
    some ("unsupported javaVersion '" ++ text ++ "', expected 8, 11, 17 or 21")

end Misfit

end CurlScribe
