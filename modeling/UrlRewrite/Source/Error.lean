import UrlRewrite.Text.Quoted
import UrlRewrite.Text.Decimal

/-!
# Errors of sources

Why the texts of a configuration cannot be put together.
-/

namespace UrlRewrite

/-- How deep includes may be nested. -/
def maxIncludeDepth : Nat := 16

/-- Why the texts of a configuration cannot be put together. -/
inductive SourceError where
  | danglingContinuation
  | missingInclude (path : Text)
  | includeDepth (limit : Nat)
deriving DecidableEq, Repr

namespace SourceError

def message : SourceError → String
  | danglingContinuation => "Ended on a continued line"
  | missingInclude path => "Included file " ++ Text.quoted path ++ " could not be found"
  | includeDepth limit =>
    "Includes nested deeper than " ++ String.ofList (Text.ofNat limit) ++ " levels"

end SourceError

end UrlRewrite
