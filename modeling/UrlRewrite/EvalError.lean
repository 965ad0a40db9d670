import UrlRewrite.Text.Decimal
import UrlRewrite.Text.Quoted

/-!
# Errors of an evaluation

What can go wrong while a request is worked on, although the configuration has been read without
error.
-/

namespace UrlRewrite

/-- Why a request has no outcome. -/
inductive EvalError where
  | notAnInteger (value : Text) (cause : DecimalError)
  | tooManyIterations
  | unknownRedirect (name : Text)
deriving DecidableEq, Repr

namespace EvalError

def message : EvalError → String
  | notAnInteger value _ =>
    "Integer comparison against non-numeric value " ++ Text.quoted value
  | tooManyIterations => "Too many iterations on rule processing. Infinite loop"
  | unknownRedirect name => "Unknown redirect status name " ++ Text.quoted name

end EvalError

end UrlRewrite
