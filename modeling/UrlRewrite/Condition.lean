import UrlRewrite.Chain
import UrlRewrite.Config.Error
import UrlRewrite.Flag.Condition

/-!
# Conditions

A condition renders a template and tests the text with a pattern. Conditions in front of a rule
decide as a chain whether it is applied.
-/

namespace UrlRewrite

/-- A condition in front of a rule. -/
structure Condition where
  subject : Template
  pattern : Pattern
  flags : FlagSet ConditionFlag
deriving DecidableEq

namespace Condition

/-- The condition with these fields. -/
def build (subject pattern flags : Text) : Except ConfigError Condition := do
  let subject ← (Template.read subject).mapError (.template .rewriteCond)
  let pattern ← (Pattern.read pattern).mapError (.pattern .rewriteCond)
  let flags ← (FlagSet.read flags).mapError (.flag .rewriteCond)
  .ok { subject, pattern, flags }

/-- Whether the condition alternates with the one that follows it. -/
def orNext (c : Condition) : Bool := c.flags.contains ConditionFlag.orNext

/-- Whether the condition holds, and the bindings after its evaluation. -/
def evaluate (c : Condition) (b : Bindings) : Except EvalError Bool × Bindings :=
  match c.pattern.test (c.flags.contains ConditionFlag.ignoreCase) .condition
      (c.subject.render b false) b with
  | .ok (holds, b) => (.ok holds, b)
  | .error e => (.error e, b)

/-- Whether the conditions hold as a chain, and the bindings after their evaluation. -/
def chain (conditions : List Condition) (b : Bindings) : Except EvalError Bool × Bindings :=
  Chain.holds evaluate orNext conditions b

/-- Conditions fail only by a text that is no integer. -/
theorem eq_notAnInteger_of_chain {conditions : List Condition} {b : Bindings} {e : EvalError}
    (h : (chain conditions b).1 = .error e) : ∃ value cause, e = .notAnInteger value cause := by
  obtain ⟨c, -, b', hc⟩ := Chain.exists_error_of_holds h
  simp only [evaluate] at hc
  split at hc
  · simp at hc
  · rename_i htest
    obtain ⟨cause, rfl⟩ := Pattern.eq_notAnInteger_of_test htest
    exact ⟨_, cause, (Except.error.inj hc).symm⟩

end Condition

end UrlRewrite
