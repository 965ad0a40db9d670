import UrlRewrite.Condition
import UrlRewrite.Effect
import UrlRewrite.Query

/-!
# Rules

A rule whose pattern matches the path, and whose conditions hold, replaces the path by its
substitution and has the effects of its flags. The pattern is tested first, so that conditions can
refer to its groups; if the conditions then fail, the groups of the rule are put back to what they
were.

A query in the substitution is split off at its first question mark and reconciled with the query of
the request (`Rule.reconcile`). The path of a redirect is escaped, unless the rule says otherwise.
-/

namespace UrlRewrite

/-- A rewriting rule. Without a substitution it leaves the path as it is. -/
structure Rule where
  pattern : Pattern
  substitution : Option Template
  flags : FlagSet RuleFlag
  /-- The value of the variable that the rule sets. -/
  envValue : Option Template
deriving DecidableEq

/-- What has become of a path. -/
structure RuleOutcome where
  path : Text
  matched : Bool
  effects : List Effect
deriving DecidableEq, Repr

namespace Rule

/-- The text of the value that a flag sets a variable to. -/
def envValueText? (flags : FlagSet RuleFlag) : Option Text :=
  match flags.find? RuleFlag.Kind.env with
  | some (.env (.set _ value)) => value
  | _ => none

/-- Reads a substitution; a hyphen stands for none. -/
def readSubstitution (s : Text) : Except ConfigError (Option Template) :=
  if s = "-".toList then .ok none
  else ((Template.read s).mapError (.template .rewriteRule)).map some

/-- Reads the value that a flag sets a variable to. -/
def readEnvValue (flags : FlagSet RuleFlag) : Except ConfigError (Option Template) :=
  match envValueText? flags with
  | none => .ok none
  | some value => ((Template.read value).mapError (.template .rewriteRule)).map some

/-- The rule with these fields. -/
def build (pattern substitution flags : Text) : Except ConfigError Rule := do
  let pattern ← (Pattern.readRegex pattern).mapError (.pattern .rewriteRule)
  let substitution ← readSubstitution substitution
  let flags ← (FlagSet.read (F := RuleFlag) flags).mapError (.flag .rewriteRule)
  let envValue ← readEnvValue flags
  .ok { pattern, substitution, flags, envValue }

def has (r : Rule) (k : RuleFlag.Kind) : Bool := r.flags.contains k

/-- Whether the rule is chained to the one that follows it. -/
def isChained (r : Rule) : Bool := r.has .chain

/-- The query after the rule: what the substitution brings replaces the query at hand, or comes in
front of it, and the query at hand may be discarded before. -/
def reconcile (r : Rule) (brought : Option Text) (atHand : Text) : Text :=
  let kept := if r.has .discardQuery then [] else atHand
  match brought with
  | none => kept
  | some query => if r.has .appendQuery then appendQuery query kept else query

/-- The path and the query that the substitution gives. -/
def target (r : Rule) (path : Text) (b : Bindings) : Text × Option Text :=
  match r.substitution with
  | none => (path, none)
  | some t =>
    let text := t.render b (r.has .escapeGroups)
    match text.splitFirst '?' with
    | some (path, query) => (path, some query)
    | none => (text, none)

/-- Whether an effect is a redirect. -/
def isRedirect : Effect → Bool
  | .redirect _ => true
  | _ => false

/-- The bindings after an effect, which changes a variable or nothing. -/
def applyEffect (r : Rule) (b : Bindings) : Effect → Bindings
  | .setEnv name _ => b.set (.env name) ((r.envValue.map fun t => t.render b false).getD [])
  | .unsetEnv name => b.unset (.env name)
  | _ => b

/-- The bindings with the query that the rule makes of the one at hand. -/
def requery (r : Rule) (path : Text) (b : Bindings) : Bindings :=
  b.setServer .queryString (r.reconcile (r.target path b).2 ((b.server? .queryString).getD []))

/-- Rewrites a path that the rule has matched. -/
def rewrite (r : Rule) (path : Text) (effects : List Effect) (b : Bindings) :
    RuleOutcome × Bindings :=
  let target := (r.target path b).1
  -- only what goes into a header is escaped
  let target :=
    if effects.any isRedirect && !r.has .noEscape then Text.escapeRedirect target else target
  (⟨target, true, effects⟩, effects.foldl r.applyEffect (r.requery path b))

/-- Whether the pattern matches a path and the conditions hold, and the bindings after this. -/
def test (r : Rule) (conditions : List Condition) (path : Text) (b : Bindings) :
    Except EvalError Bool × Bindings :=
  match r.pattern.test (r.has .ignoreCase) .rule path b with
  | .error e => (.error e, b)
  | .ok (false, b) => (.ok false, b)
  | .ok (true, matched) =>
    -- the groups of a rule that is not applied are not seen by later rules
    match Condition.chain conditions matched with
    | (.ok false, b') => (.ok false, b'.restore .rule (b.groups .rule))
    | (result, b') => (result, b')

/-- Applies the rule to a path, guarded by conditions. -/
def apply (r : Rule) (conditions : List Condition) (path : Text) (b : Bindings) :
    Except EvalError RuleOutcome × Bindings :=
  match r.test conditions path b with
  | (.error e, b') => (.error e, b')
  | (.ok false, b') => (.ok ⟨path, false, []⟩, b')
  | (.ok true, b') =>
    match r.flags.effects with
    | .error e => (.error e, b')
    | .ok effects =>
      let (outcome, b') := r.rewrite path effects b'
      (.ok outcome, b')

/-- A rule that matches has passed its test, and rewrites the path with the effects of its flags. -/
theorem apply_matched {r : Rule} {conditions : List Condition} {path : Text} {b b' : Bindings}
    {o : RuleOutcome} (h : r.apply conditions path b = (.ok o, b')) (hm : o.matched = true) :
    ∃ b₁, r.test conditions path b = (.ok true, b₁) ∧ r.flags.effects = .ok o.effects ∧
      r.rewrite path o.effects b₁ = (o, b') := by
  simp only [apply] at h
  split at h
  · simp at h
  · -- the test has failed, which is no match
    simp only [Prod.mk.injEq, Except.ok.injEq] at h
    obtain ⟨rfl, -⟩ := h
    simp at hm
  · rename_i b₁ htest
    split at h
    · simp at h
    · rename_i effects heffects
      simp only [Prod.mk.injEq, Except.ok.injEq] at h
      obtain ⟨rfl, rfl⟩ := h
      exact ⟨b₁, htest, heffects, rfl⟩

/-- A rule that does not match has failed its test, and leaves the path as it is. -/
theorem apply_missed {r : Rule} {conditions : List Condition} {path : Text} {b b' : Bindings}
    {o : RuleOutcome} (h : r.apply conditions path b = (.ok o, b')) (hm : o.matched = false) :
    r.test conditions path b = (.ok false, b') ∧ o = ⟨path, false, []⟩ := by
  simp only [apply] at h
  split at h
  · simp at h
  · rename_i b₁ htest
    simp only [Prod.mk.injEq, Except.ok.injEq] at h
    obtain ⟨rfl, rfl⟩ := h
    exact ⟨htest, rfl⟩
  · split at h
    · simp at h
    · simp only [Prod.mk.injEq, Except.ok.injEq] at h
      obtain ⟨rfl, -⟩ := h
      simp [rewrite] at hm

/-- The test of a rule fails only by a text that is no integer. -/
theorem eq_notAnInteger_of_test {r : Rule} {conditions : List Condition} {path : Text}
    {b : Bindings} {e : EvalError} (h : (r.test conditions path b).1 = .error e) :
    ∃ value cause, e = .notAnInteger value cause := by
  simp only [test] at h
  split at h
  · rename_i htest
    obtain ⟨cause, rfl⟩ := Pattern.eq_notAnInteger_of_test htest
    exact ⟨_, cause, (Except.error.inj h).symm⟩
  · simp at h
  · split at h
    · simp at h
    · rename_i hchain
      exact Condition.eq_notAnInteger_of_chain (hchain ▸ h)

/-- A rule fails only by a text that is no integer, or by a redirect with an unknown name. -/
theorem error_of_apply {r : Rule} {conditions : List Condition} {path : Text} {b : Bindings}
    {e : EvalError} (h : (r.apply conditions path b).1 = .error e) :
    (∃ value cause, e = .notAnInteger value cause) ∨ ∃ name, e = .unknownRedirect name := by
  simp only [apply] at h
  split at h
  · rename_i htest
    obtain rfl := Except.error.inj h
    exact Or.inl (eq_notAnInteger_of_test (congrArg Prod.fst htest))
  · simp at h
  · split at h
    · rename_i heffects
      obtain ⟨name, rfl⟩ := FlagSet.eq_unknownRedirect_of_effects heffects
      exact Or.inr ⟨name, (Except.error.inj h).symm⟩
    · simp at h

end Rule

end UrlRewrite
