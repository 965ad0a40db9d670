import UrlRewrite.Config.Directive
import UrlRewrite.Run.Outcome

/-!
# Runs of a rule set

A rule set is run as a machine. Its state (`Run`) knows the next rule, how often the run has been
restarted, the path, the bindings, and what the rules so far have left. `Run.step` applies one rule;
what the rule does decides how the run goes on:

* a rule that does not match is passed over, with the rules that it is chained to;
* of the ways to end a run, a status goes before a redirect, that before a proxy, that before an
  end, and that before a last rule;
* a rule that restarts the run may do so only as often as its bound allows;
* otherwise the run goes on behind the rules that are to be skipped.

What a rule has done to a run is a `Run.Move`, which says it by the flags of the rule. Between two
restarts the next rule only moves forward, and there are at most as many restarts as the greatest
bound says; so every move leaves fewer rules to be applied (`Run.Move.remaining_lt`), and
`Run.finish` ends every run.
-/

namespace UrlRewrite

/-- A rule with the conditions that guard it. -/
structure GuardedRule where
  conditions : List Condition
  rule : Rule
deriving DecidableEq

namespace GuardedRule

/-- The rules among directives, each with the conditions since the rule before it; `pending` are
those already read. Conditions behind the last rule guard nothing. -/
def groupFrom (pending : List Condition) : List Directive → List GuardedRule
  | [] => []
  | .condition c :: ds => groupFrom (pending ++ [c]) ds
  | .rule r :: ds => ⟨pending, r⟩ :: groupFrom [] ds
  | _ :: ds => groupFrom pending ds

/-- The rules among directives, with their conditions. -/
def group (directives : List Directive) : List GuardedRule := groupFrom [] directives

end GuardedRule

/-- The state of a run in front of a rule. -/
structure Run where
  /-- The position of the rule to be applied next. -/
  index : Nat
  /-- How often the run has been restarted. -/
  restarts : Nat
  path : Text
  bindings : Bindings
  extras : Extras
deriving DecidableEq

namespace Run

/-- What has become of a run. -/
inductive Progress where
  | running (r : Run)
  | ended (outcome : Outcome) (b : Bindings)
  | failed (e : EvalError) (b : Bindings)
deriving DecidableEq

/-- The position behind a rule that did not match: behind the last of the rules it is chained to. -/
def afterMiss (rules : List GuardedRule) (index : Nat) : Nat :=
  index + 1 + ((rules.drop index).takeWhile fun g => g.rule.isChained).length.min
    (rules.length - (index + 1))

/-- The URI made of a path and the query at hand. -/
def uriOf (path : Text) (b : Bindings) : Text := joinQuery path ((b.server? .queryString).getD [])

/-- How a run goes on behind a rule that has matched. -/
def afterMatch (bound : Nat) (r : Run) (outcome : RuleOutcome) (b : Bindings) : Progress :=
  let control := Control.ofEffects outcome.effects
  let extras := outcome.effects.foldl Extras.add r.extras
  match control.rewrite? (uriOf outcome.path b) with
  | some rewrite => .ended ⟨rewrite, extras⟩ b
  | none =>
    -- a restart goes before rules to skip; the restart to come is counted against the bound
    match control.next with
    | some most =>
      if most.getD bound < r.restarts + 1 then .failed .tooManyIterations b
      else .running ⟨0, r.restarts + 1, outcome.path, b, extras⟩
    | none => .running ⟨r.index + 1 + control.skip, r.restarts, outcome.path, b, extras⟩

/-- Applies the next rule; behind the last one the run ends. -/
def step (rules : List GuardedRule) (bound : Nat) (r : Run) : Progress :=
  match rules[r.index]? with
  | none => .ended ⟨.uri (uriOf r.path r.bindings), r.extras⟩ r.bindings
  | some g =>
    match g.rule.apply g.conditions r.path r.bindings with
    | (.error e, b) => .failed e b
    | (.ok outcome, b) =>
      if outcome.matched then r.afterMatch bound outcome b
      else .running { r with index := afterMiss rules r.index, bindings := b }

/-- What becomes of a run by the application of a rule, as far as the flags of the rule decide
it. -/
inductive Move (rules : List GuardedRule) (bound : Nat) (r : Run) (g : GuardedRule) :
      Progress → Prop where
  | failed {e : EvalError} {b : Bindings}
      (happly : g.rule.apply g.conditions r.path r.bindings = (.error e, b)) :
      Move rules bound r g (.failed e b)
  | missed {o : RuleOutcome} {b : Bindings}
      (happly : g.rule.apply g.conditions r.path r.bindings = (.ok o, b))
      (hmissed : o.matched = false) :
      Move rules bound r g (.running { r with index := afterMiss rules r.index, bindings := b })
  | ended {o : RuleOutcome} {b : Bindings} {rewrite : Rewrite}
      (happly : g.rule.apply g.conditions r.path r.bindings = (.ok o, b))
      (hmatched : o.matched = true)
      (hrewrite : g.rule.flags.control.rewrite? (uriOf o.path b) = some rewrite) :
      Move rules bound r g (.ended ⟨rewrite, o.effects.foldl Extras.add r.extras⟩ b)
  | overrun {o : RuleOutcome} {b : Bindings} {most : Option Nat}
      (happly : g.rule.apply g.conditions r.path r.bindings = (.ok o, b))
      (hmatched : o.matched = true)
      (hrewrite : g.rule.flags.control.rewrite? (uriOf o.path b) = none)
      (hnext : g.rule.flags.next? = some most) (hbound : most.getD bound ≤ r.restarts) :
      Move rules bound r g (.failed .tooManyIterations b)
  | restarted {o : RuleOutcome} {b : Bindings} {most : Option Nat}
      (happly : g.rule.apply g.conditions r.path r.bindings = (.ok o, b))
      (hmatched : o.matched = true)
      (hrewrite : g.rule.flags.control.rewrite? (uriOf o.path b) = none)
      (hnext : g.rule.flags.next? = some most) (hbound : r.restarts < most.getD bound) :
      Move rules bound r g
        (.running ⟨0, r.restarts + 1, o.path, b, o.effects.foldl Extras.add r.extras⟩)
  | advanced {o : RuleOutcome} {b : Bindings}
      (happly : g.rule.apply g.conditions r.path r.bindings = (.ok o, b))
      (hmatched : o.matched = true)
      (hrewrite : g.rule.flags.control.rewrite? (uriOf o.path b) = none)
      (hnext : g.rule.flags.next? = none) :
      Move rules bound r g
        (.running ⟨r.index + 1 + g.rule.flags.skip, r.restarts, o.path, b,
          o.effects.foldl Extras.add r.extras⟩)

/-- Every step in front of a rule is a move. -/
theorem move_step {rules : List GuardedRule} (bound : Nat) {r : Run} {g : GuardedRule}
    (hg : rules[r.index]? = some g) : Move rules bound r g (step rules bound r) := by
  simp only [step, hg]
  -- the cases are those of `step` and `afterMatch`, with the effects read off the flags
  split
  · rename_i e b happly
    exact .failed happly
  · rename_i o b happly
    split
    · rename_i hm
      obtain ⟨-, -, heffects, -⟩ := Rule.apply_matched happly hm
      simp only [afterMatch, FlagSet.ofEffects_eq_control heffects]
      split
      · rename_i rewrite hrewrite
        exact .ended happly hm hrewrite
      · rename_i hrewrite
        split
        · rename_i most hnext
          split
          · rename_i hbound
            exact .overrun happly hm hrewrite hnext (by omega)
          · rename_i hbound
            exact .restarted happly hm hrewrite hnext (by omega)
        · rename_i hnext
          exact .advanced happly hm hrewrite hnext
    · rename_i hm
      exact .missed happly (by simpa using hm)

/-- The bound of a rule on restarts, if it has one of its own. -/
def ownBound? (g : GuardedRule) : Option Nat := g.rule.flags.next?.join

/-- The greatest bound on restarts. -/
def greatestBound (rules : List GuardedRule) (bound : Nat) : Nat :=
  (rules.filterMap ownBound?).foldl max bound

theorem le_foldl_max (bounds : List Nat) (n : Nat) :
    n ≤ bounds.foldl max n ∧ ∀ m ∈ bounds, m ≤ bounds.foldl max n := by
  induction bounds generalizing n with
  | nil => simp
  | cons k bounds ih =>
    obtain ⟨hn, hall⟩ := ih (max n k)
    rw [List.foldl_cons]
    refine ⟨by omega, fun m hm => ?_⟩
    rcases List.mem_cons.1 hm with rfl | hm
    · omega
    · exact hall m hm

/-- No rule has a greater bound than the greatest one. -/
theorem getD_le_greatestBound {rules : List GuardedRule} {g : GuardedRule}
    (hg : g ∈ rules) (bound : Nat) {most : Option Nat} (hnext : g.rule.flags.next? = some most) :
    most.getD bound ≤ greatestBound rules bound := by
  obtain ⟨hbound, hall⟩ := le_foldl_max (rules.filterMap ownBound?) bound
  cases most with
  | none => exact hbound
  | some n => exact hall n (List.mem_filterMap.2 ⟨g, hg, by simp [ownBound?, hnext]⟩)

/-- How many more rules a run can be applied to at most: those of the restarts that are left, and
those from the next rule on. -/
def remaining (rules : List GuardedRule) (bound : Nat) (r : Run) : Nat :=
  (greatestBound rules bound - r.restarts) * rules.length + (rules.length - r.index)

/-- A run goes on behind a rule that misses. -/
theorem lt_afterMiss (rules : List GuardedRule) (index : Nat) : index < afterMiss rules index := by
  simp only [afterMiss]
  omega

/-- The application of a rule leaves fewer of them. -/
theorem Move.remaining_lt {rules : List GuardedRule} {bound : Nat} {r r' : Run} {g : GuardedRule}
    (hg : rules[r.index]? = some g) (h : Move rules bound r g (.running r')) :
    remaining rules bound r' < remaining rules bound r := by
  obtain ⟨hlt, -⟩ := List.getElem?_eq_some_iff.1 hg
  cases h with
  | missed happly hmissed =>
    have := lt_afterMiss rules r.index
    simp only [remaining]
    omega
  | restarted happly hmatched hrewrite hnext hbound =>
    -- a restart spends one pass over all rules, and what was left of this one
    have hle := getD_le_greatestBound (List.mem_of_getElem? hg) bound hnext
    obtain ⟨left, hleft⟩ : ∃ left, greatestBound rules bound - r.restarts = left + 1 :=
      ⟨greatestBound rules bound - r.restarts - 1, by omega⟩
    have hleft' : greatestBound rules bound - (r.restarts + 1) = left := by omega
    simp only [remaining, hleft, hleft', Nat.add_mul]
    omega
  | advanced happly hmatched hrewrite hnext =>
    simp only [remaining]
    omega

/-- Every step of a run lowers the measure. -/
theorem remaining_lt_of_step {rules : List GuardedRule} {bound : Nat} {r r' : Run}
    (h : step rules bound r = .running r') :
    remaining rules bound r' < remaining rules bound r := by
  cases hg : rules[r.index]? with
  | none => simp [step, hg] at h
  | some g =>
    have hmove := move_step bound hg
    rw [h] at hmove
    exact hmove.remaining_lt hg

/-- Steps until the run has ended. -/
def finish (rules : List GuardedRule) (bound : Nat) (r : Run) :
    Except EvalError Outcome × Bindings :=
  match _hstep : step rules bound r with
  | .running r' => finish rules bound r'
  | .ended outcome b => (.ok outcome, b)
  | .failed e b => (.error e, b)
termination_by remaining rules bound r
decreasing_by exact remaining_lt_of_step _hstep

/-- The beginning of a run. -/
def start (path : Text) (b : Bindings) : Run := ⟨0, 0, path, b, {}⟩

/-- Runs a rule set on a path. -/
def all (rules : List GuardedRule) (bound : Nat) (path : Text) (b : Bindings) :
    Except EvalError Outcome × Bindings :=
  finish rules bound (start path b)

end Run

end UrlRewrite
