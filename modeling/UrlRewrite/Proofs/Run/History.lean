import UrlRewrite.Site

/-!
# Histories of runs

A run applies rules one after the other. Its **history** lists these applications, each with the
state of the run in front of the rule, so that everything the run has done can be read off it:

* `Run.history` is the history from a state on, and `Scope.history` that of a whole request;
* `Run.Trace` relates a state, the history from there on, and the result of the run. It has one rule
  for running out of rules, two for the last application, and one for any other application;
* `Run.trace_finish` says that history and result of every run are related like that.

What holds of all runs is proven by induction on `Run.Trace`. Two such facts are in this module: the
applications from any point on are the history of the run from there (`Run.Trace.suffix`), and what
each application preserves of the bindings holds all along the run (`Run.Trace.bindings`).

An application has **ended** the run if one of its effects ends runs (`Application.ends`). An
application that **asks for a restart** (`Application.asksRestart`) has matched, has not ended the
run, and carries a flag to restart it.
-/

namespace UrlRewrite

/-! ### Applications -/

/-- Whether an effect ends the run: a status, a redirect, a proxy, an end, or the mark of a last
rule. -/
def Effect.isEnding : Effect → Bool
  | .status _ => true
  | .redirect _ => true
  | .proxy => true
  | .endRun => true
  | .last => true
  | _ => false

/-- The application of a rule in the course of a run. -/
structure Application where
  /-- The state of the run in front of the rule. -/
  before : Run
  guarded : GuardedRule

namespace Application

variable (a : Application)

/-- The position of the rule. -/
def index : Nat := a.before.index

def rule : Rule := a.guarded.rule

/-- What the rule makes of the path, and the bindings after this. -/
def result : Except EvalError RuleOutcome × Bindings :=
  a.rule.apply a.guarded.conditions a.before.path a.before.bindings

/-- The bindings after the application. -/
def after : Bindings := a.result.2

/-- The path after the application. -/
def path : Text :=
  match a.result.1 with
  | .ok o => o.path
  | .error _ => a.before.path

/-- Whether the rule has matched. -/
def matched : Bool :=
  match a.result.1 with
  | .ok o => o.matched
  | .error _ => false

/-- Whether the rule has been tested, and has not matched. -/
def missed : Bool :=
  match a.result.1 with
  | .ok o => !o.matched
  | .error _ => false

/-- The effects that the rule has had. -/
def effects : List Effect :=
  match a.result.1 with
  | .ok o => o.effects
  | .error _ => []

/-- Whether an effect of the rule has ended the run. -/
def ends : Bool := a.effects.any Effect.isEnding

/-- Whether the rule has matched and asks for a restart of a run that it has not ended. -/
def asksRestart : Bool := a.matched && !a.ends && a.rule.has .next

/-- How many restarts may have been made for the rule to restart the run: its own bound, or else
that of the run. -/
def restartBound (bound : Nat) : Nat := (Run.ownBound? a.guarded).getD bound

/-! What an application is, read off what the rule makes of the path. -/

section Result

variable {r : Run} {g : GuardedRule} {o : RuleOutcome} {b : Bindings}
  (happly : g.rule.apply g.conditions r.path r.bindings = (.ok o, b))

include happly

theorem result_of_apply : (⟨r, g⟩ : Application).result = (.ok o, b) := happly

theorem path_of_apply : (⟨r, g⟩ : Application).path = o.path := by
  rw [path, result_of_apply happly]

theorem matched_of_apply : (⟨r, g⟩ : Application).matched = o.matched := by
  rw [matched, result_of_apply happly]

theorem missed_of_apply : (⟨r, g⟩ : Application).missed = !o.matched := by
  rw [missed, result_of_apply happly]

theorem effects_of_apply : (⟨r, g⟩ : Application).effects = o.effects := by
  rw [effects, result_of_apply happly]

end Result

/-- A rule that fails has neither matched nor missed. -/
theorem not_matched_of_error {r : Run} {g : GuardedRule} {e : EvalError} {b : Bindings}
    (happly : g.rule.apply g.conditions r.path r.bindings = (.error e, b)) :
    (⟨r, g⟩ : Application).matched = false ∧ (⟨r, g⟩ : Application).missed = false := by
  have hresult : (⟨r, g⟩ : Application).result = (.error e, b) := happly
  simp only [matched, missed, hresult, and_self]

variable {a}

/-- A rule that has matched has an outcome, which the application is read off. -/
theorem exists_outcome_of_matched (hm : a.matched = true) :
    ∃ o, a.result = (.ok o, a.after) ∧ o.matched = true ∧ o.path = a.path ∧
      o.effects = a.effects := by
  cases hresult : a.result with
  | mk outcome b =>
    cases outcome with
    | error e => simp [matched, hresult] at hm
    | ok o =>
      have ho : o.matched = true := by simpa [matched, hresult] using hm
      exact ⟨o, by rw [after, hresult], ho, by rw [path, hresult], by rw [effects, hresult]⟩

/-- A rule that has not matched leaves the path, and has no effects. -/
theorem path_and_effects_of_not_matched (hm : a.matched = false) :
    a.path = a.before.path ∧ a.effects = [] := by
  cases hresult : a.result with
  | mk outcome b =>
    cases outcome with
    | error e => exact ⟨by rw [path, hresult], by rw [effects, hresult]⟩
    | ok o =>
      have ho : o.matched = false := by simpa [matched, hresult] using hm
      obtain ⟨-, rfl⟩ := Rule.apply_missed hresult ho
      exact ⟨by rw [path, hresult], by rw [effects, hresult]⟩

/-- The effects of an application that has matched are those of the flags of the rule. -/
theorem effects_of_matched (hm : a.matched = true) : a.rule.flags.effects = .ok a.effects := by
  obtain ⟨o, hresult, ho, -, heq⟩ := exists_outcome_of_matched hm
  obtain ⟨-, -, heffects, -⟩ := Rule.apply_matched hresult ho
  rw [heffects, heq]

/-- Effects ask a run to end exactly if one of them ends runs. -/
theorem rewrite?_ofEffects_eq_none_iff {es : List Effect} {uri : Text} :
    (Control.ofEffects es).rewrite? uri = none ↔ es.any Effect.isEnding = false := by
  -- an effect that ends runs is one of the five that a control asks to end a run by
  have heffect : ∀ e : Effect, e.isEnding = false ↔
      e.status? = none ∧ e.redirect? = none ∧ .proxy ≠ e ∧ .endRun ≠ e ∧ .last ≠ e := by
    intro e
    cases e <;> simp [Effect.isEnding, Effect.status?, Effect.redirect?]
  simp [Control.rewrite?_eq_none_iff, Control.ofEffects, Control.foldl_add, heffect, forall_and,
    List.forall_mem_ne]

/-- The flags of a rule that has matched ask the run to end exactly if the application ends it. -/
theorem rewrite?_eq_none_iff_ends (hm : a.matched = true) {uri : Text} :
    a.rule.flags.control.rewrite? uri = none ↔ a.ends = false := by
  rw [← FlagSet.ofEffects_eq_control (effects_of_matched hm), rewrite?_ofEffects_eq_none_iff, ends]

/-- A rule asks for a restart if it has matched, does not end the run and carries the flag for
it. -/
theorem asksRestart_iff :
    a.asksRestart = true ↔
      a.matched = true ∧ a.ends = false ∧ ∃ most, a.rule.flags.next? = some most := by
  rw [← Option.isSome_iff_exists, FlagSet.next?_isSome, asksRestart, Rule.has]
  simp [and_assoc]

/-- The bound on restarts is that of the flag, or else that of the run. -/
theorem restartBound_eq {most : Option Nat} (hnext : a.rule.flags.next? = some most) (bound : Nat) :
    a.restartBound bound = most.getD bound := by
  have hnext' : a.guarded.rule.flags.next? = some most := hnext
  simp [restartBound, Run.ownBound?, hnext']

/-! What an application has done to the run, as the moves of a run have it. -/

section Fate

variable {r : Run} {g : GuardedRule} {o : RuleOutcome} {b : Bindings} {uri : Text}
  (happly : g.rule.apply g.conditions r.path r.bindings = (.ok o, b))

include happly

variable (hmatched : o.matched = true)

include hmatched

/-- A rule whose flags decide on a rewrite ends the run. -/
theorem ends_of_rewrite {rewrite : Rewrite}
    (hrewrite : g.rule.flags.control.rewrite? uri = some rewrite) :
    (⟨r, g⟩ : Application).ends = true := by
  have hm : (⟨r, g⟩ : Application).matched = true := by rw [matched_of_apply happly, hmatched]
  rw [← Bool.not_eq_false, ← rewrite?_eq_none_iff_ends hm]
  exact fun hnone => Option.some_ne_none rewrite (hrewrite.symm.trans hnone)

variable (hrewrite : g.rule.flags.control.rewrite? uri = none)

include hrewrite

/-- A rule whose flags decide on no rewrite does not end the run. -/
theorem not_ends_of_rewrite : (⟨r, g⟩ : Application).ends = false :=
  (rewrite?_eq_none_iff_ends (by rw [matched_of_apply happly, hmatched])).1 hrewrite

/-- A rule that matches, goes on and carries the flag for it asks for a restart. -/
theorem asksRestart_of_next {most : Option Nat} (hnext : g.rule.flags.next? = some most) :
    (⟨r, g⟩ : Application).asksRestart = true :=
  asksRestart_iff.2 ⟨by rw [matched_of_apply happly, hmatched],
    not_ends_of_rewrite happly hmatched hrewrite, most, hnext⟩

end Fate

theorem not_missed_of_matched (hm : a.matched = true) : a.missed = false := by
  revert hm
  simp only [matched, missed]
  split
  · exact fun hm => by rw [hm, Bool.not_true]
  · exact fun _ => rfl

theorem not_matched_of_missed (hmiss : a.missed = true) : a.matched = false := by
  refine Bool.eq_false_iff.2 fun hm => ?_
  rw [not_missed_of_matched hm] at hmiss
  cases hmiss

/-- A rule that does not match has no effects. -/
theorem effects_of_not_matched (hm : a.matched = false) : a.effects = [] :=
  (path_and_effects_of_not_matched hm).2

theorem not_ends_of_not_matched (hm : a.matched = false) : a.ends = false := by
  rw [ends, effects_of_not_matched hm, List.any_nil]

theorem not_asksRestart_of_not_matched (hm : a.matched = false) : a.asksRestart = false := by
  rw [asksRestart, hm, Bool.false_and, Bool.false_and]

theorem not_asksRestart_of_ends (hends : a.ends = true) : a.asksRestart = false := by
  rw [asksRestart, hends, Bool.not_true, Bool.and_false, Bool.false_and]

theorem not_asksRestart_of_next (hnext : a.rule.flags.next? = none) : a.asksRestart = false := by
  refine Bool.eq_false_iff.2 fun h => ?_
  obtain ⟨-, -, most, hmost⟩ := asksRestart_iff.1 h
  exact Option.some_ne_none most (hmost.symm.trans hnext)

/-! Applications one after the other. -/

/-- **Applications in succession** make the bindings `b` into other ones: each rule is applied to
what the one before it has left. -/
inductive Successive (b : Bindings) : List Application → Bindings → Prop
  | nil : Successive b [] b
  | concat {as : List Application} {a : Application} (h : Successive b as a.before.bindings) :
      Successive b (as ++ [a]) a.after

namespace Successive

variable {b : Bindings} {as : List Application}

/-- One application is a succession. -/
theorem single (a : Application) : Successive a.before.bindings [a] a.after :=
  @concat _ [] a .nil

/-- An application in front of a succession. -/
theorem cons {a : Application} (h : Successive a.after as b) :
    Successive a.before.bindings (a :: as) b := by
  induction h with
  | nil => exact single a
  | concat _ ih => exact @concat _ (a :: _) _ ih

end Successive

end Application

namespace Run

variable {rules : List GuardedRule} {bound : Nat}

/-! ### What a move carries on -/

/-- The bindings that a run has come to. -/
def Progress.bindings : Progress → Bindings
  | .running r => r.bindings
  | .ended _ b => b
  | .failed _ b => b

section Move

variable {r r' : Run} {g : GuardedRule}

/-- The bindings of a run are always those that the last application has left. -/
theorem Move.bindings_eq {p : Progress} (h : Move rules bound r g p) :
    p.bindings = (⟨r, g⟩ : Application).after := by
  -- every move hands on what applying the rule has left
  cases h with
  | failed happly | missed happly | ended happly | overrun happly | restarted happly
  | advanced happly =>
    exact (congrArg Prod.snd happly).symm

/-- A run that goes on has the path and the effects of the rule if this has matched, else those it
had. -/
theorem Move.carries_on (h : Move rules bound r g (.running r')) :
    (⟨r, g⟩ : Application).matched = false ∧ r'.path = r.path ∧ r'.extras = r.extras ∨
      (⟨r, g⟩ : Application).matched = true ∧ (⟨r, g⟩ : Application).ends = false ∧
        r'.path = (⟨r, g⟩ : Application).path ∧
        r'.extras = (⟨r, g⟩ : Application).effects.foldl Extras.add r.extras := by
  cases h with
  | missed happly hmissed =>
    exact Or.inl ⟨(Application.matched_of_apply happly).trans hmissed, rfl, rfl⟩
  | restarted happly hmatched hrewrite | advanced happly hmatched hrewrite =>
    refine Or.inr ⟨(Application.matched_of_apply happly).trans hmatched,
      Application.not_ends_of_rewrite happly hmatched hrewrite,
      (Application.path_of_apply happly).symm, ?_⟩
    rw [Application.effects_of_apply happly]

/-- A run that ends is rewritten as the flags of the rule ask for, which has matched. -/
theorem Move.ended_eq {o : Outcome} {b : Bindings} (h : Move rules bound r g (.ended o b)) :
    (⟨r, g⟩ : Application).matched = true ∧
      g.rule.flags.control.rewrite? (uriOf (⟨r, g⟩ : Application).path b) = some o.rewrite ∧
      o.extras = (⟨r, g⟩ : Application).effects.foldl Extras.add r.extras := by
  cases h with
  | ended happly hmatched hrewrite =>
    rw [Application.path_of_apply happly, Application.effects_of_apply happly]
    exact ⟨(Application.matched_of_apply happly).trans hmatched, hrewrite, rfl⟩

end Move

/-! ### History and trace -/

/-- The applications of rules from a state on, in their order. -/
def history (rules : List GuardedRule) (bound : Nat) (r : Run) : List Application :=
  match rules[r.index]? with
  | none => []
  | some g =>
    ⟨r, g⟩ ::
      match _hstep : step rules bound r with
      | .running r' => history rules bound r'
      | .ended _ _ => []
      | .failed _ _ => []
termination_by remaining rules bound r
decreasing_by exact remaining_lt_of_step _hstep

/-- **Complete runs.** From a state, a run applies rules and gives a result. -/
inductive Trace (rules : List GuardedRule) (bound : Nat) :
    Run → List Application → Except EvalError Outcome × Bindings → Prop where
  /-- Behind the last rule the run ends with the path at hand. -/
  | exhausted {r : Run} (hnone : rules[r.index]? = none) :
      Trace rules bound r [] (.ok ⟨.uri (uriOf r.path r.bindings), r.extras⟩, r.bindings)
  | ended {r : Run} {g : GuardedRule} {o : Outcome} {b : Bindings} (hg : rules[r.index]? = some g)
      (hmove : Move rules bound r g (.ended o b)) : Trace rules bound r [⟨r, g⟩] (.ok o, b)
  | failed {r : Run} {g : GuardedRule} {e : EvalError} {b : Bindings}
      (hg : rules[r.index]? = some g)
      (hmove : Move rules bound r g (.failed e b)) : Trace rules bound r [⟨r, g⟩] (.error e, b)
  | step {r r' : Run} {g : GuardedRule} {as : List Application}
      {result : Except EvalError Outcome × Bindings} (hg : rules[r.index]? = some g)
      (hmove : Move rules bound r g (.running r')) (hrest : Trace rules bound r' as result) :
      Trace rules bound r (⟨r, g⟩ :: as) result

/-- Behind the last rule nothing is applied. -/
theorem history_of_none {r : Run} (hnone : rules[r.index]? = none) :
    history rules bound r = [] := by
  rw [history]
  split
  · rfl
  · simp_all

/-- If the run goes on, the application is followed by those of the rest of the run. -/
theorem history_of_running {r r' : Run} {g : GuardedRule} (hg : rules[r.index]? = some g)
    (hstep : step rules bound r = .running r') :
    history rules bound r = ⟨r, g⟩ :: history rules bound r' := by
  rw [history]
  split
  · simp_all
  · split <;> simp_all

/-- If the run is over, the application is the last one. -/
theorem history_of_over {r : Run} {g : GuardedRule} (hg : rules[r.index]? = some g)
    (hstep : ∀ r', step rules bound r ≠ .running r') : history rules bound r = [⟨r, g⟩] := by
  rw [history]
  split
  · simp_all
  · split <;> simp_all

/-- The history and the result of a run are those of a complete run. -/
theorem trace_finish (rules : List GuardedRule) (bound : Nat) (r : Run) :
    Trace rules bound r (history rules bound r) (finish rules bound r) := by
  -- the induction is that of `finish`, whose measure every step lowers
  induction r using finish.induct rules bound with
  | case1 r r' hstep ih =>
    cases hg : rules[r.index]? with
    | none =>
      -- without a rule the run would have ended
      simp [step, hg] at hstep
    | some g =>
      rw [history_of_running hg hstep, finish, hstep]
      exact .step hg (hstep ▸ move_step bound hg) ih
  | case2 r o b hstep =>
    cases hg : rules[r.index]? with
    | none =>
      obtain ⟨rfl, rfl⟩ : _ ∧ _ := by simpa [step, hg] using hstep
      rw [history_of_none hg, finish, hstep]
      exact .exhausted hg
    | some g =>
      rw [history_of_over hg (by simp [hstep]), finish, hstep]
      exact .ended hg (hstep ▸ move_step bound hg)
  | case3 r e b hstep =>
    cases hg : rules[r.index]? with
    | none => simp [step, hg] at hstep
    | some g =>
      rw [history_of_over hg (by simp [hstep]), finish, hstep]
      exact .failed hg (hstep ▸ move_step bound hg)

namespace Trace

variable {r : Run} {as before after : List Application} {a : Application}
  {result : Except EvalError Outcome × Bindings}

/-- The applications of a run are in succession, from the bindings it begins with to those it ends
with. -/
theorem successive (h : Trace rules bound r as result) :
    Application.Successive r.bindings as result.2 := by
  induction h with
  | exhausted => exact .nil
  | @ended r g o b hg hmove =>
    rw [show b = (⟨r, g⟩ : Application).after from hmove.bindings_eq]
    exact .single ⟨r, g⟩
  | @failed r g e b hg hmove =>
    rw [show b = (⟨r, g⟩ : Application).after from hmove.bindings_eq]
    exact .single ⟨r, g⟩
  | @step r r' g as result hg hmove hrest ih =>
    rw [show r'.bindings = (⟨r, g⟩ : Application).after from hmove.bindings_eq] at ih
    exact ih.cons

/-- A complete run begins with the rule that the state is in front of. -/
theorem head? (h : Trace rules bound r as result) :
    as.head? = rules[r.index]?.map fun g => ⟨r, g⟩ := by
  cases h with
  | exhausted hnone => rw [hnone]; rfl
  | ended hg => rw [hg]; rfl
  | failed hg => rw [hg]; rfl
  | step hg => rw [hg]; rfl

theorem before_eq (h : Trace rules bound r (a :: after) result) : a.before = r := by
  cases h <;> rfl

/-- An application that is not the last one is a move that lets the run go on. -/
theorem step_of_ne_nil (h : Trace rules bound r (a :: as) result) (hne : as ≠ []) :
    ∃ g r', a = ⟨r, g⟩ ∧ Move rules bound r g (.running r') ∧ Trace rules bound r' as result := by
  cases h with
  | ended => exact absurd rfl hne
  | failed => exact absurd rfl hne
  | step hg hmove hrest => exact ⟨_, _, rfl, hmove, hrest⟩

/-- What follows any point of a complete run is a complete run itself. -/
theorem suffix (h : Trace rules bound r (before ++ a :: after) result) :
    Trace rules bound a.before (a :: after) result := by
  induction before generalizing r with
  | nil =>
    have hhead := h.head?
    cases hg : rules[r.index]? with
    | none =>
      -- behind the last rule nothing is applied
      simp [hg] at hhead
    | some g =>
      obtain rfl : a = ⟨r, g⟩ := by simpa [hg] using hhead
      exact h
  | cons c before ih =>
    rw [List.cons_append] at h
    obtain ⟨g, r', -, -, hrest⟩ := h.step_of_ne_nil (by simp)
    exact ih hrest

/-- **What every application preserves holds all along the run.** -/
theorem bindings {P : Bindings → Prop}
    (hP : ∀ (g : GuardedRule) (path : Text) (b : Bindings), P b →
      P (g.rule.apply g.conditions path b).2)
    (h : Trace rules bound r as result) (hr : P r.bindings) :
    (∀ a ∈ as, P a.before.bindings) ∧ P result.2 := by
  have hafter : ∀ a : Application, P a.before.bindings → P a.after := by
    intro a ha
    exact hP a.guarded a.before.path a.before.bindings ha
  -- in each case the bindings behind the application are those that the run has come to
  induction h with
  | exhausted hnone => exact ⟨by simp, hr⟩
  | @ended r g o b hg hmove =>
    have hlast := hafter ⟨r, g⟩ hr
    rw [← hmove.bindings_eq] at hlast
    exact ⟨by simpa using hr, hlast⟩
  | @failed r g e b hg hmove =>
    have hlast := hafter ⟨r, g⟩ hr
    rw [← hmove.bindings_eq] at hlast
    exact ⟨by simpa using hr, hlast⟩
  | @step r r' g as result hg hmove hrest ih =>
    have hnext := hafter ⟨r, g⟩ hr
    rw [← hmove.bindings_eq] at hnext
    obtain ⟨hall, hresult⟩ := ih hnext
    exact ⟨by simpa using ⟨hr, hall⟩, hresult⟩

end Trace

end Run

/-! ### Requests -/

namespace Scope

/-- The rules of a scope. -/
def rules (s : Scope) : List GuardedRule := GuardedRule.group s.active

/-- The applications of rules that a request causes; with the engine off there are none. -/
def history (s : Scope) (r : Request) (bound : Nat) (b : Bindings) : List Application :=
  if s.engineOn then Run.history s.rules bound (Run.start r.path b) else []

/-- With the engine on, a request causes a complete run of the rules. -/
theorem trace {s : Scope} (hon : s.engineOn = true) (r : Request) (bound : Nat) (b : Bindings) :
    Run.Trace s.rules bound (Run.start r.path b) (s.history r bound b) (s.run r bound b) := by
  rw [history, run, if_pos hon, if_pos hon]
  exact Run.trace_finish s.rules bound (Run.start r.path b)

end Scope

end UrlRewrite
