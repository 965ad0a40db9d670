import Mathlib.Logic.Function.Iterate
import Mathlib.Order.Bounds.Defs
import UrlRewrite.Proofs.Run.History

/-!
# The bound of a run

Rules may restart a run, each as often as its own bound or that of the run allows. All of them share
one counter of restarts. This module says how long a run can be, and when it is given up.

* `Run.Bounded` collects it. The position of the rule grows inside a pass, and a new pass is begun
  by a restart only; with the greatest bound `n` there are at most `n + 1` passes, each over all the
  rules; a run is given up exactly at a rule that asks for a restart when its bound has been
  reached.
* `Scope.run_bounded` says it of all requests, and that the machine has stopped after as many steps.

The measure is lexicographic: the passes that are left, and then the rules that are left in this
one. In `Run.remaining` the two are one number, which each application lowers
(`Run.Move.remaining_lt`). The counter is the number of the applications so far that have asked for
a restart (`Run.Trace.restarts_eq`).
-/

namespace UrlRewrite

namespace Run

variable {rules : List GuardedRule} {bound : Nat} {r : Run}

/-! ### Steps -/

/-- One more step of a run that is not over yet. -/
def Progress.advance (rules : List GuardedRule) (bound : Nat) : Progress → Progress
  | .running r => step rules bound r
  | finished => finished

/-- The result of a run that is over. -/
def Progress.result? : Progress → Option (Except EvalError Outcome × Bindings)
  | .running _ => none
  | .ended outcome b => some (.ok outcome, b)
  | .failed e b => some (.error e, b)

/-- What is over stays as it is. -/
theorem Progress.iterate_advance_of_over {p : Progress} (hover : ∀ r, p ≠ .running r) (n : Nat) :
    (Progress.advance rules bound)^[n] p = p := by
  have hfixed : Progress.advance rules bound p = p := by
    cases p with
    | running r => exact absurd rfl (hover r)
    | ended outcome b => rfl
    | failed e b => rfl
  induction n with
  | zero => rfl
  | succ n ih => rw [Function.iterate_succ_apply, hfixed, ih]

/-- A run is over after as many steps as its measure says, and one more to find that no rule is
left. -/
theorem iterate_advance {n : Nat} (hn : remaining rules bound r < n) :
    ((Progress.advance rules bound)^[n] (.running r)).result? = some (finish rules bound r) := by
  -- the induction is on the number of steps; a run that is over before stays as it is
  induction n generalizing r with
  | zero => exact absurd hn (Nat.not_lt_zero _)
  | succ n ih =>
    rw [Function.iterate_succ_apply]
    change ((Progress.advance rules bound)^[n] (step rules bound r)).result? = _
    rw [finish]
    split
    · rename_i r' hstep
      have hlt := remaining_lt_of_step hstep
      rw [hstep]
      exact ih (by omega)
    · rename_i outcome b hstep
      rw [hstep, Progress.iterate_advance_of_over (by simp)]
      rfl
    · rename_i e b hstep
      rw [hstep, Progress.iterate_advance_of_over (by simp)]
      rfl

/-! ### Restarts -/

/-- The bounds on restarts: that of the run, and those that rules have of their own. -/
def restartBounds (rules : List GuardedRule) (bound : Nat) : Set Nat :=
  {n | n = bound ∨ ∃ g ∈ rules, g.rule.flags.next? = some (some n)}

theorem foldl_max_mem (bounds : List Nat) (n : Nat) :
    bounds.foldl max n = n ∨ bounds.foldl max n ∈ bounds := by
  induction bounds generalizing n with
  | nil => exact Or.inl rfl
  | cons k bounds ih =>
    rw [List.foldl_cons]
    rcases ih (max n k) with h | h
    · -- the greatest so far is either `n` or `k`
      rw [h, List.mem_cons]
      omega
    · exact Or.inr (List.mem_cons_of_mem k h)

/-- The greatest bound is the greatest of these. -/
theorem isGreatest_greatestBound (rules : List GuardedRule) (bound : Nat) :
    IsGreatest (restartBounds rules bound) (greatestBound rules bound) := by
  refine ⟨?_, ?_⟩
  · -- it is one of them
    rcases foldl_max_mem (rules.filterMap ownBound?) bound with h | h
    · exact Or.inl h
    · obtain ⟨g, hg, hown⟩ := List.mem_filterMap.1 h
      exact Or.inr ⟨g, hg, Option.join_eq_some_iff.1 hown⟩
  · -- none of them is greater
    rintro n (rfl | ⟨g, hg, hnext⟩)
    · exact (le_foldl_max _ _).1
    · exact getD_le_greatestBound hg bound hnext

/-- What a move does to the position and to the counter of restarts. -/
theorem Move.pass {g : GuardedRule} {r' : Run} (h : Move rules bound r g (.running r')) :
    if (⟨r, g⟩ : Application).asksRestart then
      r'.index = 0 ∧ r'.restarts = r.restarts + 1 ∧
        r.restarts < (⟨r, g⟩ : Application).restartBound bound
    else r.index < r'.index ∧ r'.restarts = r.restarts := by
  -- a restart counts and begins anew, and any other move goes further down the rules
  cases h with
  | missed happly hmissed =>
    have hmatch := (Application.matched_of_apply happly).trans hmissed
    rw [Application.not_asksRestart_of_not_matched hmatch]
    exact ⟨lt_afterMiss rules r.index, rfl⟩
  | restarted happly hmatched hrewrite hnext hbound =>
    have hmost := Application.restartBound_eq (a := ⟨r, g⟩) hnext bound
    rw [Application.asksRestart_of_next happly hmatched hrewrite hnext]
    exact ⟨rfl, rfl, hmost ▸ hbound⟩
  | advanced happly hmatched hrewrite hnext =>
    rw [Application.not_asksRestart_of_next (a := ⟨r, g⟩) hnext]
    exact ⟨by simp only; omega, rfl⟩

namespace Trace

variable {as before after : List Application} {a c : Application}
  {result : Except EvalError Outcome × Bindings}

/-- There are no more applications than the measure says. -/
theorem length_le (h : Trace rules bound r as result) : as.length ≤ remaining rules bound r := by
  -- in front of a rule, this rule at least remains
  have hone : ∀ {r : Run} {g : GuardedRule},
      rules[r.index]? = some g → 1 ≤ remaining rules bound r := by
    intro r g hg
    obtain ⟨hlt, -⟩ := List.getElem?_eq_some_iff.1 hg
    simp only [remaining]
    omega
  induction h with
  | exhausted => exact Nat.zero_le _
  | ended hg => exact hone hg
  | failed hg => exact hone hg
  | step hg hmove hrest ih =>
    have hlt := hmove.remaining_lt hg
    rw [List.length_cons]
    omega

/-- The counter of restarts counts the applications so far that have asked for one. -/
theorem restarts_eq (h : Trace rules bound r (before ++ a :: after) result) :
    a.before.restarts = r.restarts + before.countP Application.asksRestart := by
  -- the induction is on what has been applied before
  induction before generalizing r with
  | nil => rw [h.before_eq, List.countP_nil, Nat.add_zero]
  | cons c before ih =>
    rw [List.cons_append] at h
    obtain ⟨g, r', rfl, hmove, hrest⟩ := h.step_of_ne_nil (by simp)
    have hpass := hmove.pass
    rw [ih hrest, List.countP_cons]
    split at hpass
    · rename_i hasks
      rw [if_pos hasks]
      omega
    · rename_i hasks
      rw [if_neg hasks]
      omega

/-- The position grows, but for restarts, which begin with the first rule. -/
theorem pass (h : Trace rules bound r (a :: c :: after) result) :
    if a.asksRestart then c.index = 0 else a.index < c.index := by
  obtain ⟨g, r', rfl, hmove, hrest⟩ := h.step_of_ne_nil (by simp)
  have hpass := hmove.pass
  have hindex : c.index = r'.index := congrArg Run.index hrest.before_eq
  rw [hindex]
  split at hpass
  · rename_i hasks
    rw [if_pos hasks]
    exact hpass.1
  · rename_i hasks
    rw [if_neg hasks]
    exact hpass.1

/-- A run is given up exactly if an application asks for a restart that its bound does not allow. -/
theorem eq_tooManyIterations_iff (h : Trace rules bound r as result) :
    result.1 = .error .tooManyIterations ↔
      ∃ a ∈ as, a.asksRestart = true ∧ a.restartBound bound ≤ a.before.restarts := by
  induction h with
  | exhausted => simp
  | ended hg hmove =>
    cases hmove with
    | ended happly hmatched hrewrite =>
      simp [Application.not_asksRestart_of_ends
        (Application.ends_of_rewrite happly hmatched hrewrite)]
  | @failed r g e b hg hmove =>
    cases hmove with
    | failed happly =>
      -- the errors of a rule are others
      have hmatch := (Application.not_matched_of_error happly).1
      have herror := Rule.error_of_apply (congrArg Prod.fst happly)
      have hasks := Application.not_asksRestart_of_not_matched hmatch
      rcases herror with ⟨value, cause, rfl⟩ | ⟨name, rfl⟩ <;> simp [hasks]
    | overrun happly hmatched hrewrite hnext hbound =>
      have hasks := Application.asksRestart_of_next happly hmatched hrewrite hnext
      have hmost := Application.restartBound_eq (a := ⟨r, g⟩) hnext bound
      simpa [hasks, hmost] using hbound
  | @step r r' g as result hg hmove hrest ih =>
    -- a run that goes on has not been given up at this rule
    have hpass := hmove.pass
    simp only [ih, List.mem_cons, exists_eq_or_imp]
    refine ⟨Or.inr, fun hany => hany.resolve_left fun ⟨hasks, hle⟩ => ?_⟩
    rw [if_pos hasks] at hpass
    exact absurd hpass.2.2 (Nat.not_lt.2 hle)

theorem not_asksRestart (h : Trace rules bound r as result)
    (hnone : ∀ g ∈ rules, g.rule.has .next = false) :
    ∀ a ∈ as, a.asksRestart = false := by
  induction h with
  | exhausted => simp
  | ended hg => simp [Application.asksRestart, Application.rule, hnone _ (List.mem_of_getElem? hg)]
  | failed hg => simp [Application.asksRestart, Application.rule, hnone _ (List.mem_of_getElem? hg)]
  | step hg hmove hrest ih =>
    simpa [Application.asksRestart, Application.rule, hnone _ (List.mem_of_getElem? hg)] using ih

end Trace

/-! ### Whole runs -/

/-- **The bounds of a run**, with its applications and its result. -/
structure Bounded (rules : List GuardedRule) (bound : Nat) (as : List Application)
    (result : Except EvalError Outcome) : Prop where
  /-- There are as many passes over the rules as restarts by the greatest bound, and the first
  one. -/
  length_le : as.length ≤ (greatestBound rules bound + 1) * rules.length
  /-- The position grows inside a pass, and a pass is begun by a restart only. -/
  pass : ∀ before a c after, as = before ++ a :: c :: after →
    if a.asksRestart then c.index = 0 else a.index < c.index
  /-- The run is given up exactly if a rule asks for a restart when as many have been made as its
  bound says, by whichever rules. -/
  gives_up_iff : result = .error .tooManyIterations ↔ ∃ before a after, as = before ++ a :: after ∧
    a.asksRestart = true ∧ a.restartBound bound ≤ before.countP Application.asksRestart
  /-- No run of rules that do not restart runs is given up. -/
  never_gives_up : (∀ g ∈ rules, g.rule.has .next = false) → result ≠ .error .tooManyIterations

/-- A run begins with all its passes ahead. -/
theorem remaining_start (path : Text) (b : Bindings) :
    remaining rules bound (start path b) = (greatestBound rules bound + 1) * rules.length := by
  simp only [remaining, start, Nat.sub_zero, Nat.add_mul, Nat.one_mul]

/-- Every trace from the beginning of a run keeps to the bounds. -/
theorem Trace.bounded {path : Text} {b : Bindings} {as : List Application}
    {result : Except EvalError Outcome × Bindings}
    (h : Trace rules bound (start path b) as result) :
    Bounded rules bound as result.1 where
  length_le := remaining_start path b ▸ h.length_le
  pass := by
    rintro before a c after rfl
    exact h.suffix.pass
  gives_up_iff := by
    rw [h.eq_tooManyIterations_iff]
    -- the counter at a point of the history is read off what stands before this point
    refine ⟨fun ⟨a, ha, hasks, hle⟩ => ?_, fun ⟨before, a, after, has, hasks, hle⟩ => ?_⟩
    · obtain ⟨before, after, rfl⟩ := List.append_of_mem ha
      rw [h.restarts_eq, start, Nat.zero_add] at hle
      exact ⟨before, a, after, rfl, hasks, hle⟩
    · subst has
      have hrestarts := h.restarts_eq
      rw [start, Nat.zero_add] at hrestarts
      exact ⟨a, by simp, hasks, hrestarts ▸ hle⟩
  never_gives_up := by
    intro hnone hresult
    obtain ⟨a, ha, hasks, -⟩ := h.eq_tooManyIterations_iff.1 hresult
    exact absurd hasks (by simp [h.not_asksRestart hnone a ha])

end Run

/-! ### Requests -/

namespace Scope

/-- What a request begins with: the beginning of a run or, with the engine off, its end. -/
def initial (s : Scope) (r : Request) (b : Bindings) : Run.Progress :=
  if s.engineOn then .running (Run.start r.path b) else .ended ⟨.uri r.uri, {}⟩ b

/-- **The bounds of a request.** Every request has been answered, or has failed, after as many steps
as there can be applications of rules, and one more. -/
theorem run_bounded (s : Scope) (r : Request) (bound : Nat) (b : Bindings) :
    ((Run.Progress.advance s.rules bound)^[
        (Run.greatestBound s.rules bound + 1) * s.rules.length + 1]
        (s.initial r b)).result? = some (s.run r bound b) ∧
      IsGreatest (Run.restartBounds s.rules bound) (Run.greatestBound s.rules bound) ∧
      Run.Bounded s.rules bound (s.history r bound b) (s.run r bound b).1 := by
  refine ⟨?_, Run.isGreatest_greatestBound s.rules bound, ?_⟩
  · rw [initial, run]
    split
    · refine Run.iterate_advance ?_
      rw [Run.remaining_start]
      exact Nat.lt_succ_self _
    · -- with the engine off, the request is answered before the first step
      rw [Run.Progress.iterate_advance_of_over (by simp)]
      rfl
  · by_cases hon : s.engineOn = true
    · exact (trace hon r bound b).bounded
    · rw [history, run, if_neg hon, if_neg hon]
      exact
        { length_le := Nat.zero_le _
          pass := by simp
          gives_up_iff := by simp
          never_gives_up := by simp }

end Scope

end UrlRewrite
