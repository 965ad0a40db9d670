import UrlRewrite.Proofs.Run.History

/-!
# Runs under a greater bound

The bound on restarts is asked for at a restart only, and only to tell whether the run is to be
given up. So a greater bound lets a run go on that a smaller one would have given up, and changes
nothing else.

* `Run.step_raise` is the step: one that does not give up the run is the same under a greater bound.
* `Run.raise` carries it along a run. Under a greater bound, the applications begin with those under
  the smaller one, and if the run has not been given up, they are the same, and so is the result.
* `Scope.run_raise` says it of all requests.

The induction is that of `Run.finish` under the smaller bound. The measure under the greater one
does not come in, since `Run.finish` and `Run.history` are unfolded there once for each step.
-/

namespace UrlRewrite

namespace Run

variable {rules : List GuardedRule} {bound bound' : Nat} {r : Run}

/-- Whether a run has been given up, because of too many restarts. -/
def Progress.isGivenUp : Progress → Bool
  | .failed .tooManyIterations _ => true
  | _ => false

/-- Behind a match that does not make the run be given up, it goes on in the same way under a
greater bound. -/
theorem afterMatch_raise (hle : bound ≤ bound') {o : RuleOutcome} {b : Bindings}
    (h : (r.afterMatch bound o b).isGivenUp = false) :
    r.afterMatch bound' o b = r.afterMatch bound o b := by
  simp only [afterMatch] at h ⊢
  split at h
  · -- a match that ends the run does not ask for the bound
    rfl
  · split at h
    · rename_i most hnext
      split at h
      · cases h
      · rename_i hallowed
        have hmost : most.getD bound ≤ most.getD bound' := by cases most <;> simp [hle]
        rw [if_neg hallowed, if_neg (by omega)]
    · rfl

/-- A step that does not give up the run is the same under a greater bound. -/
theorem step_raise (hle : bound ≤ bound') (h : (step rules bound r).isGivenUp = false) :
    step rules bound' r = step rules bound r := by
  cases hg : rules[r.index]? with
  | none => simp only [step, hg]
  | some g =>
    simp only [step, hg] at h ⊢
    split at h
    · rfl
    · rename_i o b happly
      cases hmatched : o.matched with
      | false => rfl
      | true =>
        rw [hmatched] at h
        exact afterMatch_raise hle h

/-! ### The result of a run, by its next step -/

theorem finish_of_running {r' : Run} (h : step rules bound r = .running r') :
    finish rules bound r = finish rules bound r' := by
  rw [finish, h]

theorem finish_of_ended {o : Outcome} {b : Bindings} (h : step rules bound r = .ended o b) :
    finish rules bound r = (.ok o, b) := by
  rw [finish, h]

theorem finish_of_failed {e : EvalError} {b : Bindings} (h : step rules bound r = .failed e b) :
    finish rules bound r = (.error e, b) := by
  rw [finish, h]

/-! ### Whole runs -/

section Over

variable (hover : ∀ r', step rules bound r ≠ .running r')

include hover

/-- A run that is over after a step has applied one rule at most, and any other run from there
applies it as well. -/
theorem history_prefix_of_over (bound' : Nat) :
    history rules bound r <+: history rules bound' r := by
  cases hg : rules[r.index]? with
  | none =>
    rw [history_of_none hg]
    exact List.nil_prefix
  | some g =>
    have hhead := (trace_finish rules bound' r).head?
    rw [hg] at hhead
    obtain ⟨rest, hrest⟩ := List.head?_eq_some_iff.1 hhead
    rw [history_of_over hg hover, hrest]
    exact ⟨rest, rfl⟩

/-- A run that is over after a step which two bounds share has applied the same rules under both. -/
theorem history_eq_of_over (hstep : step rules bound' r = step rules bound r) :
    history rules bound' r = history rules bound r := by
  cases hg : rules[r.index]? with
  | none => rw [history_of_none hg, history_of_none hg]
  | some g => rw [history_of_over hg hover, history_of_over hg (by rwa [hstep])]

end Over

/-- **A run under a greater bound** begins with the applications under the smaller one, and if these
have not led to giving it up, it is the same run. -/
theorem raise (hle : bound ≤ bound') (r : Run) :
    history rules bound r <+: history rules bound' r ∧
      ((finish rules bound r).1 ≠ .error .tooManyIterations →
        history rules bound' r = history rules bound r ∧
          finish rules bound' r = finish rules bound r) := by
  induction r using finish.induct rules bound with
  | case1 r r' hstep ih =>
    have hstep' : step rules bound' r = .running r' := by
      rw [step_raise hle (by rw [hstep]; rfl), hstep]
    cases hg : rules[r.index]? with
    | none =>
      -- without a rule the run would have ended
      simp [step, hg] at hstep
    | some g =>
      rw [history_of_running hg hstep, history_of_running hg hstep', finish_of_running hstep,
        finish_of_running hstep', List.prefix_cons_inj, List.cons_inj_right]
      exact ih
  | case2 r o b hstep =>
    have hstep' := step_raise hle (by rw [hstep]; rfl)
    have hover : ∀ r', step rules bound r ≠ .running r' := by simp [hstep]
    refine ⟨history_prefix_of_over hover bound', fun _ => ⟨history_eq_of_over hover hstep', ?_⟩⟩
    rw [finish_of_ended hstep, finish_of_ended (hstep'.trans hstep)]
  | case3 r e b hstep =>
    have hover : ∀ r', step rules bound r ≠ .running r' := by simp [hstep]
    refine ⟨history_prefix_of_over hover bound', fun hgiven => ?_⟩
    rw [finish_of_failed hstep] at hgiven
    -- the run has failed by something else than its restarts
    have hkept : (step rules bound r).isGivenUp = false := by
      rw [hstep]
      cases e <;> first | rfl | exact absurd rfl hgiven
    have hstep' := step_raise hle hkept
    refine ⟨history_eq_of_over hover hstep', ?_⟩
    rw [finish_of_failed hstep, finish_of_failed (hstep'.trans hstep)]

end Run

/-! ### Requests -/

namespace Scope

/-- **A request under a greater bound.** If its run has not been given up, a greater bound changes
nothing: the same rules are applied to the same states, with the same result and the same bindings
at the end. If it has been, the greater bound lets it go on from there. -/
theorem run_raise (s : Scope) (r : Request) (b : Bindings) (bound bound' : Nat)
    (hle : bound ≤ bound') :
    s.history r bound b <+: s.history r bound' b ∧
      ((s.run r bound b).1 ≠ .error .tooManyIterations →
        s.history r bound' b = s.history r bound b ∧ s.run r bound' b = s.run r bound b) := by
  simp only [history, run]
  split
  · exact Run.raise hle (Run.start r.path b)
  · -- with the engine off, no rule is applied
    exact ⟨List.prefix_refl _, fun _ => ⟨rfl, rfl⟩⟩

/-- A rule that restarts the run twice. Under the bound 1 the run is given up, and under all bounds
from 2 on it has the same result. -/
theorem run_raise_restarts :
    ∃ m,
      (MainContext.read "RewriteEngine on\nRewriteRule ^/(.*)/(.*)$ /$1-$2 [N]".toList).toOption =
        some m ∧
      ((main m).run { method := [], uri := "/a/b/c".toList } 1 .empty).1 =
        .error .tooManyIterations ∧
      (main m).history { method := [], uri := "/a/b/c".toList } 1 .empty <+:
        (main m).history { method := [], uri := "/a/b/c".toList } 2 .empty ∧
      ((main m).run { method := [], uri := "/a/b/c".toList } 2 .empty).1.toOption.map (·.rewrite) =
        some (.uri "/a-b-c".toList) ∧
      ∀ bound, 2 ≤ bound →
        (main m).run { method := [], uri := "/a/b/c".toList } bound .empty =
          (main m).run { method := [], uri := "/a/b/c".toList } 2 .empty := by
  have hread : ((MainContext.read
      "RewriteEngine on\nRewriteRule ^/(.*)/(.*)$ /$1-$2 [N]".toList).toOption.map fun m =>
        (match ((main m).run { method := [], uri := "/a/b/c".toList } 1 .empty).1 with
          | .error e => some e
          | .ok _ => none,
          ((main m).run { method := [], uri := "/a/b/c".toList } 2 .empty).1.toOption.map
            (·.rewrite))) =
      some (some .tooManyIterations, some (.uri "/a-b-c".toList)) := by
    decide +kernel
  obtain ⟨m, hm, hfacts⟩ := Option.map_eq_some_iff.1 hread
  obtain ⟨hfailed, htwo⟩ : _ ∧ _ := by simpa only [Prod.mk.injEq] using hfacts
  have hone :
      ((main m).run { method := [], uri := "/a/b/c".toList } 1 .empty).1 =
        .error .tooManyIterations := by
    split at hfailed
    · rename_i e hrun
      rw [hrun, Option.some.inj hfailed]
    · cases hfailed
  -- two restarts are enough, so that any greater bound gives the same
  have hnot :
      ((main m).run { method := [], uri := "/a/b/c".toList } 2 .empty).1 ≠
        .error .tooManyIterations := by
    intro h
    rw [h] at htwo
    cases htwo
  exact ⟨m, hm, hone, (run_raise (main m) _ .empty 1 2 (by decide)).1, htwo,
    fun bound hle => ((run_raise (main m) _ .empty 2 bound hle).2 hnot).2⟩

end Scope

end UrlRewrite
