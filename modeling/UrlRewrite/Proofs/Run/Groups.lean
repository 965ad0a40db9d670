import UrlRewrite.Proofs.Rule.Tests
import UrlRewrite.Proofs.Run.History

/-!
# Groups in the course of a run

A run begins without groups of a match. From then on its rules bind groups, and so do their
conditions, and groups of rules are put back. This module says that the bound indices never have a
gap, for rules and for conditions, and that after every match they are those of its groups.

* `Application.tests` lists the tests of an application, and `Application.LinksTests` says how they
  lead from the bindings in front of it to the groups behind it;
* `Run.KeepsGroups` says that groups are contiguous all along a history, at all tests in its course,
  and that each of its applications begins with the bindings that the one before it has left;
* `Scope.run_keepsGroups` says it of all requests.

The invariant is `Bindings.Contiguous`. Every test and every application keeps it
(`Rule.contiguous_tests` and `Rule.contiguous_apply`), and so it holds all along a run
(`Run.Trace.bindings`).
-/

namespace UrlRewrite

/-- The tests of patterns in the course of an application. -/
def Application.tests (a : Application) : List PatternTest :=
  a.rule.tests a.guarded.conditions a.before.path a.before.bindings

/-- **The tests of an application** lead from the bindings in front of it to the groups behind
it. -/
structure Application.LinksTests (a : Application) : Prop where
  /-- The first test begins with the bindings of the run. -/
  first : ∀ t ∈ a.tests.head?, t.before = a.before.bindings
  /-- Each other test begins with the bindings that the one before it has left. -/
  next : a.tests.IsChain fun t t' => t'.before = t.after
  /-- The last test decides whether the rule matches, if its flags have effects, and the run goes on
  with its groups. But if it does not hold, the groups of rules are those in front of the
  application. -/
  last : ∃ t, a.tests.getLast? = some t ∧
    (a.rule.test a.guarded.conditions a.before.path a.before.bindings).1 = t.result.map (·.1) ∧
    ∀ (kind : GroupKind) (i : Nat), i < groupLimit →
      a.after.get? (.group kind i) =
        (if kind = .rule ∧ t.result.map (·.1) = .ok false then a.before.bindings else t.after).get?
          (.group kind i)

theorem Application.linksTests (a : Application) : a.LinksTests where
  first t ht := by
    obtain rfl := Option.some.inj ht
    rfl
  next := Rule.isChain_tests
  last := by
    obtain ⟨t, ht, hdecides, hgroups⟩ :=
      a.rule.exists_last a.guarded.conditions a.before.path a.before.bindings
    exact ⟨t, ht, hdecides, fun kind i hi =>
      (Rule.get?_group_apply kind i).trans (hgroups kind i hi)⟩

namespace Run

/-- **The groups of a run**, which begins with some bindings and ends with others. -/
structure KeepsGroups (first : Bindings) (as : List Application) (final : Bindings) : Prop where
  /-- The tests of each application lead from the bindings in front of it to the groups behind
  it, -/
  linked : ∀ a ∈ as, a.LinksTests
  /-- and the next application, or the end, has the bindings that it has left. -/
  successive : Application.Successive first as final
  first : ∀ kind, first.Contiguous kind
  /-- In front of each application and behind it, the groups of each kind are contiguous. -/
  applications : ∀ a ∈ as, ∀ kind, a.before.bindings.Contiguous kind ∧ a.after.Contiguous kind
  /-- So they are in front of each test and behind it. -/
  tests : ∀ a ∈ as, ∀ t ∈ a.tests, ∀ kind, t.before.Contiguous kind ∧ t.after.Contiguous kind
  /-- Behind each match, the groups are those of the match, and there are no others. -/
  of_match : ∀ a ∈ as, ∀ t ∈ a.tests, ∀ groups, t.groups? = some groups → ∀ i < groupLimit,
    t.after.get? (.group t.kind i) = groups[i]?.map (·.getD [])
  final : ∀ kind, final.Contiguous kind

namespace Trace

variable {rules : List GuardedRule} {bound : Nat} {r : Run} {as : List Application}
  {result : Except EvalError Outcome × Bindings}

/-- A run that begins with contiguous groups keeps them contiguous. -/
theorem keepsGroups (h : Trace rules bound r as result)
    (hfirst : ∀ kind, r.bindings.Contiguous kind) : KeepsGroups r.bindings as result.2 := by
  -- the invariant is carried along the run for each kind by itself
  have hall : ∀ kind,
      (∀ a ∈ as, a.before.bindings.Contiguous kind) ∧ result.2.Contiguous kind := by
    intro kind
    exact h.bindings (P := (·.Contiguous kind)) (fun _ _ _ hb => Rule.contiguous_apply hb)
      (hfirst kind)
  have htests : ∀ a ∈ as, ∀ t ∈ a.tests, ∀ kind,
      t.before.Contiguous kind ∧ t.after.Contiguous kind := by
    intro a ha t ht kind
    exact Rule.contiguous_tests ((hall kind).1 a ha) t ht
  refine
    { first := hfirst
      applications := ?_
      tests := htests
      of_match := ?_
      final := fun kind => (hall kind).2
      linked := fun a _ => a.linksTests
      successive := h.successive }
  · intro a ha kind
    have hbefore := (hall kind).1 a ha
    exact ⟨hbefore, Rule.contiguous_apply hbefore⟩
  · -- in front of the test groups are contiguous, so that the update leaves none of them
    intro a ha t ht groups hgroups i hi
    rw [PatternTest.get?_after hgroups (htests a ha t ht t.kind).1, if_pos hi]

end Trace

end Run

namespace Scope

/-- **The groups of a request.** Whatever a request, a server and lookup tables are, all groups are
contiguous all the time, and those behind a match are those of the match. -/
theorem run_keepsGroups (s : Scope) (r : Request) (server : Server) (now : Moment)
    (tables : List (Text × List (Text × Text))) (bound : Nat) :
    Run.KeepsGroups (Bindings.ofRequest r server now tables)
      (s.history r bound (Bindings.ofRequest r server now tables))
      (s.run r bound (Bindings.ofRequest r server now tables)).2 := by
  have hfirst := Bindings.contiguous_ofRequest r server now tables
  by_cases hon : s.engineOn = true
  · exact (trace hon r bound _).keepsGroups hfirst
  · -- with the engine off, no rule is applied
    rw [history, run, if_neg hon, if_neg hon]
    exact
      { first := hfirst
        applications := by simp
        tests := by simp
        of_match := by simp
        final := hfirst
        linked := by simp
        successive := .nil }

end Scope

end UrlRewrite
