import UrlRewrite.Proofs.Bindings.Groups
import UrlRewrite.Proofs.Chain.Nesting

/-!
# The tests of a rule

Before a rule is applied, its pattern is tested, and then the patterns of the conditions that guard
it, as far as the chain of them is evaluated. This module says what these tests do to the bindings.

* `PatternTest.after_eq` says that a test changes bindings only if it is a match of a regular
  expression that is not negated, whose groups are then bound;
* `Rule.tests` lists the tests of a rule. Each begins where the one before it has ended
  (`Rule.isChain_tests`), and the last one decides (`Rule.exists_last`). What updates of groups
  preserve is carried through all of them (`Rule.preserved_tests`);
* `Rule.get?_test` says that the tests of a rule change no binding but those of groups;
* `Rule.contiguous_tests` and `Rule.contiguous_apply` say that groups stay contiguous, at every test
  and when the rule has been applied.

If the conditions fail, the groups of the rule are put back to what they were in front of its own
test. They were contiguous then, so that they are contiguous again.
-/

namespace UrlRewrite

/-! ### Tests of patterns -/

/-- The test of a text with a pattern. -/
structure PatternTest where
  pattern : Pattern
  ignoreCase : Bool
  kind : GroupKind
  subject : Text
  before : Bindings

namespace PatternTest

variable (t : PatternTest)

/-- Whether the pattern holds, and the bindings then. -/
def result : Except EvalError (Bool × Bindings) :=
  t.pattern.test t.ignoreCase t.kind t.subject t.before

/-- The bindings after the test, also if it fails. -/
def after : Bindings :=
  match t.result with
  | .ok (_, b) => b
  | .error _ => t.before

/-- The groups of the match, if the pattern is a regular expression that is not negated, and
matches. -/
def groups? : Option (List (Option Text)) :=
  match t.pattern with
  | .regex false r => (r.match? t.ignoreCase t.subject).map Pattern.allGroups
  | _ => none

theorem after_of_ok {holds : Bool} {b : Bindings} (h : t.result = .ok (holds, b)) :
    t.after = b := by
  rw [after, h]

/-- Tests bind the groups of a match, and change nothing else. -/
theorem after_eq : t.after = t.groups?.elim t.before (t.before.update t.kind) := by
  obtain ⟨pattern, ignoreCase, kind, subject, before⟩ := t
  cases pattern with
  | regex negated r =>
    -- a negated pattern may match as well, but then it binds nothing
    cases hmatch : r.match? ignoreCase subject with
    | none => cases negated <;> simp [after, result, groups?, Pattern.test, hmatch]
    | some m => cases negated <;> simp [after, result, groups?, Pattern.test, hmatch]
  | lexical negated c operand => rfl
  | integral negated c operand =>
    cases hread : Text.readInt Text.maxInt64 (Text.trim subject) <;>
      simp [after, result, groups?, Pattern.test, hread]

variable {t}

/-- A pattern that does not hold leaves the bindings as they are. -/
theorem eq_before_of_not_holds {b : Bindings} (h : t.result = .ok (false, b)) : b = t.before := by
  have hafter := t.after_eq
  rw [after_of_ok t h] at hafter
  cases hgroups : t.groups? with
  | none => rw [hafter, hgroups, Option.elim_none]
  | some groups =>
    -- a match of a regular expression that is not negated would hold
    obtain ⟨pattern, ignoreCase, kind, subject, before⟩ := t
    cases pattern with
    | regex negated r =>
      cases negated with
      | false =>
        obtain ⟨m, hm, -⟩ := Option.map_eq_some_iff.1 hgroups
        simp [result, Pattern.test, hm] at h
      | true => cases hgroups
    | lexical => cases hgroups
    | integral => cases hgroups

theorem preserved_after {P : Bindings → Prop}
    (hupdate : ∀ (b : Bindings) (kind : GroupKind) (groups : List (Option Text)),
      P b → P (b.update kind groups))
    (h : P t.before) : P t.after := by
  rw [after_eq]
  cases t.groups? with
  | none => exact h
  | some groups => exact hupdate t.before t.kind groups h

/-- On contiguous groups, the groups after a match are those of the match. -/
theorem get?_after {groups : List (Option Text)} (hgroups : t.groups? = some groups)
    (h : t.before.Contiguous t.kind) (i : Nat) :
    t.after.get? (.group t.kind i) =
      if i < groupLimit then groups[i]?.map (·.getD []) else none := by
  rw [after_eq, hgroups, Option.elim_some, Bindings.get?_update h]

end PatternTest

/-- The test of a condition. -/
def Condition.patternTest (c : Condition) (b : Bindings) : PatternTest :=
  ⟨c.pattern, c.flags.contains ConditionFlag.ignoreCase, .condition, c.subject.render b false, b⟩

/-- A condition is evaluated by its test. -/
theorem Condition.evaluate_eq (c : Condition) (b : Bindings) :
    c.evaluate b = ((c.patternTest b).result.map (·.1), (c.patternTest b).after) := by
  have hresult : (c.patternTest b).result =
      c.pattern.test (c.flags.contains ConditionFlag.ignoreCase) .condition
        (c.subject.render b false) b := rfl
  rw [evaluate, PatternTest.after, hresult]
  cases c.pattern.test (c.flags.contains ConditionFlag.ignoreCase) .condition
      (c.subject.render b false) b with
  | ok tested => rfl
  | error e => rfl

/-! ### Tests of rules -/

namespace Rule

variable {r : Rule} {conditions : List Condition} {path : Text} {b : Bindings}

/-- The test of the pattern of a rule. -/
def patternTest (r : Rule) (path : Text) (b : Bindings) : PatternTest :=
  ⟨r.pattern, r.has .ignoreCase, .rule, path, b⟩

/-- All tests for a rule: that of its pattern and, if this holds, those of the conditions that are
evaluated. -/
def tests (r : Rule) (conditions : List Condition) (path : Text) (b : Bindings) :
    List PatternTest :=
  r.patternTest path b ::
    match (r.patternTest path b).result with
    | .ok (true, matched) =>
      (Chain.visits Condition.evaluate Condition.orNext conditions matched).map fun v =>
        v.1.patternTest v.2
    | _ => []

/-- Each test but the first one begins with the bindings that the test before it has left. -/
theorem isChain_tests :
    (r.tests conditions path b).IsChain fun t t' => t'.before = t.after := by
  rw [tests]
  split
  · rename_i matched hfirst
    have hturn : Chain.InTurn Condition.evaluate Condition.orNext conditions matched
        (Chain.visits Condition.evaluate Condition.orNext conditions matched) :=
      Chain.inTurn_visits conditions matched
    have hnext := hturn.next
    simp only [Condition.evaluate_eq] at hnext
    refine List.isChain_cons.2 ⟨?_, (List.isChain_map _).2 hnext⟩
    -- the first condition is evaluated behind the match of the pattern
    rw [List.head?_map]
    intro t ht
    obtain ⟨v, hv, rfl⟩ := Option.map_eq_some_iff.1 ht
    exact (hturn.first v hv).trans (PatternTest.after_of_ok _ hfirst).symm
  · exact .singleton _

/-- Behind a match of the pattern, the chain of conditions gives what the last test does. -/
theorem exists_last_of_matched (conditions : List Condition) {matched : Bindings}
    (h : (r.patternTest path b).result = .ok (true, matched)) :
    ∃ t, (r.tests conditions path b).getLast? = some t ∧
      Condition.chain conditions matched = (t.result.map (·.1), t.after) := by
  rw [tests, h, List.getLast?_cons, Condition.chain, Chain.holds_eq_visits]
  simp only [List.getLast?_map]
  cases (Chain.visits Condition.evaluate Condition.orNext conditions matched).getLast? with
  | none =>
    -- without conditions, the test of the pattern is the last one, and it holds
    refine ⟨r.patternTest path b, rfl, ?_⟩
    rw [PatternTest.after_of_ok _ h, h]
    rfl
  | some v => exact ⟨v.1.patternTest v.2, rfl, Condition.evaluate_eq v.1 v.2⟩

/-- **The last test decides.** The test of a rule gives what the last one of its tests does, and
leaves the groups of this one. But if it does not hold, the groups of rules are those in front of
the rule. -/
theorem exists_last (r : Rule) (conditions : List Condition) (path : Text) (b : Bindings) :
    ∃ t, (r.tests conditions path b).getLast? = some t ∧
      (r.test conditions path b).1 = t.result.map (·.1) ∧
      ∀ (kind : GroupKind) (i : Nat), i < groupLimit →
        (r.test conditions path b).2.get? (.group kind i) =
          (if kind = .rule ∧ t.result.map (·.1) = .ok false then b else t.after).get?
            (.group kind i) := by
  have hresult : (r.patternTest path b).result =
      r.pattern.test (r.has .ignoreCase) .rule path b := rfl
  cases hfirst : (r.patternTest path b).result with
  | error e =>
    refine ⟨r.patternTest path b, by rw [tests, hfirst]; rfl, ?_⟩
    rw [test, ← hresult, hfirst, PatternTest.after, hfirst]
    exact ⟨rfl, fun kind i _ => by simp [Except.map, patternTest]⟩
  | ok tested =>
    obtain ⟨holds, matched⟩ := tested
    cases holds with
    | false =>
      refine ⟨r.patternTest path b, by rw [tests, hfirst]; rfl, ?_⟩
      -- a pattern that does not hold has bound nothing
      obtain rfl : matched = b := PatternTest.eq_before_of_not_holds hfirst
      rw [test, ← hresult, hfirst, PatternTest.after_of_ok _ hfirst]
      exact ⟨rfl, fun kind i _ => by rw [ite_self]⟩
    | true =>
      obtain ⟨t, hlast, hchain⟩ := exists_last_of_matched conditions hfirst
      refine ⟨t, hlast, ?_⟩
      rw [test, ← hresult, hfirst]
      simp only [hchain]
      cases ht : t.result.map (·.1) with
      | error e => exact ⟨rfl, fun kind i _ => by simp⟩
      | ok held =>
        cases held with
        | true => exact ⟨rfl, fun kind i _ => by simp⟩
        | false =>
          -- the conditions fail, and the groups of the rule are put back
          refine ⟨rfl, fun kind i hi => ?_⟩
          cases kind with
          | rule => simp [Bindings.get?_restore, hi]
          | condition =>
            rw [if_neg (by simp)]
            exact Bindings.get?_restore_of_ne (by simp) _

section Preserved

variable {P : Bindings → Prop}
  (hupdate : ∀ (b : Bindings) (kind : GroupKind) (groups : List (Option Text)),
    P b → P (b.update kind groups))
  (h : P b)

include hupdate h

theorem preserved_evaluate (c : Condition) : P (c.evaluate b).2 := by
  rw [Condition.evaluate_eq]
  exact PatternTest.preserved_after hupdate h

/-- What updates of groups preserve holds in front of all tests for a rule, and behind them. -/
theorem preserved_tests : ∀ t ∈ r.tests conditions path b, P t.before ∧ P t.after := by
  have hfirst : P (r.patternTest path b).after := PatternTest.preserved_after hupdate h
  intro t ht
  rcases List.mem_cons.1 ht with rfl | ht
  · exact ⟨h, hfirst⟩
  · -- the conditions begin with the groups of the rule
    split at ht
    · rename_i matched hresult
      rw [PatternTest.after_of_ok _ hresult] at hfirst
      obtain ⟨v, hv, rfl⟩ := List.mem_map.1 ht
      have hvisit := Chain.preserved_of_mem_visits (P := P)
        (fun c _ b hb => preserved_evaluate hupdate hb c) hfirst hv
      rwa [Condition.evaluate_eq] at hvisit
    · -- the pattern fails or does not hold, so that no condition is evaluated
      simp at ht

/-- What updates of groups preserve, and putting back groups, holds behind the test of a rule. -/
theorem preserved_test (hrestore : ∀ b', P b' → P (b'.restore .rule (b.groups .rule))) :
    P (r.test conditions path b).2 := by
  have hfirst : P (r.patternTest path b).after := PatternTest.preserved_after hupdate h
  have hresult : (r.patternTest path b).result = r.pattern.test (r.has .ignoreCase) .rule path b :=
    rfl
  rw [PatternTest.after, hresult] at hfirst
  rw [test]
  split
  · -- an error of the pattern leaves the bindings as they are
    exact h
  · rename_i htest
    rwa [htest] at hfirst
  · rename_i matched htest
    rw [htest] at hfirst
    have hchain : P (Condition.chain conditions matched).2 :=
      Chain.preserved_holds (fun c _ b hb => preserved_evaluate hupdate hb c) hfirst
    split
    · -- the conditions fail, and the groups are put back
      rename_i hfails
      rw [hfails] at hchain
      exact hrestore _ hchain
    · rename_i hresult
      rwa [hresult] at hchain

end Preserved

/-- The tests for a rule change no bindings but those of groups. -/
theorem get?_test {key : Key} (hkey : ∀ kind, ∀ i < groupLimit, .group kind i ≠ key) :
    (r.test conditions path b).2.get? key = b.get? key :=
  preserved_test (P := fun b' => b'.get? key = b.get? key)
    (fun _ kind groups hb => (Bindings.get?_update_of_ne (hkey kind) groups).trans hb) rfl
    (fun _ hb => (Bindings.get?_restore_of_ne (hkey .rule) _).trans hb)

/-- A rule that does not match, or fails, leaves the bindings as its tests do. -/
theorem snd_apply_of_not_matched
    (h : ∀ o, (r.apply conditions path b).1 = .ok o → o.matched = false) :
    (r.apply conditions path b).2 = (r.test conditions path b).2 := by
  rw [apply] at h ⊢
  split
  · rename_i htest
    rw [htest]
  · rename_i htest
    rw [htest]
  · rename_i htest
    rw [htest] at h ⊢
    split
    · -- flags that fail to have effects fail behind the tests
      rfl
    · -- a rule whose flags have effects matches
      rename_i effects heffects
      rw [heffects] at h
      exact absurd (h _ rfl) (by simp [rewrite])

/-- The effects of a rule change no groups, and neither does the query that it sets. -/
theorem get?_group_apply (kind : GroupKind) (i : Nat) :
    (r.apply conditions path b).2.get? (.group kind i) =
      (r.test conditions path b).2.get? (.group kind i) := by
  -- effects set variables, and the query is a server variable, so no group is touched by either
  have heffect : ∀ (b : Bindings) (e : Effect),
      (r.applyEffect b e).get? (.group kind i) = b.get? (.group kind i) := by
    intro b e
    cases e with
    | setEnv name value => exact (Bindings.get?_set _ _ _ _).trans (if_neg (by simp))
    | unsetEnv name => exact (Bindings.get?_unset _ _ _).trans (if_neg (by simp))
    | _ => rfl
  have heffects : ∀ (es : List Effect) (b : Bindings),
      (es.foldl r.applyEffect b).get? (.group kind i) = b.get? (.group kind i) := by
    intro es
    induction es with
    | nil => exact fun _ => rfl
    | cons e es ih => exact fun b => (ih _).trans (heffect b e)
  rw [apply]
  split
  · rename_i htest
    rw [htest]
  · rename_i htest
    rw [htest]
  · rename_i b' htest
    rw [htest]
    split
    · rfl
    · exact (heffects _ _).trans ((Bindings.get?_set _ _ _ _).trans (if_neg (by simp)))

/-! ### Groups at the tests of a rule -/

variable {kind : GroupKind}

/-- Groups are contiguous in front of all tests for a rule, and behind them. -/
theorem contiguous_tests (h : b.Contiguous kind) :
    ∀ t ∈ r.tests conditions path b, t.before.Contiguous kind ∧ t.after.Contiguous kind :=
  preserved_tests (P := (·.Contiguous kind))
    (fun _ matching groups hb => hb.update matching groups) h

/-- Groups are contiguous when a rule has been applied. -/
theorem contiguous_apply (h : b.Contiguous kind) :
    (r.apply conditions path b).2.Contiguous kind := by
  have htest : (r.test conditions path b).2.Contiguous kind :=
    preserved_test (P := (·.Contiguous kind))
      (fun _ matching groups hb => hb.update matching groups) h
      fun _ hb => hb.restore h .rule
  exact htest.congr fun i => get?_group_apply kind i

end Rule

end UrlRewrite
