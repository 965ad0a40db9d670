import UrlRewrite.Proofs.Bindings.Seed
import UrlRewrite.Proofs.Run.Verdict
import UrlRewrite.Proofs.Template.Fill

/-!
# What a run renders

The application of a rule renders the subjects of the conditions that are evaluated and, if the rule
matches, its substitution and the value that it sets a variable to (`Application.renderings`). The
first of these are the texts that the tests of the rule are made with (`Application.map_tests`).

A rule sets no server variable but the query (`Rule.server?_apply`), neither when it is applied nor
between the bindings that it renders with. So a variable that is bound when a run begins, and is not
the query, has the same value in all that the run renders. `Run.Shows` collects this, and
`Scope.shows` says it of all requests.
-/

namespace UrlRewrite

/-! ### Renderings of a rule -/

/-- A template that is rendered, with the bindings at hand. -/
structure Rendering where
  template : Template
  bindings : Bindings
  escape : Bool

namespace Rendering

def text (t : Rendering) : Text := t.template.render t.bindings t.escape

/-- The text with a value in place of all references to a server variable. -/
def filled (t : Rendering) (v : ServerVariable) (value : Text) : Text :=
  Piece.renderAll t.bindings t.escape (Piece.fillAll v value t.template.pieces)

end Rendering

namespace Application

variable (a : Application)

/-- The subjects of the conditions that are evaluated. -/
def subjects : List Rendering :=
  match (a.rule.patternTest a.before.path a.before.bindings).result with
  | .ok (true, matched) =>
    (Chain.visits Condition.evaluate Condition.orNext a.guarded.conditions matched).map fun v =>
      ⟨v.1.subject, v.2, false⟩
  | _ => []

/-- All that the rule renders: the subjects of its conditions and, if it matches, its substitution
and the value that it sets a variable to. -/
def renderings : List Rendering :=
  a.subjects ++
    if a.matched then
      (a.rule.substitution.map fun t => ⟨t, a.tested, a.rule.has .escapeGroups⟩).toList ++
        (a.rule.envValue.map fun t => ⟨t, a.requeried, false⟩).toList
    else []

/-- The tests of a rule are made with the path, and then with the subjects of the conditions. -/
theorem map_tests :
    ((a.rule.tests a.guarded.conditions a.before.path a.before.bindings).map fun t =>
      (t.subject, t.before)) =
      (a.before.path, a.before.bindings) :: a.subjects.map fun t => (t.text, t.bindings) := by
  rw [Rule.tests, List.map_cons, subjects]
  refine congrArg _ ?_
  cases (a.rule.patternTest a.before.path a.before.bindings).result with
  | error e => rfl
  | ok tested =>
    obtain ⟨holds, matched⟩ := tested
    cases holds with
    | false => rfl
    | true =>
      simp only [List.map_map]
      rfl

end Application

/-! ### Server variables -/

namespace Rule

variable {r : Rule} {conditions : List Condition} {path : Text} {b : Bindings} {v : ServerVariable}

theorem server?_requery (hv : v ≠ .queryString) : (r.requery path b).server? v = b.server? v := by
  rw [requery, Bindings.server?_setServer, if_neg hv.symm]

/-- **A rule sets no server variable** but the query. -/
theorem server?_apply (hv : v ≠ .queryString) :
    (r.apply conditions path b).2.server? v = b.server? v := by
  have htest : (r.test conditions path b).2.server? v = b.server? v := server?_test v
  rw [apply]
  split
  · rename_i hresult
    rwa [hresult] at htest
  · rename_i hresult
    rwa [hresult] at htest
  · rename_i hresult
    rw [hresult] at htest
    split
    · exact htest
    · -- a rule that matches sets the query, and then has its effects
      exact (server?_foldl_applyEffect _ v).trans ((server?_requery hv).trans htest)

end Rule

namespace Application

variable {a : Application} {v : ServerVariable} {value : Text}

theorem server?_tested (v : ServerVariable) : a.tested.server? v = a.before.bindings.server? v :=
  Rule.server?_test v

theorem server?_requeried (hv : v ≠ .queryString) :
    a.requeried.server? v = a.before.bindings.server? v :=
  (Rule.server?_requery hv).trans (server?_tested v)

/-- The conditions are evaluated with the server variables in front of the rule. -/
theorem server?_of_mem_subjects {t : Rendering} (ht : t ∈ a.subjects) :
    t.bindings.server? v = a.before.bindings.server? v := by
  have hmem : (t.text, t.bindings) ∈
      (a.rule.tests a.guarded.conditions a.before.path a.before.bindings).map fun p =>
        (p.subject, p.before) := by
    rw [map_tests]
    exact List.mem_cons_of_mem _ (List.mem_map_of_mem ht)
  obtain ⟨p, hp, hpair⟩ := List.mem_map.1 hmem
  have hbefore := Rule.preserved_tests (P := fun b => b.server? v = a.before.bindings.server? v)
    (fun _ kind groups hb => (Bindings.get?_update_of_ne (by simp) groups).trans hb) rfl p hp
  have hbindings : p.before = t.bindings := congrArg Prod.snd hpair
  rw [← hbindings]
  exact hbefore.1

/-- All that a rule renders is rendered with the server variables in front of it, but for the
query. -/
theorem server?_of_mem_renderings (hv : v ≠ .queryString) {t : Rendering} (ht : t ∈ a.renderings) :
    t.bindings.server? v = a.before.bindings.server? v := by
  rw [renderings, List.mem_append] at ht
  rcases ht with ht | ht
  · exact server?_of_mem_subjects ht
  · split at ht
    · rw [List.mem_append, Option.mem_toList, Option.mem_toList] at ht
      rcases ht with ht | ht
      · obtain ⟨substitution, -, rfl⟩ := Option.map_eq_some_iff.1 ht
        exact server?_tested v
      · obtain ⟨template, -, rfl⟩ := Option.map_eq_some_iff.1 ht
        exact server?_requeried hv
    · cases ht

end Application

/-! ### Runs -/

/-- **A run that shows a value for a server variable**, from the bindings that it begins with to
those that it ends with. -/
structure Run.Shows (v : ServerVariable) (value : Text) (first : Bindings) (as : List Application)
    (final : Bindings) : Prop where
  /-- The variable has the value when the run begins, -/
  first : first.server? v = some value
  /-- in front of every rule, -/
  before : ∀ a ∈ as, a.before.bindings.server? v = some value
  /-- whenever a template is rendered -/
  bindings : ∀ a ∈ as, ∀ t ∈ a.renderings, t.bindings.server? v = some value
  /-- and when the run ends. -/
  final : final.server? v = some value
  /-- Every reference to the variable renders as the value, wherever it stands in a template. -/
  text : ∀ a ∈ as, ∀ t ∈ a.renderings, t.text = t.filled v value

/-- **A run shows the value that a server variable begins with**, unless it is the query. -/
theorem Scope.shows {v : ServerVariable} {value : Text} (s : Scope) (r : Request) (bound : Nat)
    {b : Bindings} (hv : v ≠ .queryString) (hb : b.server? v = some value) :
    Run.Shows v value b (s.history r bound b) (s.run r bound b).2 := by
  have hall : (∀ a ∈ s.history r bound b, a.before.bindings.server? v = some value) ∧
      (s.run r bound b).2.server? v = some value := by
    cases hon : s.engineOn with
    | true =>
      exact (trace hon r bound b).bindings (P := fun b => b.server? v = some value)
        (fun _ _ _ hb => (Rule.server?_apply hv).trans hb) hb
    | false =>
      -- with the engine off, no rule is applied
      have hoff : ¬ s.engineOn = true := by simp [hon]
      rw [history, run, if_neg hoff, if_neg hoff]
      exact ⟨by simp, hb⟩
  have hbindings : ∀ a ∈ s.history r bound b, ∀ t ∈ a.renderings,
    t.bindings.server? v = some value :=
    fun a ha t ht => (Application.server?_of_mem_renderings hv ht).trans (hall.1 a ha)
  exact
    { first := hb
      before := hall.1
      bindings := hbindings
      final := hall.2
      text := fun a ha t ht => (Piece.renderAll_fillAll (hbindings a ha t ht) _ _).symm }

end UrlRewrite
