import UrlRewrite.Proofs.Bindings.Seed
import UrlRewrite.Proofs.Run.Verdict
import UrlRewrite.Proofs.Text.Percent

/-!
# The URI of a run

Path and query of a URI travel apart: a run hands the path from rule to rule, the query is a server
variable. At the end they are joined. This module says that they can be told apart again, since no
rule leaves a path with a question mark:

* `Rule.not_mem_rewrite` is the step. A substitution is cut at its first question mark, and escaping
  adds none;
* `Run.Trace.paths` carries this, and whatever else rules preserve of paths, along a run;
* `Run.Trace.uri_eq` says that the URI at the end is made of the path and the query that the run has
  come to (`Run.finalPath` and `Bindings.query`).

`Run.EndsAt` collects what follows for the URI, and `Site.evaluate_endsAt` says it of all requests.
-/

namespace UrlRewrite

/-! ### Splitting and joining -/

/-- The query at hand; none is the same as an empty one. -/
def Bindings.query (b : Bindings) : Text := (b.server? .queryString).getD []

/-- A URI without a question mark that nothing follows. -/
def withoutEmptyQuery (uri : Text) : Text :=
  match uri.splitFirst '?' with
  | some (path, []) => path
  | _ => uri

section Query

variable {path uri : Text}

theorem not_mem_fst_splitQuery (uri : Text) : '?' ∉ (splitQuery uri).1 := by
  rw [splitQuery]
  cases hsplit : uri.splitFirst '?' with
  | none => exact Text.splitFirst_eq_none_iff.1 hsplit
  | some parts => exact (Text.eq_append_of_splitFirst hsplit).2

/-- Behind a path without a question mark, a query that is not empty follows the only one that is
added. -/
theorem joinQuery_of_not_mem (h : '?' ∉ path) (query : Text) :
    joinQuery path query = path ++ if query = [] then [] else '?' :: query := by
  cases query <;> simp [joinQuery, h]

/-- A URI that is put together again has lost nothing but an empty query. -/
theorem joinQuery_splitQuery (uri : Text) :
    joinQuery (splitQuery uri).1 (splitQuery uri).2 = withoutEmptyQuery uri := by
  rw [joinQuery_of_not_mem (not_mem_fst_splitQuery uri), splitQuery, withoutEmptyQuery]
  cases hsplit : uri.splitFirst '?' with
  | none => simp
  | some parts =>
    obtain ⟨path, query⟩ := parts
    obtain ⟨rfl, -⟩ := Text.eq_append_of_splitFirst hsplit
    cases query <;> simp

end Query

/-! ### What a rule does to the path -/

namespace Rule

variable {r : Rule} {path : Text} {b : Bindings}

/-- A substitution is rendered and then cut at the first question mark. -/
theorem target_of_substitution {t : Template} (hsub : r.substitution = some t) (path : Text)
    (b : Bindings) :
    r.target path b =
      ((t.render b (r.has .escapeGroups)).splitFirst '?').elim
        (t.render b (r.has .escapeGroups), none) fun parts => (parts.1, some parts.2) := by
  simp only [target, hsub]
  cases (t.render b (r.has .escapeGroups)).splitFirst '?' <;> rfl

/-- The path of a target ends at the first question mark. -/
theorem not_mem_target (h : '?' ∉ path) : '?' ∉ (r.target path b).1 := by
  simp only [target]
  split
  · exact h
  · split
    · rename_i hsplit
      exact (Text.eq_append_of_splitFirst hsplit).2
    · rename_i hsplit
      exact Text.splitFirst_eq_none_iff.1 hsplit

theorem not_mem_rewrite (h : '?' ∉ path) (effects : List Effect) :
    '?' ∉ (r.rewrite path effects b).1.path := by
  have htarget : '?' ∉ (r.target path b).1 := not_mem_target h
  simp only [rewrite]
  split
  · -- a redirect is escaped, and no escape holds a question mark
    exact fun hmem => htarget (Text.mem_of_mem_escapeRedirect (by decide) hmem)
  · exact htarget

end Rule

namespace Application

variable {a : Application}

/-- A rule that does not match leaves the path. -/
theorem path_of_not_matched (hm : a.matched = false) : a.path = a.before.path :=
  (path_and_effects_of_not_matched hm).1

/-- A rule that matches rewrites the path, on the bindings that its tests have left. -/
theorem path_of_matched (hm : a.matched = true) :
    a.path = (a.rule.rewrite a.before.path a.effects a.tested).1.path := by
  obtain ⟨o, hpath, hrewrite⟩ := exists_rewrite_of_matched hm
  rw [hrewrite, hpath]

/-- No rule puts a question mark into the path. -/
theorem not_mem_path (h : '?' ∉ a.before.path) : '?' ∉ a.path := by
  cases hm : a.matched with
  | false => rwa [path_of_not_matched hm]
  | true =>
    rw [path_of_matched hm]
    exact Rule.not_mem_rewrite h a.effects

end Application

/-! ### Paths along a run -/

/-- The URI that a run ends with is the one that it has been asked for with. -/
theorem Control.uri?_of_rewrite? {c : Control} {uri u : Text} {rewrite : Rewrite}
    (h : c.rewrite? uri = some rewrite) (hu : rewrite.uri? = some u) : u = uri := by
  rw [Control.rewrite?] at h
  split at h
  · -- a status has no URI
    obtain rfl := Option.some.inj h
    cases hu
  · obtain rfl := Option.some.inj h
    exact (Option.some.inj hu).symm
  · split_ifs at h <;> obtain rfl := Option.some.inj h <;> exact (Option.some.inj hu).symm

namespace Run

variable {rules : List GuardedRule} {bound : Nat} {r : Run} {as : List Application} {o : Outcome}
  {result : Except EvalError Outcome × Bindings}

/-- The path that a run comes to: the one that the last application has left. -/
def finalPath (path : Text) (as : List Application) : Text := as.getLast?.elim path Application.path

/-- A run that goes on has the path that the rule has left. -/
theorem Move.path_eq {r r' : Run} {g : GuardedRule} (h : Move rules bound r g (.running r')) :
    r'.path = (⟨r, g⟩ : Application).path := by
  rcases h.carries_on with ⟨hm, hpath, -⟩ | ⟨-, -, hpath, -⟩
  · rw [hpath, Application.path_of_not_matched hm]
  · exact hpath

namespace Trace

/-- **What every application preserves of the path holds all along the run.** -/
theorem paths {P : Text → Prop} (hP : ∀ a : Application, P a.before.path → P a.path)
    (h : Trace rules bound r as result) (hr : P r.path) :
    (∀ a ∈ as, P a.before.path) ∧ P (finalPath r.path as) := by
  induction h with
  | exhausted => exact ⟨by simp, hr⟩
  | @ended r g | @failed r g => exact ⟨by simpa using hr, hP ⟨r, g⟩ hr⟩
  | @step r r' g as result hg hmove hrest ih =>
    have hnext : P r'.path := hmove.path_eq ▸ hP ⟨r, g⟩ hr
    obtain ⟨hall, hfinal⟩ := ih hnext
    refine ⟨by simpa using ⟨hr, hall⟩, ?_⟩
    -- without further applications, the path is the one that this one has left
    rw [finalPath, List.getLast?_cons]
    cases hlast : as.getLast? with
    | none => exact hP ⟨r, g⟩ hr
    | some a => simpa [finalPath, hlast] using hfinal

/-- The URI at the end is made of the path and the query that the run has come to. -/
theorem uri_eq {uri : Text} (h : Trace rules bound r as result) (ho : result.1 = .ok o)
    (huri : o.rewrite.uri? = some uri) : uri = joinQuery (finalPath r.path as) result.2.query := by
  -- the last application that matched decides, which is behind the first step if there is one
  induction h with
  | exhausted =>
    rw [← Except.ok.inj ho] at huri
    exact (Option.some.inj huri).symm
  | failed => cases ho
  | @ended r g o' b hg hmove =>
    obtain rfl := Except.ok.inj ho
    obtain ⟨-, hrewrite, -⟩ := hmove.ended_eq
    exact Control.uri?_of_rewrite? hrewrite huri
  | @step r r' g as result hg hmove hrest ih =>
    rw [ih ho, finalPath, finalPath, List.getLast?_cons]
    cases as.getLast? with
    | none => exact congrArg (joinQuery · result.2.query) hmove.path_eq
    | some a => rfl

/-- A run in which no rule matches ends with the URI that it has begun with. -/
theorem uri_eq_of_not_matched {uri : Text} (h : Trace rules bound r as result)
    (ho : result.1 = .ok o) (huri : o.rewrite.uri? = some uri) (hm : ∀ a ∈ as, a.matched = false) :
    uri = joinQuery r.path r.bindings.query := by
  have hnone : as.filter Application.matched = [] := by simpa using hm
  rw [h.rewrite_eq ho, hnone] at huri
  exact (Option.some.inj huri).symm

end Trace

/-- **The URI that a run ends with**, which has begun with the URI `first`. -/
structure EndsAt (first : Text) (as : List Application) (final : Bindings) (uri : Text) : Prop where
  /-- No rule is applied to a path with a question mark. -/
  paths : ∀ a ∈ as, '?' ∉ a.before.path
  /-- The parts of the URI are the path and the query that the run has come to. -/
  split : splitQuery uri = (finalPath (splitQuery first).1 as, final.query)
  /-- They are joined by a question mark, unless there is no query. -/
  joined :
    uri = finalPath (splitQuery first).1 as ++ if final.query = [] then [] else '?' :: final.query
  /-- Without any match the URI is what it was, but for an empty query. -/
  unmatched : (∀ a ∈ as, a.matched = false) → uri = withoutEmptyQuery first

theorem Trace.endsAt {first uri : Text} (h : Trace rules bound r as result) (ho : result.1 = .ok o)
    (huri : o.rewrite.uri? = some uri) (hpath : r.path = (splitQuery first).1)
    (hquery : r.bindings.query = (splitQuery first).2) : EndsAt first as result.2 uri := by
  have hfirst : '?' ∉ r.path := hpath ▸ not_mem_fst_splitQuery first
  obtain ⟨hall, hfinal⟩ := h.paths (P := ('?' ∉ ·)) (fun _ => Application.not_mem_path) hfirst
  have hjoin := h.uri_eq ho huri
  refine ⟨hall, ?_, ?_, fun hm => ?_⟩
  · rw [hjoin, splitQuery_joinQuery hfinal, hpath]
  · rw [hjoin, joinQuery_of_not_mem hfinal, hpath]
  · rw [h.uri_eq_of_not_matched ho huri hm, hpath, hquery, joinQuery_splitQuery]

end Run

/-! ### Requests -/

namespace Site

/-- The applications of rules that evaluating a request causes. -/
def history (site : Site) (now : Moment) (r : Request) : List Application :=
  (site.scope r).history r site.maxIterations (site.bindings r now)

/-- The bindings at the end of evaluating a request. -/
def finalBindings (site : Site) (now : Moment) (r : Request) : Bindings :=
  ((site.scope r).run r site.maxIterations (site.bindings r now)).2

variable {site : Site} {now : Moment} {r : Request} {e : Evaluation}

/-- A request that is evaluated has run to its end. -/
theorem outcome_of_evaluate (h : site.evaluate now r = .ok e) :
    ((site.scope r).run r site.maxIterations (site.bindings r now)).1 = .ok e.outcome := by
  rw [evaluate] at h
  split at h
  · cases h
  · rename_i o b hrun
    obtain rfl := Except.ok.inj h
    rw [hrun]

/-- Only a run of rules redirects. -/
theorem engineOn_of_redirect {uri : Text} {code : Nat} (h : site.evaluate now r = .ok e)
    (hredirect : e.outcome.rewrite = .redirect uri code) : (site.scope r).engineOn = true := by
  have hrun := outcome_of_evaluate h
  rw [Scope.run] at hrun
  split at hrun
  · assumption
  · -- with the engine off, the request keeps its URI
    rw [← Except.ok.inj hrun] at hredirect
    cases hredirect

/-- A site that can be read, and evaluates a request as has been computed. -/
theorem exists_of_evaluated (text : Text) (now : Moment) (r : Request) (rewrite : Rewrite)
    (h : ((read text).toOption.bind fun site =>
      (site.evaluate now r).toOption.map (·.outcome.rewrite)) =
      some rewrite) :
    ∃ site e, read text = .ok site ∧ site.evaluate now r = .ok e ∧ e.outcome.rewrite = rewrite := by
  obtain ⟨site, hread, hrest⟩ := Option.bind_eq_some_iff.1 h
  obtain ⟨e, he, hrewrite⟩ := Option.map_eq_some_iff.1 hrest
  exact ⟨site, e, eq_ok_of_toOption hread, eq_ok_of_toOption he, hrewrite⟩

/-- **The URI of a request.** If evaluating a request gives a URI, its parts are the path and the
query that the rules have left, and no rule has been applied to a path with a question mark. -/
theorem evaluate_endsAt (site : Site) (now : Moment) (r : Request) (e : Evaluation) (uri : Text)
    (hon : (site.scope r).engineOn = true) (h : site.evaluate now r = .ok e)
    (huri : e.outcome.rewrite.uri? = some uri) :
    Run.EndsAt r.uri (site.history now r) (site.finalBindings now r) uri := by
  have htrace := Scope.trace hon r site.maxIterations (site.bindings r now)
  refine htrace.endsAt (outcome_of_evaluate h) huri rfl ?_
  -- the run begins with the query of the request
  rw [Run.start, Bindings.query, bindings, Bindings.server?_ofRequest_query]
  rfl

/-- A substitution with a query, in front of the one of the request. -/
theorem evaluate_endsAt_redirect :
    ∃ site e,
      Site.read "RewriteEngine on\nRewriteRule ^/(.*) /b?c=$1 [QSA,R]".toList = .ok site ∧
      site.evaluate ⟨2024, 3, 9, 7, 5, 1⟩ { method := "GET".toList, uri := "/a?d?e".toList } =
        .ok e ∧
      Run.EndsAt "/a?d?e".toList
        (site.history ⟨2024, 3, 9, 7, 5, 1⟩ { method := "GET".toList, uri := "/a?d?e".toList })
        (site.finalBindings ⟨2024, 3, 9, 7, 5, 1⟩
          { method := "GET".toList, uri := "/a?d?e".toList })
        "/b?c=a&d?e".toList := by
  obtain ⟨site, e, hread, he, hredirect⟩ := exists_of_evaluated
    "RewriteEngine on\nRewriteRule ^/(.*) /b?c=$1 [QSA,R]".toList ⟨2024, 3, 9, 7, 5, 1⟩
    { method := "GET".toList, uri := "/a?d?e".toList } (.redirect "/b?c=a&d?e".toList 302)
      (by decide +kernel)
  refine ⟨site, e, hread, he, ?_⟩
  exact evaluate_endsAt site _ _ e _ (engineOn_of_redirect he hredirect) he
    (by rw [hredirect, Rewrite.uri?])

end Site

end UrlRewrite
