import UrlRewrite.Proofs.Run.Uri

/-!
# The URI of a redirect

A rule that redirects escapes the path, unless it carries the flag against this. The query goes its
own way: it is what the rule makes of the one at hand and of the one that the substitution brings,
and it is joined to the path as it is.

So all of the path stands in a URI as it is (`Text.IsUriChar`), and the whole URI does exactly if
the query does (`Site.evaluate_redirect_iff`). Captured text that a substitution puts into the query
need not (`Site.not_isUriChar_of_redirect`).
-/

namespace UrlRewrite

/-- A rule with a redirect among its effects redirects. -/
theorem FlagSet.any_isRedirect {s : FlagSet RuleFlag} {es : List Effect} {code : Nat}
    (hs : s.effects = .ok es) (hredirect : s.redirect? = some code) :
    es.any Rule.isRedirect = true := by
  have hmem : code ∈ es.filterMap Effect.redirect? := by
    rw [filterMap_redirect? hs, hredirect]
    exact List.mem_singleton_self code
  obtain ⟨e, he, hcode⟩ := List.mem_filterMap.1 hmem
  refine List.any_eq_true.2 ⟨e, he, ?_⟩
  cases e <;> cases hcode
  rfl

namespace Rule

variable {r : Rule} {path : Text} {b : Bindings}

/-- The path of a redirect is escaped. -/
theorem path_rewrite_of_redirect {effects : List Effect} (hredirect : effects.any isRedirect = true)
    (hescape : r.has .noEscape = false) :
    (r.rewrite path effects b).1.path = Text.escapeRedirect (r.target path b).1 := by
  simp [rewrite, hredirect, hescape]

theorem query_requery : (r.requery path b).query = r.reconcile (r.target path b).2 b.query := by
  rw [requery, Bindings.query, Bindings.server?_setServer, if_pos rfl]
  rfl

end Rule

/-- The query behind a rule that matches: what it makes of the one at hand. -/
theorem Application.query_after {a : Application} (hm : a.matched = true) :
    a.after.query =
      a.rule.reconcile (a.rule.target a.before.path a.tested).2 a.before.bindings.query := by
  have htested : a.tested.query = a.before.bindings.query := by
    rw [Bindings.query, tested, Rule.server?_test]
    rfl
  rw [after_of_matched hm, Bindings.query, Rule.server?_foldl_applyEffect, requeried,
    ← Bindings.query, Rule.query_requery, htested]

namespace Run

variable {rules : List GuardedRule} {bound : Nat} {r : Run} {as : List Application} {o : Outcome}
  {result : Except EvalError Outcome × Bindings}

/-- A run redirects if the last rule that has matched does, to the path and the query that this rule
has left. -/
theorem Trace.exists_of_redirect {uri : Text} {code : Nat} (h : Trace rules bound r as result)
    (ho : result.1 = .ok o) (hredirect : o.rewrite = .redirect uri code) :
    ∃ m, (as.filter Application.matched).getLast? = some m ∧ m.matched = true ∧
      m.rule.flags.redirect? = some code ∧ uri = joinQuery m.path m.after.query := by
  have hrewrite := h.rewrite_eq ho
  rw [hredirect] at hrewrite
  cases hlast : (as.filter Application.matched).getLast? with
  | none =>
    rw [hlast] at hrewrite
    cases hrewrite
  | some m =>
    have hm : m.matched = true := (List.mem_filter.1 (List.mem_of_getLast? hlast)).2
    rw [hlast, Option.elim_some, FlagSet.verdict] at hrewrite
    -- of all verdicts only one is a redirect
    split at hrewrite
    · cases hrewrite
    · rename_i code' _ hcode
      obtain ⟨rfl, rfl⟩ := Rewrite.redirect.inj hrewrite
      exact ⟨m, rfl, hm, hcode, rfl⟩
    · split_ifs at hrewrite

end Run

namespace Site

variable {site : Site} {now : Moment} {r : Request} {e : Evaluation}

/-- **Redirects.** If evaluating a request ends with a redirect, it is the last rule that has
matched that asks for it. Unless it carries the flag against escaping, its path stands in a URI as
it is; its query is what the rule makes of the one at hand, as it is, and decides whether the whole
URI does. -/
theorem evaluate_redirect_iff (site : Site) (now : Moment) (r : Request) (e : Evaluation)
    (uri : Text) (code : Nat) (h : site.evaluate now r = .ok e)
    (hredirect : e.outcome.rewrite = .redirect uri code) :
    ∃ m, ((site.history now r).filter Application.matched).getLast? = some m ∧
      m.rule.flags.redirect? = some code ∧
      (splitQuery uri).2 =
        m.rule.reconcile (m.rule.target m.before.path m.tested).2 m.before.bindings.query ∧
      (m.rule.has .noEscape = false →
        (splitQuery uri).1.Each Text.IsUriChar ∧
          (uri.Each Text.IsUriChar ↔ (splitQuery uri).2.Each Text.IsUriChar)) := by
  have hon := engineOn_of_redirect h hredirect
  have htrace := Scope.trace hon r site.maxIterations (site.bindings r now)
  obtain ⟨m, hlast, hm, hcode, rfl⟩ := htrace.exists_of_redirect (outcome_of_evaluate h) hredirect
  have hpath : '?' ∉ m.path := by
    have hmem : m ∈ site.history now r := (List.mem_filter.1 (List.mem_of_getLast? hlast)).1
    have hpaths :=
      htrace.paths (P := ('?' ∉ ·)) (fun _ => Application.not_mem_path)
        (not_mem_fst_splitQuery r.uri)
    exact Application.not_mem_path (hpaths.1 m hmem)
  refine ⟨m, hlast, hcode, ?_, fun hescape => ?_⟩
  · rw [splitQuery_joinQuery hpath, Application.query_after hm]
  · have hany := FlagSet.any_isRedirect (Application.effects_of_matched hm) hcode
    have hsafe : m.path.Each Text.IsUriChar := by
      rw [Application.path_of_matched hm, Rule.path_rewrite_of_redirect hany hescape]
      exact Text.each_escapeRedirect _
    have hmark : Text.IsUriChar '?' := by decide
    rw [splitQuery_joinQuery hpath, joinQuery_of_not_mem hpath]
    refine ⟨hsafe, fun huri c hc => huri c ?_, fun hquery c hc => ?_⟩
    · -- a query with a character is joined
      rw [if_neg (List.ne_nil_of_mem hc)]
      exact List.mem_append_right _ (List.mem_cons_of_mem _ hc)
    · rcases List.mem_append.1 hc with hc | hc
      · exact hsafe c hc
      · split at hc
        · cases hc
        · rcases List.mem_cons.1 hc with rfl | hc
          · exact hmark
          · exact hquery c hc

/-- A redirect whose path and query have both been captured from a request. -/
theorem exists_captured :
    ∃ site e m,
      read "RewriteEngine on\nRewriteRule ^/(.*) /s/$1?q=$1 [R]".toList = .ok site ∧
      site.evaluate ⟨2024, 3, 9, 7, 5, 1⟩ { method := "GET".toList, uri := "/<b>".toList } = .ok e ∧
      e.outcome.rewrite = .redirect "/s/%3Cb%3E?q=<b>".toList 302 ∧
      ((site.history ⟨2024, 3, 9, 7, 5, 1⟩ { method := "GET".toList, uri := "/<b>".toList }).filter
        Application.matched).getLast? = some m ∧
      m.rule.has .noEscape = false := by
  obtain ⟨site, e, hread, he, hredirect⟩ := exists_of_evaluated
    "RewriteEngine on\nRewriteRule ^/(.*) /s/$1?q=$1 [R]".toList ⟨2024, 3, 9, 7, 5, 1⟩
    { method := "GET".toList, uri := "/<b>".toList } (.redirect "/s/%3Cb%3E?q=<b>".toList 302)
      (by decide +kernel)
  have hlast :
      (read "RewriteEngine on\nRewriteRule ^/(.*) /s/$1?q=$1 [R]".toList).toOption.map (fun site =>
        ((site.history ⟨2024, 3, 9, 7, 5, 1⟩
          { method := "GET".toList, uri := "/<b>".toList }).filter
            Application.matched).getLast?.map fun m => m.rule.has .noEscape) =
      some (some false) := by
    decide +kernel
  rw [hread] at hlast
  obtain ⟨m, hm, hescape⟩ := Option.map_eq_some_iff.1 (Option.some.inj hlast)
  exact ⟨site, e, m, hread, he, hredirect, hm, hescape⟩

/-- The path of such a redirect stands in a URI as it is, and the query decides. -/
theorem evaluate_redirect_iff_captured :
    ∃ site e,
      read "RewriteEngine on\nRewriteRule ^/(.*) /s/$1?q=$1 [R]".toList = .ok site ∧
      site.evaluate ⟨2024, 3, 9, 7, 5, 1⟩ { method := "GET".toList, uri := "/<b>".toList } = .ok e ∧
      e.outcome.rewrite = .redirect "/s/%3Cb%3E?q=<b>".toList 302 ∧
      Text.Each Text.IsUriChar "/s/%3Cb%3E".toList ∧
      (Text.Each Text.IsUriChar "/s/%3Cb%3E?q=<b>".toList ↔
        Text.Each Text.IsUriChar "q=<b>".toList) := by
  obtain ⟨site, e, m, hread, he, hredirect, hm, hescape⟩ := exists_captured
  obtain ⟨m', hm', -, -, hclean⟩ := evaluate_redirect_iff site _ _ e _ _ he hredirect
  obtain rfl : m' = m := Option.some.inj (hm'.symm.trans hm)
  exact ⟨site, e, hread, he, hredirect, hclean hescape⟩

/-- What has been captured from a request comes into the query of a redirect as it is. -/
theorem not_isUriChar_of_redirect :
    ¬ ∀ (site : Site) (now : Moment) (r : Request) (e : Evaluation) (uri : Text) (code : Nat)
    (m : Application),
      site.evaluate now r = .ok e → e.outcome.rewrite = .redirect uri code →
      ((site.history now r).filter Application.matched).getLast? = some m →
        m.rule.has .noEscape = false →
      uri.Each Text.IsUriChar := by
  intro hall
  obtain ⟨site, e, m, -, he, hredirect, hm, hescape⟩ := exists_captured
  have hbracket : Text.IsUriChar '<' :=
    hall site _ _ e _ 302 m he hredirect hm hescape '<' (by decide)
  revert hbracket
  decide

end Site

end UrlRewrite
