import UrlRewrite.Proofs.Config.Position
import UrlRewrite.Proofs.Run.Guards
import UrlRewrite.Proofs.Run.Uri

/-!
# Scopes are separate

A request is answered by one scope. This module says that no other scope has a say in the answer:
what hosts hold besides their names does not matter for the selection, and then only the rules of
the selected scope are run.

* Of the directives in a scope, only conditions and rules make its guarded rules, by their sequence,
  so that scopes with the same one have the same rules (`Scope.RewritesAlike.rules_eq`).
* `Site.evaluate_withContext` says that sites on the same server answer alike, if their scopes have
  the same labels, names, engines and rules.
* `Site.evaluate_separated` says it of two configurations that differ in all but the addresses and
  names of their virtual hosts: they select at the same position, and answer alike if they rewrite
  alike there.
-/

namespace UrlRewrite

/-! ### What counts of a scope -/

namespace Scope

variable {s s' : Scope}

/-- **Scopes that rewrite alike**: the same rules and conditions count in them, in the same order,
and the engine is in the same state. -/
structure RewritesAlike (s s' : Scope) : Prop where
  sequence : s'.active.filterMap Directive.rewriting? = s.active.filterMap Directive.rewriting?
  engineOn : s'.engineOn = s.engineOn

instance (s s' : Scope) : Decidable (s.RewritesAlike s') :=
  decidable_of_iff
    (s'.active.filterMap Directive.rewriting? = s.active.filterMap Directive.rewriting? ∧
      s'.engineOn = s.engineOn)
    ⟨fun ⟨sequence, on⟩ => ⟨sequence, on⟩, fun halike => ⟨halike.sequence, halike.engineOn⟩⟩

theorem RewritesAlike.rules_eq (h : s.RewritesAlike s') : s'.rules = s.rules := by
  rw [rules, rules, GuardedRule.group, GuardedRule.group, GuardedRule.groupFrom_eq_ofSequence,
    h.sequence, GuardedRule.groupFrom_eq_ofSequence]

/-- A run is made of the rules and the state of the engine. -/
theorem run_congr (hrules : s'.rules = s.rules) (hon : s'.engineOn = s.engineOn) :
    s'.run = s.run := by
  funext r bound b
  rw [rules, rules] at hrules
  rw [run, run, hrules, hon]

end Scope

/-! ### Requests -/

namespace Site

variable {site : Site} {m : MainContext} {now : Moment} {r : Request}

/-- The site with another configuration. -/
def withContext (site : Site) (m : MainContext) : Site := { site with context := m }

/-- The position of the scope that answers a request. -/
def position? (site : Site) (r : Request) : Option Nat :=
  site.context.position? site.server.ip site.server.port r.host?

/-- Sites on the same server answer alike, if the scopes that answer do. -/
theorem evaluate_withContext (halike : (site.scope r).Alike ((site.withContext m).scope r))
    (hname : m.serverName? = site.context.serverName?)
    (hrun : ((site.withContext m).scope r).run = (site.scope r).run) :
    (site.withContext m).evaluate now r = site.evaluate now r := by
  have hserverName : (site.withContext m).serverName? r = site.serverName? r := by
    rw [serverName?, serverName?, halike.serverName]
    exact congrArg _ hname
  -- the bindings depend on the configuration by that name only
  have hbindings : (site.withContext m).bindings r now = site.bindings r now := by
    rw [bindings, bindings, namedServer, namedServer, hserverName]
    rfl
  rw [evaluate, evaluate, hrun, hbindings, halike.label, hserverName]
  rfl

/-- **Scopes are separate.** If two configurations are selected from alike, a request is answered at
the same position in both. If the scopes at this position rewrite alike, it has the same answer:
neither the rules of other hosts nor, if a host answers, those of the main context have a say in
it. -/
theorem evaluate_separated (site : Site) (m : MainContext) (now : Moment) (r : Request)
    (halike : site.context.Alike m) :
    (site.withContext m).position? r = site.position? r ∧
      site.context.scopeAt? (site.position? r) = some (site.scope r) ∧
      m.scopeAt? (site.position? r) = some ((site.withContext m).scope r) ∧
      ((site.scope r).RewritesAlike ((site.withContext m).scope r) →
        (site.withContext m).evaluate now r = site.evaluate now r) := by
  -- the same host answers, by its place among the hosts, and it is looked up on both sides
  have hposition : (site.withContext m).position? r = site.position? r := halike.position?_eq _ _ _
  have hscope : site.context.scopeAt? (site.position? r) = some (site.scope r) :=
    MainContext.scopeAt?_position?
  have hscope' : m.scopeAt? (site.position? r) = some ((site.withContext m).scope r) := by
    rw [← hposition]
    exact MainContext.scopeAt?_position?
  refine ⟨hposition, hscope, hscope', fun hrewrites => ?_⟩
  exact evaluate_withContext (halike.scopeAt? hscope hscope') halike.serverName
    (Scope.run_congr hrewrites.rules_eq hrewrites.engineOn)

/-- Two configurations with a host that is selected in both, and rewrites alike. Their main contexts
do not: one has rules, and the other one has its engine on. -/
theorem evaluate_separated_host :
    ∃ site m e,
      read
        ("RewriteRule ^ /m\n<VirtualHost *:80>\nRewriteEngine on\nRewriteRule ^/(.) /a$1\n" ++
          "</VirtualHost>").toList = .ok site ∧
      (MainContext.read
        ("<VirtualHost *:80>\nRewriteRule ^/(.) /a$1\nRewriteEngine on\n</VirtualHost>\n" ++
          "RewriteEngine on").toList).toOption = some m ∧
      site.context.Alike m ∧
      (site.withContext m).position? { method := "GET".toList, uri := "/x".toList } = some 0 ∧
      site.evaluate ⟨2024, 3, 9, 7, 5, 1⟩ { method := "GET".toList, uri := "/x".toList } = .ok e ∧
      (site.withContext m).evaluate ⟨2024, 3, 9, 7, 5, 1⟩
        { method := "GET".toList, uri := "/x".toList } = .ok e ∧
      e.outcome.rewrite = .uri "/ax".toList := by
  have hcomputed : ((read
      ("RewriteRule ^ /m\n<VirtualHost *:80>\nRewriteEngine on\nRewriteRule ^/(.) /a$1\n" ++
        "</VirtualHost>").toList).toOption.bind
      fun site => (MainContext.read
        ("<VirtualHost *:80>\nRewriteRule ^/(.) /a$1\nRewriteEngine on\n</VirtualHost>\n" ++
          "RewriteEngine on").toList).toOption.bind
        fun m =>
        (site.evaluate ⟨2024, 3, 9, 7, 5, 1⟩
          { method := "GET".toList, uri := "/x".toList }).toOption.map fun e =>
          (decide (site.context.Alike m),
            site.position? { method := "GET".toList, uri := "/x".toList },
            decide ((site.scope { method := "GET".toList, uri := "/x".toList }).RewritesAlike
              ((site.withContext m).scope { method := "GET".toList, uri := "/x".toList })),
              e.outcome.rewrite)) =
      some (true, some 0, true, .uri "/ax".toList) := by
    decide +kernel
  -- what has been computed, one value after the other
  obtain ⟨site, hread, hcomputed⟩ := Option.bind_eq_some_iff.1 hcomputed
  obtain ⟨m, hm, hcomputed⟩ := Option.bind_eq_some_iff.1 hcomputed
  obtain ⟨e, he, hfacts⟩ := Option.map_eq_some_iff.1 hcomputed
  obtain ⟨halike, hposition, hrewrites, hrewrite⟩ : _ ∧ _ ∧ _ ∧ _ := by
    simpa only [Prod.mk.injEq, decide_eq_true_eq] using hfacts
  have he := eq_ok_of_toOption he
  obtain ⟨hsame, -, -, hevaluate⟩ := evaluate_separated site m ⟨2024, 3, 9, 7, 5, 1⟩
    { method := "GET".toList, uri := "/x".toList } halike
  exact ⟨site, m, e, eq_ok_of_toOption hread, hm, halike, hsame.trans hposition, he,
    (hevaluate hrewrites).trans he, hrewrite⟩

end Site

end UrlRewrite
