import UrlRewrite.Proofs.Config.Resolved
import UrlRewrite.Proofs.Site.Separation

/-!
# Requests and blocks for modules

A site answers its requests alike with and without blocks for modules in its configuration. The
scopes that are selected correspond, and resolving a scope changes neither what it is called nor
what it rewrites (`Scope.alike_resolved`, `Scope.rewritesAlike_resolved`): conditions guard the rule
that they guard when nothing but what counts is written.
-/

namespace UrlRewrite

namespace Scope

variable (s : Scope)

theorem alike_resolved : s.Alike s.resolved where
  label := by
    cases s with
    | main m => rfl
    | host h => exact h.alike_resolved.label_eq
  serverName := s.serverName?_resolved

theorem rewritesAlike_resolved : s.RewritesAlike s.resolved where
  sequence := by
    rw [active_resolved, children_resolved, active_eq]
    -- conditions and rules have no inside
    exact Directive.filterMap_resolveAll (fun d => by cases d <;> rfl) s.children
  engineOn := s.engineOn_resolved

/-- **Scopes that say the same**: they go by the same label and name, rewrite alike, and the rules
of the second one, as its directives are written, are guarded as those of the first one. -/
structure SaysSame (s s' : Scope) : Prop extends s.Alike s', s.RewritesAlike s' where
  rules : GuardedRule.group s'.children = s.rules

theorem saysSame_resolved : s.SaysSame s.resolved where
  toAlike := s.alike_resolved
  toRewritesAlike := s.rewritesAlike_resolved
  rules := by rw [← s.rewritesAlike_resolved.rules_eq, rules, active_resolved]

end Scope

namespace Site

/-- The site without blocks for modules in its configuration. -/
def resolved (site : Site) : Site := site.withContext site.context.resolved

theorem scope_resolved (site : Site) (r : Request) :
    site.resolved.scope r = (site.scope r).resolved :=
  site.context.select_resolved _ _ _

/-- **Blocks for modules do not matter** but for what counts of them. With each one replaced by its
children or left out, at every depth and also in virtual hosts, none is left. The same hosts take
part in the selection, the scope that corresponds is selected, every scope says the same, and every
request has the same answer. Nothing is left out of what counts if what counts of it is taken
again. -/
theorem evaluate_resolved (site : Site) :
    Directive.areResolved site.resolved.context.children = true ∧
      site.context.Alike site.resolved.context ∧
      site.resolved.context.virtualHosts = site.context.virtualHosts.map VirtualHost.resolved ∧
      (∀ ip port asked,
        site.resolved.context.select ip port asked = (site.context.select ip port asked).resolved) ∧
      (∀ s : Scope, s.SaysSame s.resolved) ∧
      (∀ now r, site.resolved.evaluate now r = site.evaluate now r) ∧
      ∀ ds, Directive.active (Directive.active ds) = Directive.active ds := by
  refine ⟨Directive.areResolved_resolveAll _, site.context.alike_resolved,
    site.context.virtualHosts_resolved, site.context.select_resolved, Scope.saysSame_resolved,
    fun now r => ?_, Directive.active_active⟩
  -- the answer is that of the scope that corresponds, which says the same
  have hsame : (site.scope r).SaysSame (site.resolved.scope r) := by
    rw [scope_resolved]
    exact (site.scope r).saysSame_resolved
  exact evaluate_withContext hsame.toAlike site.context.serverName?_resolved
    (Scope.run_congr hsame.toRewritesAlike.rules_eq hsame.engineOn)

end Site

end UrlRewrite
