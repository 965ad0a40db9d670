import UrlRewrite.Proofs.Config.Position

/-!
# Configurations without blocks for modules

What counts in a configuration can be written without blocks for modules: such a block is replaced
by its children, if it counts, and else left out, at every depth and also in virtual hosts
(`Directive.resolveAll`). No block is left then (`Directive.areResolved_resolveAll`).

The key is that resolving does two things that do not get in each other's way
(`Directive.resolveAll_eq`). One is what `Directive.active` does, and the other one changes
directives inside virtual hosts only. Hence what counts is the same as before but for the inside of
hosts (`Directive.active_resolveAll`), which neither the name of a scope nor its engine depends on,
and resolved hosts are ranked as before (`MainContext.select_resolved`).
-/

namespace UrlRewrite

namespace Directive

mutual

/-- The directives that stand for a directive, without blocks for modules at any depth. -/
def resolve : Directive → List Directive
  | .ifModule negated module children =>
    if isActiveModule negated module then resolveAll children else []
  | .virtualHost ip port children => [.virtualHost ip port (resolveAll children)]
  | d => [d]

/-- Directives with every block for a module replaced by what counts of it, also in virtual
hosts. -/
def resolveAll : List Directive → List Directive
  | [] => []
  | d :: ds => resolve d ++ resolveAll ds

end

mutual

/-- Whether there is no block for a module, at any depth. -/
def isResolved : Directive → Bool
  | .ifModule _ _ _ => false
  | .virtualHost _ _ children => areResolved children
  | _ => true

def areResolved : List Directive → Bool
  | [] => true
  | d :: ds => isResolved d && areResolved ds

end

/-- The directive with its children resolved, if it is a virtual host. -/
def resolveInside : Directive → Directive
  | .virtualHost ip port children => .virtualHost ip port (resolveAll children)
  | d => d

/-! ### What counts -/

mutual

/-- What a directive stands for is no block for a module. -/
theorem isModule_of_mem_flatten {e : Directive} :
    ∀ d : Directive, e ∈ flatten d → e.isModule = false
  | .ifModule negated module children, he => by
    rw [flatten] at he
    split at he
    · exact isModule_of_mem_active children he
    · simp at he
  | .virtualHost _ _ _, he | .serverName _, he | .rewriteEngine _, he | .condition _,
      he | .rule _, he => by
    obtain rfl : e = _ := by simpa [flatten] using he
    rfl

/-- No block for a module counts itself. -/
theorem isModule_of_mem_active {e : Directive} :
    ∀ ds : List Directive, e ∈ active ds → e.isModule = false
  | [], he => by simp [active] at he
  | d :: ds, he => by
    rw [active, List.mem_append] at he
    exact he.elim (isModule_of_mem_flatten d) (isModule_of_mem_active ds)

end

/-- Where no block for a module stands outside virtual hosts, all directives count. -/
theorem active_eq_self {ds : List Directive} (hds : ∀ d ∈ ds, d.isModule = false) :
    active ds = ds := by
  induction ds with
  | nil => rfl
  | cons d ds ih =>
    rw [active, flatten_of_not_isModule (hds d List.mem_cons_self), ih fun e he =>
      hds e (List.mem_cons_of_mem d he)]
    rfl

/-- What counts is all that counts of it. -/
theorem active_active (ds : List Directive) : active (active ds) = active ds :=
  active_eq_self fun _ hd => isModule_of_mem_active ds hd

/-! ### Resolving -/

mutual

/-- Resolving a directive is resolving inside of all that it stands for. -/
theorem resolve_eq : ∀ d : Directive, resolve d = (flatten d).map resolveInside
  | .ifModule negated module children => by
    -- both put the children in the place of the block, or nothing
    rw [resolve, flatten]
    split
    · exact resolveAll_eq children
    · rfl
  | .virtualHost _ _ _ | .serverName _ | .rewriteEngine _ | .condition _ | .rule _ => by
    simp [resolve, flatten, resolveInside]

/-- **Resolving** keeps what counts, and resolves the inside of virtual hosts. -/
theorem resolveAll_eq : ∀ ds : List Directive, resolveAll ds = (active ds).map resolveInside
  | [] => rfl
  | d :: ds => by rw [resolveAll, active, List.map_append, resolve_eq d, resolveAll_eq ds]

end

/-- Resolving inside of a directive does not change whether it is a block for a module. -/
theorem isModule_resolveInside (d : Directive) : (resolveInside d).isModule = d.isModule := by
  cases d <;> rfl

/-- All that is left by resolving counts. -/
theorem active_resolveAll (ds : List Directive) : active (resolveAll ds) = resolveAll ds := by
  refine active_eq_self fun d hd => ?_
  rw [resolveAll_eq] at hd
  obtain ⟨e, he, rfl⟩ := List.mem_map.1 hd
  rw [isModule_resolveInside]
  exact isModule_of_mem_active ds he

theorem areResolved_append (ds es : List Directive) :
    areResolved (ds ++ es) = (areResolved ds && areResolved es) := by
  induction ds with
  | nil => simp [areResolved]
  | cons d ds ih => rw [List.cons_append, areResolved, areResolved, ih, Bool.and_assoc]

mutual

/-- A directive leaves no block for a module when it is resolved. -/
theorem areResolved_resolve : ∀ d : Directive, areResolved (resolve d) = true
  | .ifModule negated module children => by
    rw [resolve]
    split
    · exact areResolved_resolveAll children
    · rfl
  | .virtualHost _ _ children => by
    simp [resolve, areResolved, isResolved, areResolved_resolveAll children]
  | .serverName _ | .rewriteEngine _ | .condition _ | .rule _ => by
    simp [resolve, areResolved, isResolved]

/-- No block for a module is left. -/
theorem areResolved_resolveAll : ∀ ds : List Directive, areResolved (resolveAll ds) = true
  | [] => rfl
  | d :: ds => by
    rw [resolveAll, areResolved_append, areResolved_resolve d, areResolved_resolveAll ds]; rfl

end

/-! ### What does not depend on the inside of hosts -/

section Observation

variable {β : Type} {f : Directive → Option β} (hf : ∀ d, f (resolveInside d) = f d)
    (ds : List Directive)

include hf

/-- What is read off directives, and not off what is inside of them, is the same if they are
resolved. -/
theorem filterMap_resolveAll : (resolveAll ds).filterMap f = (active ds).filterMap f := by
  rw [resolveAll_eq, List.filterMap_map]
  exact List.filterMap_congr fun d _ => hf d

/-- So is what the last directive gives that gives anything. -/
theorem findSome?_resolveAll :
    (resolveAll ds).reverse.findSome? f = (active ds).reverse.findSome? f := by
  rw [resolveAll_eq, ← List.map_reverse, List.findSome?_map]
  exact congrArg (List.findSome? · _) (funext hf)

end Observation

/-- The last name that counts is the same if directives are resolved. -/
theorem lastServerName?_resolveAll (ds : List Directive) :
    lastServerName? (resolveAll ds) = lastServerName? (active ds) :=
  findSome?_resolveAll (fun d => by cases d <;> rfl) ds

theorem engineOn_resolveAll (ds : List Directive) :
    engineOn (resolveAll ds) = engineOn (active ds) :=
  congrArg (Option.getD · false) (findSome?_resolveAll (fun d => by cases d <;> rfl) ds)

end Directive

/-! ### Scopes -/

/-- The host without blocks for modules. -/
def VirtualHost.resolved (h : VirtualHost) : VirtualHost :=
  { h with children := Directive.resolveAll h.children }

/-- The configuration without blocks for modules. -/
def MainContext.resolved (m : MainContext) : MainContext := ⟨Directive.resolveAll m.children⟩

namespace Scope

/-- The scope without blocks for modules. -/
def resolved : Scope → Scope
  | main m => .main m.resolved
  | host h => .host h.resolved

variable (s : Scope)

/-! Hosts and main contexts are alike in what counts in them. -/

theorem active_eq : s.active = Directive.active s.children := by
  cases s <;> rfl

theorem serverName?_eq : s.serverName? = Directive.lastServerName? s.active := by
  cases s <;> rfl

theorem engineOn_eq : s.engineOn = Directive.engineOn s.active := by
  cases s <;> rfl

theorem children_resolved : s.resolved.children = Directive.resolveAll s.children := by
  cases s <;> rfl

/-- All that is written in a resolved scope counts. -/
theorem active_resolved : s.resolved.active = s.resolved.children := by
  rw [active_eq, children_resolved, Directive.active_resolveAll]

theorem serverName?_resolved : s.resolved.serverName? = s.serverName? := by
  rw [serverName?_eq, serverName?_eq, active_resolved, active_eq, children_resolved]
  exact Directive.lastServerName?_resolveAll s.children

theorem engineOn_resolved : s.resolved.engineOn = s.engineOn := by
  rw [engineOn_eq, engineOn_eq, active_resolved, active_eq, children_resolved]
  exact Directive.engineOn_resolveAll s.children

end Scope

/-! ### The selection -/

/-- A resolved host is selected like the host itself. -/
theorem VirtualHost.alike_resolved (h : VirtualHost) : h.Alike h.resolved where
  ip := rfl
  port := rfl
  serverName := (Scope.host h).serverName?_resolved

/-- A host that is resolved inside is the resolved host. -/
theorem Directive.virtualHost?_resolveInside (d : Directive) :
    d.resolveInside.virtualHost? = d.virtualHost?.map VirtualHost.resolved := by
  cases d <;> rfl

namespace MainContext

variable (m : MainContext)

theorem serverName?_resolved : m.resolved.serverName? = m.serverName? :=
  (Scope.main m).serverName?_resolved

/-- The same hosts take part in the selection. -/
theorem virtualHosts_resolved :
    m.resolved.virtualHosts = m.virtualHosts.map VirtualHost.resolved := by
  have hactive : m.resolved.active = Directive.resolveAll m.children :=
    (Scope.main m).active_resolved
  rw [virtualHosts, virtualHosts, hactive, Directive.resolveAll_eq, List.filterMap_map,
    List.map_filterMap]
  exact List.filterMap_congr fun d _ => d.virtualHost?_resolveInside

/-- A resolved configuration selects its hosts like the configuration itself. -/
theorem alike_resolved : m.Alike m.resolved where
  serverName := m.serverName?_resolved
  hosts := by
    rw [m.virtualHosts_resolved, List.forall₂_map_right_iff, List.forall₂_same]
    exact fun h _ => h.alike_resolved

/-- **The scope that corresponds is selected.** -/
theorem select_resolved (ip : Text) (port : Nat) (asked : Option Text) :
    m.resolved.select ip port asked = (m.select ip port asked).resolved := by
  have hranked : m.resolved.ranked ip port asked =
      (m.ranked ip port asked).map (Prod.map id VirtualHost.resolved) := by
    rw [ranked, ranked, virtualHosts_resolved, List.map_map, List.map_map]
    refine List.map_congr_left fun h _ => Prod.ext ?_ rfl
    show m.resolved.rankOf ip port asked h.resolved = m.rankOf ip port asked h
    rw [rankOf, rankOf, serverName?_resolved, h.alike_resolved.rank_eq]
  -- which rank is the best one does not depend on the hosts that have the ranks
  rw [select_eq, select_eq, hranked, HostRank.best?_map]
  cases HostRank.best? (m.ranked ip port asked) with
  | none => rfl
  | some best => rfl

end MainContext

end UrlRewrite
