import UrlRewrite.Rule

/-!
# Directives

The tree of directives that a configuration consists of. Blocks for virtual hosts and for modules
hold directives themselves.

A block for a module counts only if the module is loaded, or, when it is negated, if it is not.
`Directive.active` puts the children of such blocks in the place of the blocks, so that the result
holds no block for a module outside virtual hosts. `Directive.Counts` says which directives these
are, block by block, and in which order (`Directive.counts_iff`).
-/

namespace UrlRewrite

/-- What a declaration asks for: anything, or one value. -/
inductive Wildcard (α : Type) where
  | any
  | exactly (a : α)
deriving DecidableEq, Repr

/-- A directive. -/
inductive Directive where
  | serverName (name : Text)
  | rewriteEngine (on : Bool)
  | condition (c : Condition)
  | rule (r : Rule)
  | virtualHost (ip : Wildcard Text) (port : Wildcard Nat) (children : List Directive)
  | ifModule (negated : Bool) (module : Text) (children : List Directive)

/-- The modules that are loaded. -/
def loadedModules : List String :=
  ["mod_rewrite.c", "rewrite_module", "core.c", "mod_alias.c", "alias_module"]

/-- Whether a block for a module counts. -/
def isActiveModule (negated : Bool) (module : Text) : Bool :=
  loadedModules.contains (String.ofList module) != negated

namespace Directive

def kind : Directive → DirectiveKind
  | serverName _ => .serverName
  | rewriteEngine _ => .rewriteEngine
  | condition _ => .rewriteCond
  | rule _ => .rewriteRule
  | virtualHost _ _ _ => .virtualHost
  | ifModule _ _ _ => .ifModule

mutual

/-- The directives that stand for a directive: the active children of a block for a module, else
itself. -/
def flatten : Directive → List Directive
  | .ifModule negated module children =>
    if isActiveModule negated module then active children else []
  | d => [d]

/-- The directives with every block for a module replaced by what counts of it. -/
def active : List Directive → List Directive
  | [] => []
  | d :: ds => flatten d ++ active ds

end

def isModule : Directive → Bool
  | ifModule _ _ _ => true
  | _ => false

/-- **The directives that count**, in the order in which they are written. A block for a module
stands for what counts in it if its module is loaded, or not loaded where the block is negated, and
else for nothing. Every other directive counts itself. -/
inductive Counts : List Directive → List Directive → Prop
  | nil : Counts [] []
  | block {negated : Bool} {module : Text} {children rest inside behind : List Directive}
      (hactive : isActiveModule negated module = true) (hchildren : Counts children inside)
      (hrest : Counts rest behind) :
      Counts (ifModule negated module children :: rest) (inside ++ behind)
  | idleBlock {negated : Bool} {module : Text} {children rest behind : List Directive}
      (hidle : isActiveModule negated module = false) (hrest : Counts rest behind) :
      Counts (ifModule negated module children :: rest) behind
  | other {d : Directive} {rest behind : List Directive} (hd : d.isModule = false)
      (hrest : Counts rest behind) : Counts (d :: rest) (d :: behind)

/-- A directive that is no block stands for itself. -/
theorem flatten_of_not_isModule {d : Directive} (hd : d.isModule = false) : flatten d = [d] := by
  cases d with
  | ifModule => cases hd
  | _ => rfl

/-- What counts is what is active. -/
theorem Counts.eq_active {ds counted : List Directive} (h : Counts ds counted) :
    counted = active ds := by
  induction h with
  | nil => rfl
  | block hactive _ _ ihchildren ihrest =>
    rw [active, flatten, if_pos hactive, ihchildren, ihrest]
  | idleBlock hidle _ ihrest =>
    rw [active, flatten, if_neg (by simp [hidle]), List.nil_append, ihrest]
  | other hd _ ihrest => rw [active, flatten_of_not_isModule hd, List.singleton_append, ihrest]

mutual

/-- What stands for a directive counts in front of what counts behind it. -/
theorem counts_cons_of_counts {rest behind : List Directive} :
    ∀ d : Directive, Counts rest behind → Counts (d :: rest) (flatten d ++ behind)
  | .ifModule negated module children, hrest => by
    rw [flatten]
    split
    · rename_i hactive
      exact .block hactive (counts_active children) hrest
    · rename_i hidle
      exact .idleBlock (Bool.eq_false_iff.2 hidle) hrest
  | .serverName _, hrest | .rewriteEngine _, hrest | .condition _, hrest | .rule _, hrest
  | .virtualHost _ _ _, hrest => .other rfl hrest

/-- What is active counts. -/
theorem counts_active : ∀ ds : List Directive, Counts ds (active ds)
  | [] => .nil
  | d :: ds => counts_cons_of_counts d (counts_active ds)

end

/-- The active directives are those that count, and no others. -/
theorem counts_iff {ds counted : List Directive} : Counts ds counted ↔ counted = active ds := by
  constructor
  · exact Counts.eq_active
  · rintro rfl
    exact counts_active ds

/-- The host that a server name tells, without scheme and port. -/
def hostname (name : Text) : Text :=
  let name := (Text.behindFirst? "://".toList name).getD name
  match name.splitLast ':' with
  | some (host, port) => if port.all Char.isDigit then host else name
  | none => name

/-- The host told by the last server name among directives that all count. -/
def lastServerName? (directives : List Directive) : Option Text :=
  directives.reverse.findSome? fun
    | serverName name => some (hostname name)
    | _ => none

/-- The state of the rewriting engine, off unless switched on last, among directives that all
count. -/
def engineOn (directives : List Directive) : Bool :=
  (directives.reverse.findSome? fun
    | rewriteEngine on => some on
    | _ => none).getD false

end Directive

end UrlRewrite
