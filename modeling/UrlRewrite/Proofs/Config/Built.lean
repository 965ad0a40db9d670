import UrlRewrite.Proofs.Config.Descent
import UrlRewrite.Proofs.Config.Resolved
import UrlRewrite.Proofs.Config.Selection
import UrlRewrite.Proofs.Run.History

/-!
# The rules of a configuration have been built

A rule is a record, and any flags could be put into it. Those of the rules in a configuration have
been read from a text, since nothing but `Rule.build` makes the rules that a configuration is read
into.

`Directive.IsBuilt` says so of a directive with all that is in it. The reader keeps it for the
blocks that are open: every step adds what has been built to one of them (`Reader.isBuilt_of_step`).
So it holds of the main context (`MainContext.isBuilt_of_read`), and of the rules of every scope
(`MainContext.isRead_of_mem_rules`).
-/

namespace UrlRewrite

/-- The flags of the rule have been read from a text. -/
def Rule.IsRead (r : Rule) : Prop := ∃ s, FlagSet.read s = .ok r.flags

/-- Those of a rule that has been built have been. -/
theorem Rule.isRead_of_build {pattern substitution flags : Text} {r : Rule}
    (h : build pattern substitution flags = .ok r) : r.IsRead := by
  obtain ⟨p, -, h⟩ := bind_eq_ok_iff.1 h
  obtain ⟨t, -, h⟩ := bind_eq_ok_iff.1 h
  obtain ⟨read, hread, h⟩ := bind_eq_ok_iff.1 h
  obtain ⟨value, -, h⟩ := bind_eq_ok_iff.1 h
  obtain rfl := Except.ok.inj h
  exact ⟨flags, mapError_eq_ok_iff.1 hread⟩

/-! ### Directives -/

/-- Every rule in the directive has been built from three texts. -/
inductive Directive.IsBuilt : Directive → Prop
  | serverName (name : Text) : IsBuilt (.serverName name)
  | rewriteEngine (on : Bool) : IsBuilt (.rewriteEngine on)
  | condition (c : Condition) : IsBuilt (.condition c)
  | rule {r : Rule} {pattern substitution flags : Text}
      (hbuild : Rule.build pattern substitution flags = .ok r) :
    IsBuilt (.rule r)
  | virtualHost {children : List Directive} (ip : Wildcard Text) (port : Wildcard Nat)
    (hchildren : ∀ d ∈ children, IsBuilt d) : IsBuilt (.virtualHost ip port children)
  | ifModule {children : List Directive} (negated : Bool) (module : Text)
    (hchildren : ∀ d ∈ children, IsBuilt d) : IsBuilt (.ifModule negated module children)

namespace Directive

/-- What counts of a directive has been built with it. -/
theorem IsBuilt.of_mem_flatten {d e : Directive} (h : d.IsBuilt) (he : e ∈ flatten d) :
    e.IsBuilt := by
  -- only a block for a module stands for other directives, which are built by induction
  induction h with
  | ifModule negated module hchildren ih =>
    rw [flatten] at he
    split at he
    · obtain ⟨child, hchild, he⟩ := mem_active_iff.1 he
      exact ih child hchild he
    · cases he
  | serverName name =>
    obtain rfl : e = _ := by simpa [flatten] using he
    exact .serverName name
  | rewriteEngine on =>
    obtain rfl : e = _ := by simpa [flatten] using he
    exact .rewriteEngine on
  | condition c =>
    obtain rfl : e = _ := by simpa [flatten] using he
    exact .condition c
  | rule hbuild =>
    obtain rfl : e = _ := by simpa [flatten] using he
    exact .rule hbuild
  | virtualHost ip port hchildren =>
    obtain rfl : e = _ := by simpa [flatten] using he
    exact .virtualHost ip port hchildren

theorem isBuilt_of_mem_active {ds : List Directive} (h : ∀ d ∈ ds, d.IsBuilt) :
    ∀ d ∈ active ds, d.IsBuilt := by
  intro d hd
  obtain ⟨e, he, hd⟩ := mem_active_iff.1 hd
  exact (h e he).of_mem_flatten hd

end Directive

/-! ### Reading -/

theorem Line.isBuilt_of_read {kind : DirectiveKind} {s rest : Text} {d : Directive}
    (h : read kind s = .ok (some (d, rest))) : d.IsBuilt := by
  -- only a rule has to be built from what is read
  cases read_eq_some_iff.1 h with
  | serverName => exact .serverName _
  | rewriteEngine => exact .rewriteEngine _
  | condition => exact .condition _
  | rule _ hbuild => exact .rule hbuild

theorem Line.isBuilt_of_readAny {kinds : List DirectiveKind} {s rest : Text} {d : Directive}
    (h : readAny s kinds = .ok (some (d, rest))) : d.IsBuilt := by
  induction kinds with
  | nil => simp [readAny] at h
  | cons kind kinds ih =>
    rw [readAny] at h
    split at h
    · exact ih h
    · exact isBuilt_of_read h

namespace Frame

variable {f : Frame} {d : Directive}

/-- All that has been found in the block so far has been built. -/
def IsBuilt (f : Frame) : Prop := ∀ d ∈ f.children, d.IsBuilt

theorem isBuilt_opened (opening : Opening) (s : Text) : (opened opening s).IsBuilt := by
  simp [IsBuilt, opened]

theorem IsBuilt.add (hf : f.IsBuilt) (hd : d.IsBuilt) : (f.add d).IsBuilt :=
  List.forall_mem_cons.2 ⟨hd, hf⟩

/-- The directive that the block becomes has been built as well. -/
theorem IsBuilt.close (hf : f.IsBuilt) (h : f.close = .ok (some d)) : d.IsBuilt := by
  have hchildren : ∀ d ∈ f.children.reverse, d.IsBuilt := fun d hd => hf d (List.mem_reverse.1 hd)
  rw [Frame.close] at h
  split at h
  · cases h
  · rename_i ip port _
    obtain ⟨declared, -, heq⟩ := map_eq_ok_iff.1 h
    obtain rfl := Option.some.inj heq
    exact .virtualHost _ declared hchildren
  · rename_i negated module _
    obtain rfl := Option.some.inj (Except.ok.inj h)
    exact .ifModule negated module hchildren

end Frame

namespace Reader

variable {top top' f : Frame} {outer outer' : List Frame} {s rest : Text}

/-- What a step finds has been built, in whatever block it is put. -/
theorem isBuilt_of_step (h : step top outer s = .ok (.more top' outer' rest))
    (hall : ∀ f ∈ top :: outer, f.IsBuilt) :
    ∀ f ∈ top' :: outer', f.IsBuilt := by
  obtain ⟨htop, houter⟩ := List.forall_mem_cons.1 hall
  cases taken_of_step h with
  | @closed f outer _ _ d hend hclose =>
    obtain ⟨hf, houter⟩ := List.forall_mem_cons.1 houter
    -- the block that has ended becomes a directive of the one around it
    refine List.forall_mem_cons.2 ⟨?_, houter⟩
    cases d with
    | none => exact hf
    | some d => exact hf.add (htop.close hclose)
  | comment => exact hall
  | opened hopen =>
    obtain ⟨kind, -, hopened⟩ := List.exists_of_findSome?_eq_some hopen
    obtain ⟨⟨opening, rest⟩, -, heq⟩ := Option.map_eq_some_iff.1 hopened
    obtain ⟨rfl, -⟩ := Prod.mk.inj heq
    exact List.forall_mem_cons.2 ⟨Frame.isBuilt_opened opening _, hall⟩
  | found hread => exact List.forall_mem_cons.2 ⟨htop.add (Line.isBuilt_of_readAny hread), houter⟩
  | passed hread => exact hall

/-- A block is read to its end with nothing in it but what has been built. -/
theorem Runs.isBuilt (h : Runs f rest top outer s) (hall : ∀ f ∈ top :: outer, f.IsBuilt) :
    f.IsBuilt := by
  -- all frames on the stack are built, which each step keeps
  induction h with
  | ended => exact hall f List.mem_cons_self
  | more hstep _ ih => exact ih (isBuilt_of_step hstep hall)

end Reader

/-! ### Configurations -/

/-- The rules that have been grouped stand among the directives. -/
theorem GuardedRule.rule_mem_of_mem_groupFrom {pending : List Condition} {ds : List Directive}
    {g : GuardedRule} (h : g ∈ groupFrom pending ds) : .rule g.rule ∈ ds := by
  induction ds generalizing pending with
  | nil => cases h
  | cons d ds ih =>
    cases d with
    | rule r =>
      rcases List.mem_cons.1 h with rfl | h
      · exact List.mem_cons_self
      · exact List.mem_cons_of_mem _ (ih h)
    | _ => exact List.mem_cons_of_mem _ (ih h)

/-- The rules of a scope have been read if its directives have been built. -/
theorem Scope.isRead_of_isBuilt {scope : Scope} (h : ∀ d ∈ scope.children, d.IsBuilt) :
    ∀ g ∈ scope.rules, g.rule.IsRead := by
  intro g hg
  have hrule := GuardedRule.rule_mem_of_mem_groupFrom hg
  rw [scope.active_eq] at hrule
  cases Directive.isBuilt_of_mem_active h _ hrule with
  | rule hbuild => exact Rule.isRead_of_build hbuild

namespace MainContext

variable {s : Text} {m : MainContext}

/-- All directives of a configuration that has been read have been built, -/
theorem isBuilt_of_read (h : read s = .ok m) : ∀ d ∈ m.children, d.IsBuilt := by
  obtain ⟨found, hread, rfl⟩ := map_eq_ok_iff.1 h
  obtain ⟨⟨f, rest⟩, hrun, rfl⟩ := map_eq_ok_iff.1
    (hread : (Reader.runAll (Frame.opened .main s) s).map some = .ok found)
  have hf := (Reader.runs_of_run hrun).isBuilt (by simpa using Frame.isBuilt_opened .main s)
  exact fun d hd => hf d (List.mem_reverse.1 hd)

/-- and so have those of the scope that answers a request. -/
theorem isBuilt_select (h : read s = .ok m) (ip : Text) (port : Nat) (asked : Option Text) :
    ∀ d ∈ (m.select ip port asked).children, d.IsBuilt := by
  cases hselect : m.select ip port asked with
  | main n =>
    obtain rfl := eq_of_select_eq_main hselect
    exact isBuilt_of_read h
  | host host =>
    obtain ⟨d, hd, hhost⟩ := List.mem_filterMap.1 (isBest_of_select hselect).mem
    have hbuilt := Directive.isBuilt_of_mem_active (isBuilt_of_read h) d hd
    cases hbuilt with
    | virtualHost ip port hchildren =>
      obtain rfl := Option.some.inj hhost
      exact hchildren
    | _ => cases hhost

/-- **The rules of a configuration have been read**, in every scope of it. -/
theorem isRead_of_mem_rules (h : read s = .ok m) (ip : Text) (port : Nat) (asked : Option Text) :
    ∀ g ∈ (m.select ip port asked).rules, g.rule.IsRead :=
  Scope.isRead_of_isBuilt (isBuilt_select h ip port asked)

end MainContext

end UrlRewrite
