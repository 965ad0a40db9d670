import Mathlib.Data.List.DropRight
import UrlRewrite.Proofs.Config.Resolved
import UrlRewrite.Run.Basic

/-!
# What guards a rule

The rules among directives are grouped with the conditions in front of them. Of the directives that
count, only conditions and rules have a part in it, by their sequence
(`GuardedRule.groupFrom_eq_ofSequence`).

* The groups and the conditions behind the last rule (`Directive.sinceRule`) are a cut of this
  sequence (`GuardedRule.group_partition`), and there is no other one
  (`GuardedRule.group_of_partition`).
* A rule is guarded by all the conditions since the rule in front of it
  (`GuardedRule.group_append`), and conditions without a rule behind them guard nothing
  (`GuardedRule.group_append_of_not_isRule`).

`GuardedRule.GroupsRules` says so of directives with blocks for modules in them, at whatever depth,
and that the blocks do not matter. It holds of all directives (`GuardedRule.groupsRules`).
-/

namespace UrlRewrite

namespace Directive

/-! ### Conditions and rules -/

/-- The condition or the rule that a directive is, if it is one. -/
def rewriting? : Directive → Option (Condition ⊕ Rule)
  | condition c => some (.inl c)
  | rule r => some (.inr r)
  | _ => none

def isRule : Directive → Bool
  | rule _ => true
  | _ => false

/-- The condition that a directive is, if it is one. -/
def condition? : Directive → Option Condition
  | condition c => some c
  | _ => none

/-- A directive that is no rule has a part only as a condition. -/
theorem rewriting?_of_not_isRule {d : Directive} (hd : d.isRule = false) :
    d.rewriting? = d.condition?.map .inl := by
  cases d with
  | rule r => cases hd
  | _ => rfl

/-- The conditions since the last rule among directives. -/
def sinceRule (ds : List Directive) : List Condition :=
  (ds.rtakeWhile fun d => !d.isRule).filterMap condition?

variable (ds : List Directive)

@[simp] theorem sinceRule_nil : sinceRule [] = [] := by simp [sinceRule]

@[simp] theorem sinceRule_concat_rule (r : Rule) : sinceRule (ds ++ [.rule r]) = [] := by
  rw [sinceRule, List.rtakeWhile_concat_neg _ _ _ (by simp [isRule]), List.filterMap_nil]

/-- A directive that is no rule adds its condition, if it is one. -/
theorem sinceRule_concat {d : Directive} (hd : d.isRule = false) :
    sinceRule (ds ++ [d]) = sinceRule ds ++ d.condition?.toList := by
  rw [sinceRule, List.rtakeWhile_concat_pos _ _ _ (by simp [hd]), List.filterMap_append, sinceRule]
  cases h : d.condition? <;> simp [h]

end Directive

namespace GuardedRule

open Directive

/-! ### Sequences -/

/-- The rules in a sequence of conditions and rules, each with the conditions since the rule before
it; `pending` are those already read. -/
def ofSequence (pending : List Condition) : List (Condition ⊕ Rule) → List GuardedRule
  | [] => []
  | .inl c :: rest => ofSequence (pending ++ [c]) rest
  | .inr r :: rest => ⟨pending, r⟩ :: ofSequence [] rest

/-- Directives of other kinds do not come between a rule and its conditions. -/
theorem groupFrom_eq_ofSequence (pending : List Condition) (ds : List Directive) :
    groupFrom pending ds = ofSequence pending (ds.filterMap Directive.rewriting?) := by
  induction ds generalizing pending with
  | nil => rfl
  | cons d ds ih =>
    cases d with
    | condition c => exact ih (pending ++ [c])
    | rule r => exact congrArg (GuardedRule.mk pending r :: ·) (ih [])
    | _ => exact ih pending

/-- The conditions of a guarded rule and the rule. -/
def sequence (g : GuardedRule) : List (Condition ⊕ Rule) := g.conditions.map .inl ++ [.inr g.rule]

/-- Conditions in a sequence wait for the rule behind them. -/
theorem ofSequence_conditions (pending cs : List Condition) (rest : List (Condition ⊕ Rule)) :
    ofSequence pending (cs.map .inl ++ rest) = ofSequence (pending ++ cs) rest := by
  induction cs generalizing pending with
  | nil => rw [List.map_nil, List.nil_append, List.append_nil]
  | cons c cs ih =>
    rw [List.map_cons, List.cons_append, ofSequence, ih, List.append_assoc, List.singleton_append]

/-- A guarded rule is found again in its sequence. -/
theorem ofSequence_sequence (g : GuardedRule) (rest : List (Condition ⊕ Rule)) :
    ofSequence [] (g.sequence ++ rest) = g :: ofSequence [] rest := by
  rw [sequence, List.append_assoc, ofSequence_conditions]
  rfl

/-- Guarded rules are read back from their sequence, whatever conditions follow it. -/
theorem ofSequence_flatMap (gs : List GuardedRule) (idle : List Condition) :
    ofSequence [] (gs.flatMap sequence ++ idle.map .inl) = gs := by
  induction gs with
  | nil =>
    have hidle := ofSequence_conditions [] idle []
    rwa [List.append_nil] at hidle
  | cons g gs ih => rw [List.flatMap_cons, List.append_assoc, ofSequence_sequence, ih]

/-! ### Groups -/

variable {ds : List Directive}

/-- There is one way only to cut the sequence of directives into guarded rules and conditions. -/
theorem group_of_partition {gs : List GuardedRule} {idle : List Condition}
    (h : gs.flatMap sequence ++ idle.map .inl = ds.filterMap rewriting?) : group ds = gs := by
  rw [group, groupFrom_eq_ofSequence, ← h, ofSequence_flatMap]

/-- The sequence of conditions and rules can be cut behind its rules. -/
theorem exists_partition (ds : List Directive) :
    ∃ gs : List GuardedRule,
      gs.flatMap sequence ++ (sinceRule ds).map .inl = ds.filterMap rewriting? := by
  -- a rule that is added at the end takes all the conditions that have been left over
  induction ds using List.reverseRecOn with
  | nil => exact ⟨[], by simp⟩
  | append_singleton ds d ih =>
    obtain ⟨gs, hgs⟩ := ih
    rw [List.filterMap_append, ← hgs]
    cases hd : d.isRule with
    | false =>
      refine ⟨gs, ?_⟩
      rw [sinceRule_concat ds hd, List.map_append, ← List.append_assoc, List.append_cancel_left_eq,
        List.filterMap_cons, rewriting?_of_not_isRule hd]
      cases d.condition? <;> rfl
    | true =>
      obtain ⟨r, rfl⟩ : ∃ r, d = .rule r := by
        cases d with
        | rule r => exact ⟨r, rfl⟩
        | _ => cases hd
      refine ⟨gs ++ [⟨sinceRule ds, r⟩], ?_⟩
      simp [sequence, rewriting?]

/-- The groups and the conditions that are left over are such a cut. -/
theorem group_partition (ds : List Directive) :
    (group ds).flatMap sequence ++ (sinceRule ds).map .inl = ds.filterMap rewriting? := by
  obtain ⟨gs, hgs⟩ := exists_partition ds
  rw [group_of_partition hgs, hgs]

/-- A rule takes the conditions since the last rule, and those behind it start anew. -/
theorem group_append (before : List Directive) (r : Rule) (after : List Directive) :
    group (before ++ .rule r :: after) = group before ++ ⟨sinceRule before, r⟩ :: group after := by
  have hrule :
      (.rule r :: after : List Directive).filterMap rewriting? =
        .inr r :: after.filterMap rewriting? := rfl
  have hcut :
      (group before ++ ⟨sinceRule before, r⟩ :: group after).flatMap sequence ++
        (sinceRule after).map .inl =
      (before ++ .rule r :: after).filterMap rewriting? := by
    rw [List.filterMap_append, hrule, ← group_partition before, ← group_partition after]
    simp [sequence]
  exact group_of_partition hcut

/-- Without rules there are no groups. -/
theorem group_append_of_not_isRule (front : List Directive) {behind : List Directive}
    (h : ∀ d ∈ behind, d.isRule = false) : group (front ++ behind) = group front := by
  have hbehind : behind.filterMap rewriting? = (behind.filterMap condition?).map .inl := by
    rw [List.map_filterMap]
    exact List.filterMap_congr fun d hd => rewriting?_of_not_isRule (h d hd)
  have hcut :
      (group front).flatMap sequence ++ (sinceRule front ++ behind.filterMap condition?).map .inl =
      (front ++ behind).filterMap rewriting? := by
    rw [List.map_append, ← List.append_assoc, group_partition, List.filterMap_append, hbehind]
  exact group_of_partition hcut

/-- **How directives are grouped.** -/
structure GroupsRules (ds : List Directive) : Prop where
  /-- What is grouped is what counts: every directive outside blocks for modules, and what is in
  blocks whose modules are loaded, or in negated ones whose modules are not, at whatever depth. -/
  counts : ∀ counted, Counts ds counted ↔ counted = active ds
  /-- Group by group, the conditions and then the rule, and at last the conditions behind the last
  rule: this is the sequence of the conditions and rules that count. -/
  partition : (group (active ds)).flatMap sequence ++ (sinceRule (active ds)).map .inl =
    (active ds).filterMap rewriting?
  /-- There is no other way to cut it. -/
  only : ∀ gs idle, gs.flatMap sequence ++ idle.map .inl = (active ds).filterMap rewriting? →
    gs = group (active ds) ∧ idle = sinceRule (active ds)
  /-- A rule is guarded by all the conditions since the rule in front of it, and does not come
  between other rules and their conditions. -/
  guarded : ∀ before r after, active ds = before ++ .rule r :: after →
    group (active ds) = group before ++ ⟨sinceRule before, r⟩ :: group after
  /-- What stands behind the last rule guards nothing. -/
  idle : ∀ front behind, active ds = front ++ behind → (∀ d ∈ behind, d.isRule = false) →
    group (active ds) = group front
  /-- Neither virtual hosts nor other directives matter, -/
  alike : ∀ es, (active es).filterMap rewriting? = (active ds).filterMap rewriting? →
    group (active es) = group (active ds)
  /-- nor where blocks for modules begin and end. -/
  blocks : group (active (resolveAll ds)) = group (active ds)

/-- **Rules are grouped with their conditions**, whatever stands among them. -/
theorem groupsRules (ds : List Directive) : GroupsRules ds where
  counts _ := counts_iff
  partition := group_partition (active ds)
  only gs idle h := by
    obtain rfl := group_of_partition h
    rw [← group_partition, List.append_cancel_left_eq] at h
    exact ⟨rfl, List.map_injective_iff.2 (fun _ _ => Sum.inl.inj) h⟩
  guarded before r after h := by rw [h, group_append]
  idle front behind h hbehind := by rw [h, group_append_of_not_isRule front hbehind]
  alike es h := group_of_partition ((group_partition (active ds)).trans h.symm)
  blocks := by
    have hsame :
        (active (resolveAll ds)).filterMap rewriting? = (active ds).filterMap rewriting? := by
      rw [active_resolveAll]
      exact filterMap_resolveAll (fun d => by cases d <;> rfl) ds
    exact group_of_partition ((group_partition (active ds)).trans hsame.symm)

/-- A condition in front of a virtual host and one in a block guard the rule behind them, one in a
block that does not count guards nothing, and the last condition is left over. -/
theorem groupsRules_blocks :
    ∃ m,
      MainContext.read
        ("RewriteCond a ^1\n<VirtualHost *:80>\nRewriteRule ^/ /2\n</VirtualHost>\n" ++
          "<IfModule core.c>\nRewriteCond b ^3\n</IfModule>\n" ++
          "<IfModule absent.c>\nRewriteCond c ^4\n</IfModule>\n" ++
          "RewriteRule ^/ /5\nRewriteCond d ^6\n").toList = .ok m ∧
      GroupsRules m.children ∧
      ((group m.active).map fun g => g.conditions.map (·.subject.source)) =
        [["a".toList, "b".toList]] ∧
      (sinceRule m.active).map (·.subject.source) = ["d".toList] := by
  generalize htext : ("RewriteCond a ^1\n<VirtualHost *:80>\nRewriteRule ^/ /2\n</VirtualHost>\n" ++
    "<IfModule core.c>\nRewriteCond b ^3\n</IfModule>\n" ++
    "<IfModule absent.c>\nRewriteCond c ^4\n</IfModule>\n" ++
    "RewriteRule ^/ /5\nRewriteCond d ^6\n").toList = text
  have hread :
      (MainContext.read text).toOption.map (fun m =>
        (((group m.active).map fun g => g.conditions.map (·.subject.source)),
          (sinceRule m.active).map (·.subject.source))) =
      some ([["a".toList, "b".toList]], ["d".toList]) := by
    subst htext
    decide +kernel
  obtain ⟨m, hm, heq⟩ := Option.map_eq_some_iff.1 hread
  obtain ⟨hgroups, hidle⟩ := Prod.mk.inj heq
  exact ⟨m, eq_ok_of_toOption hm, groupsRules m.children, hgroups, hidle⟩

/-- The first condition stands in front of a virtual host, the second one in a block, and the third
one guards nothing. -/
example (c c' c'' : Condition) (r : Rule) (h : List Directive) :
    group (active [.condition c, .virtualHost .any .any h,
      .ifModule false "core.c".toList [.condition c'], .rule r, .condition c'']) =
      [⟨[c, c'], r⟩] := rfl

end GuardedRule

end UrlRewrite
