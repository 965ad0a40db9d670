import Mathlib.Order.Bounds.Defs
import UrlRewrite.Proofs.Run.History

/-!
# The order of a run

Three mechanisms move a run along its rules. A rule that does not match takes the rest of its chain
with it, a rule that matches may skip some of those behind it, and a rule may restart the run. This
module says which rule a run applies after which.

* `Run.GoesOn` says where a run goes on behind an application, in each case that there is: the rule
  may have missed, advanced the run, restarted it, overrun its bound, ended the run, or failed.
* `Run.AppliesInOrder` says that a history begins with the first rule, and goes on like that at
  every point.
* `Scope.history_inOrder` says that all histories do, and that chains are all or nothing if no rule
  skips others.

A chain is all or nothing (`Run.KeepsChains`) since without skips only the match of a rule leads to
the rule behind it, if the two are chained: a miss leads behind the chain, and a restart to the
first rule, which is chained to none before it. So the rules of a chain in front of a rule have been
applied directly before it, by induction on how many they are.
-/

namespace UrlRewrite

namespace Run

/-! ### The rule behind a chain -/

/-- The positions behind a rule that are not inside its chain: those past the end, and those behind
a rule that is not chained. -/
def behindChain (rules : List GuardedRule) (i : Nat) : Set Nat :=
  {k | i < k ∧ (rules.length ≤ k ∨ ∃ g, rules[k - 1]? = some g ∧ g.rule.isChained = false)}

/-- As many elements are taken as there are in front of the first one that is not taken. -/
theorem length_takeWhile_eq_findIdx {α : Type} (p : α → Bool) (l : List α) :
    (l.takeWhile p).length = l.findIdx (!p ·) := by
  rw [List.takeWhile_eq_take_findIdx_not, List.length_take]
  exact Nat.min_eq_left List.findIdx_le_length

/-- Behind a rule that misses, the run goes on at the first position that is not inside its
chain. -/
theorem isLeast_afterMiss {rules : List GuardedRule} {i : Nat} (hi : i < rules.length) :
    IsLeast (behindChain rules i) (afterMiss rules i) := by
  obtain ⟨chained, hchained⟩ : ∃ n, n = (rules.drop i).findIdx fun g => !g.rule.isChained :=
    ⟨_, rfl⟩
  have hafter : afterMiss rules i = i + 1 + min chained (rules.length - (i + 1)) := by
    rw [afterMiss, length_takeWhile_eq_findIdx, hchained]
  refine ⟨⟨lt_afterMiss rules i, ?_⟩, ?_⟩
  · -- either all the rules from here on are chained, or there is a first one that is not
    by_cases hend : chained < (rules.drop i).length
    · have hrule := List.findIdx_getElem (w := hchained ▸ hend)
      rw [List.length_drop] at hend
      refine Or.inr ⟨(rules.drop i)[chained], ?_, by simpa [hchained] using hrule⟩
      rw [hafter, List.getElem_drop, List.getElem?_eq_some_iff]
      exact ⟨by omega, by congr 1; omega⟩
    · rw [List.length_drop] at hend
      exact Or.inl (by omega)
  · -- all rules in front of that one are chained, so that the positions behind them are inside
    -- the chain
    rintro k ⟨hik, hk⟩
    rw [hafter]
    refine Nat.le_of_not_lt fun hlt => ?_
    rcases hk with hk | ⟨g, hg, hfree⟩
    · -- the chain does not reach past the end
      omega
    · have hat : (rules.drop i)[k - 1 - i]? = some g := by
        rw [List.getElem?_drop, ← hg]
        congr 1
        omega
      obtain ⟨hbound, rfl⟩ := List.getElem?_eq_some_iff.1 hat
      have hrule := List.not_of_lt_findIdx (hchained ▸ (by omega : k - 1 - i < chained))
      simp only [hfree, Bool.not_false, reduceCtorEq] at hrule

/-! ### Where a run goes on -/

/-- The position of a rule; there is none past the end. -/
def positionIn (rules : List GuardedRule) (k : Nat) : Option Nat :=
  if k < rules.length then some k else none

/-- **Where a run goes on.** `next` is the position of the rule that is applied next, if one is. -/
structure GoesOn (rules : List GuardedRule) (bound : Nat) (a : Application) (next : Option Nat) :
    Prop where
  /-- Behind a rule that misses, it is the first position that is not inside the chain of the
  rule. -/
  missed : a.missed = true → ∃ k, IsLeast (behindChain rules a.index) k ∧ next = positionIn rules k
  /-- Behind a rule that matches without ending or restarting the run, it is that behind the rules
  to skip. -/
  advanced : a.matched = true → a.ends = false → a.asksRestart = false →
    next = positionIn rules (a.index + 1 + a.rule.flags.skip)
  /-- A restart begins with the first rule. -/
  restarted : a.asksRestart = true → a.before.restarts < a.restartBound bound →
    next = positionIn rules 0
  /-- A rule that may not restart the run any more is the last one. -/
  overrun : a.asksRestart = true → a.restartBound bound ≤ a.before.restarts → next = none
  /-- So is one that ends the run. -/
  ended : a.ends = true → next = none
  /-- And one that fails. -/
  failed : a.missed = false → a.matched = false → next = none

/-- **The order of a history.** -/
structure AppliesInOrder (rules : List GuardedRule) (bound : Nat) (as : List Application) :
    Prop where
  /-- Each application is that of the rule at its position. -/
  rule_at : ∀ a ∈ as, rules[a.index]? = some a.guarded
  /-- The first rule is applied first. -/
  starts : as.head?.map Application.index = positionIn rules 0
  goes_on : ∀ before a after, as = before ++ a :: after →
    GoesOn rules bound a (after.head?.map Application.index)

variable {rules : List GuardedRule} {bound : Nat} {r : Run} {as : List Application}
  {result : Except EvalError Outcome × Bindings}

/-- The first application is that of the rule at the position of the run. -/
theorem Trace.head?_index (h : Trace rules bound r as result) :
    as.head?.map Application.index = positionIn rules r.index := by
  rw [h.head?, positionIn]
  split
  · rename_i hlt
    rw [List.getElem?_eq_getElem hlt]
    rfl
  · rename_i hge
    rw [List.getElem?_eq_none (by omega)]
    rfl

section Fate

variable {a : Application}

/-! One case after the other: what an application has done excludes the premises of all other
fields. -/

/-- Behind a rule that misses, a run goes on behind its chain. -/
theorem GoesOn.of_missed (hmiss : a.missed = true) {k : Nat}
    (hk : IsLeast (behindChain rules a.index) k) :
    GoesOn rules bound a (positionIn rules k) :=
  have hmatch := Application.not_matched_of_missed hmiss
  have hrestart := Application.not_asksRestart_of_not_matched hmatch
  { missed := fun _ => ⟨k, hk, rfl⟩
    advanced := by simp [hmatch]
    restarted := by simp [hrestart]
    overrun := by simp [hrestart]
    ended := by simp [Application.not_ends_of_not_matched hmatch]
    failed := by simp [hmiss] }

/-- Behind a rule that matches and neither ends nor restarts the run, it goes on as far as the rule
skips. -/
theorem GoesOn.of_advanced (hmatch : a.matched = true) (hends : a.ends = false)
    (hrestart : a.asksRestart = false) :
    GoesOn rules bound a (positionIn rules (a.index + 1 + a.rule.flags.skip)) where
  missed := by simp [Application.not_missed_of_matched hmatch]
  advanced := fun _ _ _ => rfl
  restarted := by simp [hrestart]
  overrun := by simp [hrestart]
  ended := by simp [hends]
  failed := by simp [hmatch]

/-- A run that is restarted goes on at the first rule. -/
theorem GoesOn.of_restarted (hrestart : a.asksRestart = true)
    (hlt : a.before.restarts < a.restartBound bound) :
    GoesOn rules bound a (positionIn rules 0) :=
  have ⟨hmatch, hends, _⟩ := Application.asksRestart_iff.1 hrestart
  { missed := by simp [Application.not_missed_of_matched hmatch]
    advanced := by simp [hrestart]
    restarted := fun _ _ => rfl
    overrun := fun _ hle => absurd hlt (Nat.not_lt.2 hle)
    ended := by simp [hends]
    failed := by simp [hmatch] }

theorem GoesOn.of_overrun (hrestart : a.asksRestart = true)
    (hle : a.restartBound bound ≤ a.before.restarts) :
    GoesOn rules bound a none :=
  have ⟨hmatch, _⟩ := Application.asksRestart_iff.1 hrestart
  { missed := by simp [Application.not_missed_of_matched hmatch]
    advanced := by simp [hrestart]
    restarted := fun _ hlt => absurd hle (Nat.not_le.2 hlt)
    overrun := fun _ _ => rfl
    ended := fun _ => rfl
    failed := fun _ _ => rfl }

theorem GoesOn.of_ended (hmatch : a.matched = true) (hends : a.ends = true) :
    GoesOn rules bound a none where
  missed := by simp [Application.not_missed_of_matched hmatch]
  advanced := by simp [hends]
  restarted := by simp [Application.not_asksRestart_of_ends hends]
  overrun := fun _ _ => rfl
  ended := fun _ => rfl
  failed := fun _ _ => rfl

theorem GoesOn.of_failed (hmiss : a.missed = false) (hmatch : a.matched = false) :
    GoesOn rules bound a none where
  missed := by simp [hmiss]
  advanced := by simp [hmatch]
  restarted := by simp [Application.not_asksRestart_of_not_matched hmatch]
  overrun := fun _ _ => rfl
  ended := fun _ => rfl
  failed := fun _ _ => rfl

end Fate

/-- A move says where the run goes on. -/
theorem Move.goesOn {g : GuardedRule} {r' : Run} (hg : rules[r.index]? = some g)
    (h : Move rules bound r g (.running r')) :
    GoesOn rules bound ⟨r, g⟩ (positionIn rules r'.index) := by
  cases h with
  | missed happly hmissed =>
    have hmiss : (⟨r, g⟩ : Application).missed = true := by
      rw [Application.missed_of_apply happly, hmissed, Bool.not_false]
    obtain ⟨hlt, -⟩ := List.getElem?_eq_some_iff.1 hg
    exact .of_missed hmiss (isLeast_afterMiss hlt)
  | restarted happly hmatched hrewrite hnext hbound =>
    -- the bound of the move is that of the application
    have hmost := Application.restartBound_eq (a := ⟨r, g⟩) hnext bound
    exact .of_restarted (Application.asksRestart_of_next happly hmatched hrewrite hnext)
      (hmost ▸ hbound)
  | advanced happly hmatched hrewrite hnext =>
    exact .of_advanced (a := ⟨r, g⟩) ((Application.matched_of_apply happly).trans hmatched)
      (Application.not_ends_of_rewrite happly hmatched hrewrite)
        (Application.not_asksRestart_of_next hnext)

/-- A move that ends the run lets nothing follow. -/
theorem Move.goesOn_over {g : GuardedRule} {p : Progress} (h : Move rules bound r g p)
    (hover : ∀ r', p ≠ .running r') : GoesOn rules bound ⟨r, g⟩ none := by
  cases h with
  | failed happly =>
    obtain ⟨hmatch, hmiss⟩ := Application.not_matched_of_error happly
    exact .of_failed hmiss hmatch
  | ended happly hmatched hrewrite =>
    exact .of_ended ((Application.matched_of_apply happly).trans hmatched)
      (Application.ends_of_rewrite happly hmatched hrewrite)
  | overrun happly hmatched hrewrite hnext hbound =>
    have hmost := Application.restartBound_eq (a := ⟨r, g⟩) hnext bound
    exact .of_overrun (Application.asksRestart_of_next happly hmatched hrewrite hnext)
      (hmost ▸ hbound)
  | missed => exact absurd rfl (hover _)
  | restarted => exact absurd rfl (hover _)
  | advanced => exact absurd rfl (hover _)

/-- A complete run goes on behind its first application as it should. -/
theorem Trace.goesOn {a : Application} {after : List Application}
    (h : Trace rules bound r (a :: after) result) :
    GoesOn rules bound a (after.head?.map Application.index) := by
  cases h with
  | ended hg hmove => exact hmove.goesOn_over (by simp)
  | failed hg hmove => exact hmove.goesOn_over (by simp)
  | step hg hmove hrest =>
    -- the rest begins with the rule that the move leads to
    rw [hrest.head?_index]
    exact hmove.goesOn hg

/-- Every application is that of the rule at its position. -/
theorem Trace.rule_at (h : Trace rules bound r as result) :
    ∀ a ∈ as, rules[a.index]? = some a.guarded := by
  induction h with
  | exhausted => simp
  | ended hg => simpa [Application.index] using hg
  | failed hg => simpa [Application.index] using hg
  | step hg hmove hrest ih => simpa using ⟨hg, ih⟩

/-- Complete runs apply rules in order. -/
theorem Trace.appliesInOrder {path : Text} {b : Bindings}
    (h : Trace rules bound (start path b) as result) :
    AppliesInOrder rules bound as where
  rule_at := h.rule_at
  starts := h.head?_index
  goes_on := by
    rintro before a after rfl
    -- at any point, the rest is a complete run, of which this is the first application
    exact h.suffix.goesOn

/-! ### Chains -/

/-- Whether the rule at a position is chained to the one behind it. -/
def ChainedAt (rules : List GuardedRule) (k : Nat) : Prop :=
  ∃ g, rules[k]? = some g ∧ g.rule.isChained = true

/-- **Chains are all or nothing.** A rule behind chained rules, from the position `first` on, is
applied only directly after all these have been applied, in their order, and each has matched. -/
def KeepsChains (rules : List GuardedRule) (as : List Application) : Prop :=
  ∀ before a after, as = before ++ a :: after →
    ∀ first ≤ a.index, (∀ k, first ≤ k → k < a.index → ChainedAt rules k) →
      ∃ earlier stretch, before = earlier ++ stretch ∧
        stretch.map Application.index = List.range' first (a.index - first) ∧
        ∀ c ∈ stretch, c.matched = true

theorem eq_of_positionIn {k n : Nat} (h : some n = positionIn rules k) :
    n = k ∧ k < rules.length := by
  simp only [positionIn] at h
  split at h
  · rename_i hlt
    exact ⟨Option.some.inj h, hlt⟩
  · simp at h

/-- Without the flag for it, nothing is skipped. -/
theorem skip_eq_zero {s : FlagSet RuleFlag} (h : s.contains RuleFlag.Kind.skip = false) :
    s.skip = 0 := by
  have hnone : s.find? RuleFlag.Kind.skip = none := by simpa [FlagSet.contains] using h
  simp only [FlagSet.skip, hnone]

/-- Without skips, only the match of a chained rule leads to the rule behind it. -/
theorem GoesOn.of_chainedAt {c : Application} {n : Nat} (h : GoesOn rules bound c (some (n + 1)))
    (hn : ChainedAt rules n) (hskip : c.rule.has .skip = false) :
    c.matched = true ∧ c.index = n := by
  have hnot_end : c.ends = false := Bool.eq_false_iff.2 fun hends => by simpa using h.ended hends
  have hnot_restart : c.asksRestart = false := Bool.eq_false_iff.2 fun hrestart => by
    -- a restart leads to the first rule, if anywhere
    rcases Nat.lt_or_ge c.before.restarts (c.restartBound bound) with hlt | hle
    · exact absurd (eq_of_positionIn (h.restarted hrestart hlt)).1 (Nat.succ_ne_zero n)
    · simpa using h.overrun hrestart hle
  have hnot_miss : c.missed = false := Bool.eq_false_iff.2 fun hmiss => by
    -- a miss leads behind a rule that is not chained
    obtain ⟨k, ⟨⟨-, hk⟩, -⟩, hnext⟩ := h.missed hmiss
    obtain ⟨rfl, hlt⟩ := eq_of_positionIn hnext
    rcases hk with hk | ⟨g, hg, hfree⟩
    · exact absurd hlt (Nat.not_lt.2 hk)
    · obtain ⟨g', hg', hchained⟩ := hn
      obtain rfl : g' = g := Option.some.inj (hg'.symm.trans hg)
      simp [hchained] at hfree
  have hmatch : c.matched = true := by
    refine Bool.not_eq_false _ ▸ fun hmatch => ?_
    simpa using h.failed hnot_miss hmatch
  -- only the advance is left, which skips nothing
  obtain ⟨hindex, -⟩ := eq_of_positionIn (h.advanced hmatch hnot_end hnot_restart)
  have hzero : c.rule.flags.skip = 0 := skip_eq_zero hskip
  exact ⟨hmatch, by omega⟩

/-- If no rule skips others, a history in order keeps chains. -/
theorem AppliesInOrder.keepsChains (h : AppliesInOrder rules bound as)
    (hskip : ∀ g ∈ rules, g.rule.has .skip = false) : KeepsChains rules as := by
  intro before a after has first hfirst hchained
  obtain ⟨n, hn⟩ : ∃ n, a.index = first + n := ⟨a.index - first, by omega⟩
  -- the induction is on the number of chained rules in front of the rule
  induction n generalizing before a after with
  | zero =>
    -- the stretch is empty
    exact ⟨before, [], by simp, by simp [hn], by simp⟩
  | succ n ih =>
    rcases List.eq_nil_or_concat before with rfl | ⟨before', c, rfl⟩
    · -- nothing is chained to the first rule
      have hstart := h.starts
      rw [has] at hstart
      have := (eq_of_positionIn hstart).1
      omega
    · have has' : as = before' ++ c :: (a :: after) := by simp [has]
      have hgoes := h.goes_on before' c (a :: after) has'
      have hc := h.rule_at c (by simp [has'])
      have hnext : (a :: after).head?.map Application.index = some (first + n + 1) := by
        simp [hn]; omega
      obtain ⟨hmatch, hindex⟩ :=
        (hnext ▸ hgoes).of_chainedAt (hchained (first + n) (by omega) (by omega))
          (hskip _ (List.mem_of_getElem? hc))
      obtain ⟨earlier, stretch, rfl, hpositions, hall⟩ := ih before' c (a :: after) has' (by omega)
        (fun k hk hlt => hchained k hk (by omega)) hindex
      refine ⟨earlier, stretch ++ [c], by simp, ?_, ?_⟩
      · rw [List.map_append, hpositions, hn, hindex, List.map_singleton, hindex,
          Nat.add_sub_cancel_left, Nat.add_sub_cancel_left, List.range'_1_concat]
      · intro d hd
        rcases List.mem_append.1 hd with hd | hd
        · exact hall d hd
        · rw [List.mem_singleton.1 hd, hmatch]

end Run

/-! ### Requests -/

namespace Scope

/-- **The order of a request.** With the engine on, the rules of a scope are applied in order, and
chains are all or nothing if no rule skips others. -/
theorem history_inOrder (s : Scope) (r : Request) (bound : Nat) (b : Bindings)
    (hon : s.engineOn = true) :
    Run.AppliesInOrder s.rules bound (s.history r bound b) ∧
      ((∀ g ∈ s.rules, g.rule.has .skip = false) →
        Run.KeepsChains s.rules (s.history r bound b)) := by
  have horder := (trace hon r bound b).appliesInOrder
  exact ⟨horder, horder.keepsChains⟩

/-- A chain of two rules that is left at its second one, which does not match. -/
theorem history_inOrder_chain :
    ∃ m, (MainContext.read
        ("RewriteEngine on\nRewriteRule ^/ /1 [C]\nRewriteRule ^/2 /3 [C]\n" ++
          "RewriteRule ^/ -").toList).toOption = some m ∧
      (main m).engineOn = true ∧
      ((main m).history { method := [], uri := "/".toList } 3 .empty).map Application.index =
        [0, 1] ∧
      Run.AppliesInOrder (main m).rules 3
        ((main m).history { method := [], uri := "/".toList } 3 .empty) ∧
      Run.KeepsChains (main m).rules
        ((main m).history { method := [], uri := "/".toList } 3 .empty) := by
  have hread : ((MainContext.read
      ("RewriteEngine on\nRewriteRule ^/ /1 [C]\nRewriteRule ^/2 /3 [C]\n" ++
        "RewriteRule ^/ -").toList).toOption.map
        fun m => ((main m).engineOn,
          ((main m).history { method := [], uri := "/".toList } 3 .empty).map Application.index,
          (main m).rules.all fun g => !g.rule.has .skip)) = some (true, [0, 1], true) := by
    decide +kernel
  obtain ⟨m, hm, hfacts⟩ := Option.map_eq_some_iff.1 hread
  obtain ⟨hon, hindices, hskip⟩ : _ ∧ _ ∧ _ := by simpa only [Prod.mk.injEq] using hfacts
  obtain ⟨horder, hchains⟩ :=
    history_inOrder (main m) { method := [], uri := "/".toList } 3 .empty hon
  refine ⟨m, hm, hon, hindices, horder, hchains fun g hg => ?_⟩
  simpa using List.all_eq_true.1 hskip g hg

end Scope

end UrlRewrite
