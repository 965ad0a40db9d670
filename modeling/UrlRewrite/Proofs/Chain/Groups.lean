import UrlRewrite.Condition

/-!
# Chains by groups

There is another reading of a chain: split it behind every condition that does not alternate with
its successor, and let it hold if in every group some condition holds. For conditions whose results
do not depend on the state, this module says for which marks the two readings agree.

* `Chain.groups` splits a chain, and `Chain.groupsHold` is the reading by groups;
* `Chain.AndBehindOr` says of marks that a condition that alternates is followed by one that does
  not and that is not the last one, as in `A or B, C`;
* `Chain.agreesByGroups_iff` says that the readings agree exactly for the marks that are not like
  this, and that a chain that holds without its groups does so by a condition that alternates.

The result of such a chain does not depend on the state either (`Chain.settledFrom`). Without a mark
of this kind, all conditions behind the first one that alternates form a single group, and it is the
group of the last condition. With one, the chain holds as soon as all conditions up to it hold,
while the last group can still fail.
-/

namespace UrlRewrite

namespace Chain

variable {α σ ε : Type}

/-! ### Groups -/

/-- The groups of a chain, which is split behind every condition that does not alternate. -/
def groups (orNext : α → Bool) : List α → List (List α)
  | [] => []
  | c :: cs =>
    if orNext c then
      match groups orNext cs with
      | [] => [[c]]
      | g :: gs => (c :: g) :: gs
    else [c] :: groups orNext cs

/-- The reading by groups: in every group some condition holds. -/
def groupsHold (orNext value : α → Bool) (cs : List α) : Bool :=
  (groups orNext cs).all fun g => g.any value

example : groups id [true, false, false, true] = [[true, false], [false], [true]] := rfl

section Groups

variable {orNext : α → Bool} {c : α} {cs : List α}

/-- A condition without the mark is a group of its own. -/
theorem groups_cons_of_not_orNext (hc : orNext c = false) :
    groups orNext (c :: cs) = [c] :: groups orNext cs := by
  simp [groups, hc]

/-- A condition with the mark joins the group behind it. -/
theorem groups_cons_of_orNext (hc : orNext c = true) {g : List α} {gs : List (List α)}
    (hcs : groups orNext cs = g :: gs) : groups orNext (c :: cs) = (c :: g) :: gs := by
  simp [groups, hc, hcs]

theorem groups_singleton (c : α) : groups orNext [c] = [[c]] := by
  simp [groups]

/-- Grouping loses nothing. -/
theorem flatten_groups (orNext : α → Bool) (cs : List α) : (groups orNext cs).flatten = cs := by
  induction cs with
  | nil => rfl
  | cons c cs ih =>
    cases hc : orNext c with
    | false => rw [groups_cons_of_not_orNext hc, List.flatten_cons, ih, List.singleton_append]
    | true =>
      cases hcs : groups orNext cs with
      | nil =>
        obtain rfl : cs = [] := by rw [← ih, hcs, List.flatten_nil]
        rw [groups_singleton]
        rfl
      | cons g gs =>
        rw [groups_cons_of_orNext hc hcs, List.flatten_cons, List.cons_append,
          ← List.flatten_cons, ← hcs, ih]

theorem groups_ne_nil (hcs : cs ≠ []) : groups orNext cs ≠ [] := fun h =>
  hcs (by rw [← flatten_groups orNext cs, h, List.flatten_nil])

/-- What stands behind a condition that does not alternate is grouped by itself. -/
theorem groups_append_cons (hc : orNext c = false) (before after : List α) :
    groups orNext (before ++ c :: after) = groups orNext (before ++ [c]) ++
      groups orNext after := by
  induction before with
  | nil =>
    rw [List.nil_append, List.nil_append, groups_singleton, groups_cons_of_not_orNext hc]; rfl
  | cons d before ih =>
    rw [List.cons_append, List.cons_append]
    cases hd : orNext d with
    | false => rw [groups_cons_of_not_orNext hd, groups_cons_of_not_orNext hd, ih, List.cons_append]
    | true =>
      -- the first group grows on both sides, and there is one on both sides
      cases hfront : groups orNext (before ++ [c]) with
      | nil => exact absurd hfront (groups_ne_nil (by simp))
      | cons g gs =>
        rw [groups_cons_of_orNext hd hfront,
          groups_cons_of_orNext hd (by rw [ih, hfront, List.cons_append]), List.cons_append]

/-- Conditions of which all but the last one alternate form a single group. -/
theorem groups_eq_singleton (hcs : cs ≠ []) (hall : ∀ d ∈ cs.dropLast, orNext d = true) :
    groups orNext cs = [cs] := by
  induction cs with
  | nil => exact absurd rfl hcs
  | cons c cs ih =>
    cases cs with
    | nil => exact groups_singleton c
    | cons d cs =>
      rw [List.dropLast_cons_cons, List.forall_mem_cons] at hall
      exact groups_cons_of_orNext hall.1 (ih (by simp) hall.2)

variable {value : α → Bool}

/-- A condition without the mark has to hold itself, and so have the groups behind it. -/
theorem groupsHold_cons_of_not_orNext (hc : orNext c = false) :
    groupsHold orNext value (c :: cs) = (value c && groupsHold orNext value cs) := by
  simp [groupsHold, groups_cons_of_not_orNext hc]

/-- An alternative that fails does not count, if there is another one. -/
theorem groupsHold_cons_of_fails (hc : orNext c = true) (hv : value c = false) (hcs : cs ≠ []) :
    groupsHold orNext value (c :: cs) = groupsHold orNext value cs := by
  cases hgroups : groups orNext cs with
  | nil => exact absurd hgroups (groups_ne_nil hcs)
  | cons g gs => simp [groupsHold, groups_cons_of_orNext hc hgroups, hgroups, hv]

theorem groupsHold_singleton (c : α) : groupsHold orNext value [c] = value c := by
  simp [groupsHold, groups_singleton]

end Groups

/-! ### Conditions that do not depend on the state -/

/-- The result of a chain of conditions with these values; those in front of it have given `result`
without deciding. -/
def settledFrom (orNext value : α → Bool) (result : Bool) : List α → Bool
  | [] => result
  | c :: cs => if value c = orNext c then value c else settledFrom orNext value (value c) cs

section Settled

variable {evaluate : α → σ → Except ε Bool × σ} {orNext value : α → Bool}

/-- If each condition has a value whatever the state is, a chain has the result that the values
settle. -/
theorem fst_holdsFrom {conditions : List α}
    (hvalue : ∀ c ∈ conditions, ∀ s, (evaluate c s).1 = .ok (value c)) (result : Bool) (s : σ) :
    (holdsFrom evaluate orNext result conditions s).1 =
      .ok (settledFrom orNext value result conditions) := by
  induction conditions generalizing result s with
  | nil => rfl
  | cons c cs ih =>
    rw [List.forall_mem_cons] at hvalue
    have hc := hvalue.1 s
    rw [holdsFrom, settledFrom]
    -- what follows a condition that does not decide does not depend on what it has done to the
    -- state
    split
    · rename_i heval
      simp [heval] at hc
    · rename_i heval
      obtain hc : value c = true := by simpa [heval] using hc.symm
      cases hor : orNext c <;> simp [hc, ih hvalue.2]
    · rename_i heval
      obtain hc : value c = false := by simpa [heval] using hc.symm
      cases hor : orNext c <;> simp [hc, ih hvalue.2]

/-- A condition with the mark that does not hold leaves it to the one behind it. -/
theorem settledFrom_cons_of_fails {c : α} {cs : List α} (hc : orNext c = true)
    (hv : value c = false) (result : Bool) :
    settledFrom orNext value result (c :: cs) = settledFrom orNext value false cs := by
  simp [settledFrom, hc, hv]

/-- Behind a condition without the mark, those that follow count only if it holds. -/
theorem settledFrom_cons_of_not_orNext {c : α} {cs : List α} (hc : orNext c = false)
    (result : Bool) :
    settledFrom orNext value result (c :: cs) = (value c && settledFrom orNext value true cs) := by
  cases hv : value c <;> simp [settledFrom, hc, hv]

/-- What a chain has given before does not matter, if there are conditions left. -/
theorem settledFrom_eq_of_ne_nil {cs : List α} (hcs : cs ≠ []) (result : Bool) :
    settledFrom orNext value result cs = settledFrom orNext value true cs := by
  cases cs with
  | nil => exact absurd rfl hcs
  | cons c cs => rfl

/-- A chain holds if its groups do. -/
theorem settledFrom_of_groupsHold {cs : List α} (h : groupsHold orNext value cs = true) :
    settledFrom orNext value true cs = true := by
  induction cs with
  | nil => rfl
  | cons c cs ih =>
    cases hc : orNext c with
    | false =>
      rw [groupsHold_cons_of_not_orNext hc, Bool.and_eq_true] at h
      rw [settledFrom_cons_of_not_orNext hc, h.1, ih h.2, Bool.and_self]
    | true =>
      cases hv : value c with
      | true => simp [settledFrom, hc, hv]
      | false =>
        cases cs with
        | nil => rw [groupsHold_singleton, hv] at h; cases h
        | cons d cs =>
          rw [groupsHold_cons_of_fails hc hv (by simp)] at h
          rw [settledFrom_cons_of_fails hc hv, settledFrom_eq_of_ne_nil (by simp), ih h]

/-- If no condition that alternates holds, a chain that holds does so by its groups. -/
theorem groupsHold_of_settledFrom {cs : List α}
    (hfails : ∀ c ∈ cs, orNext c = true → value c = false)
    (h : settledFrom orNext value true cs = true) : groupsHold orNext value cs = true := by
  -- a condition that fails with OR leaves the group to those behind it, of which there must be one
  induction cs with
  | nil => rfl
  | cons c cs ih =>
    rw [List.forall_mem_cons] at hfails
    cases hc : orNext c with
    | false =>
      rw [settledFrom_cons_of_not_orNext hc, Bool.and_eq_true] at h
      rw [groupsHold_cons_of_not_orNext hc, h.1, ih hfails.2 h.2, Bool.and_self]
    | true =>
      have hv := hfails.1 hc
      rw [settledFrom_cons_of_fails hc hv] at h
      cases cs with
      | nil => cases h
      | cons d cs =>
        rw [settledFrom_eq_of_ne_nil (by simp)] at h
        rw [groupsHold_cons_of_fails hc hv (by simp), ih hfails.2 h]

end Settled

/-! ### The marks for which the readings agree -/

/-- Among the marks of a chain, `or` is followed somewhere by an `and` that is not the last mark. -/
def AndBehindOr (marks : List Bool) : Prop :=
  ∃ before between after, marks = before ++ true :: between ++ false :: after ∧ after ≠ []

theorem AndBehindOr.cons {marks : List Bool} (h : AndBehindOr marks) (m : Bool) :
    AndBehindOr (m :: marks) := by
  obtain ⟨before, between, after, rfl, hafter⟩ := h
  exact ⟨m :: before, between, after, rfl, hafter⟩

/-- Behind `or` there are no other marks than `or`, but for the last one. -/
theorem eq_true_of_not_andBehindOr {marks : List Bool} (h : ¬ AndBehindOr (true :: marks)) :
    ∀ m ∈ marks.dropLast, m = true := by
  intro m hm
  cases m with
  | true => rfl
  | false =>
    obtain ⟨between, after, hsplit⟩ := List.append_of_mem hm
    have hne : marks ≠ [] := fun he => by simp [he] at hm
    refine absurd ⟨[], between, after ++ [marks.getLast hne], ?_, by simp⟩ h
    calc true :: marks = true :: (marks.dropLast ++ [marks.getLast hne]) := by
          rw [List.dropLast_concat_getLast]
      _ = [] ++ true :: between ++ false :: (after ++ [marks.getLast hne]) := by simp [hsplit]

/-- Without an `and` behind an `or`, a chain holds if and only if its groups do. -/
theorem settledFrom_eq_groupsHold {orNext value : α → Bool} {cs : List α}
    (h : ¬ AndBehindOr (cs.map orNext)) :
    settledFrom orNext value true cs = groupsHold orNext value cs := by
  induction cs with
  | nil => rfl
  | cons c cs ih =>
    have htail : ¬ AndBehindOr (cs.map orNext) := fun htail => h (htail.cons _)
    cases hc : orNext c with
    | false => rw [settledFrom_cons_of_not_orNext hc, groupsHold_cons_of_not_orNext hc, ih htail]
    | true =>
      cases hv : value c with
      | true =>
        -- the condition decides, and it belongs to the only group
        rw [List.map_cons, hc] at h
        have hall : ∀ d ∈ (c :: cs).dropLast, orNext d = true := by
          cases cs with
          | nil => simp
          | cons d cs =>
            rw [List.dropLast_cons_cons, List.forall_mem_cons]
            refine ⟨hc, fun e he => eq_true_of_not_andBehindOr h _ ?_⟩
            rw [← List.map_dropLast]
            exact List.mem_map_of_mem he
        rw [groupsHold, groups_eq_singleton (by simp) hall]
        simp [settledFrom, hc, hv]
      | false =>
        cases cs with
        | nil => rw [groupsHold_singleton, settledFrom_cons_of_fails hc hv, hv]; rfl
        | cons d cs =>
          rw [settledFrom_cons_of_fails hc hv, settledFrom_eq_of_ne_nil (by simp), ih htail,
            groupsHold_cons_of_fails hc hv (by simp)]

/-- A chain holds if everything in front of an alternative that holds does. -/
theorem settledFrom_append_cons {orNext value : α → Bool} {before : List α} {c : α}
    (hbefore : ∀ d ∈ before, value d = true) (hc : orNext c = true) (hv : value c = true)
    (after : List α) :
    settledFrom orNext value true (before ++ c :: after) = true := by
  induction before with
  | nil => simp [settledFrom, hc, hv]
  | cons d before ih =>
    rw [List.forall_mem_cons] at hbefore
    rw [List.cons_append, settledFrom, hbefore.1, ih hbefore.2, ite_self]

/-- The groups of a chain do not hold if everything behind a condition that does not alternate
fails. -/
theorem groupsHold_append_cons {orNext value : α → Bool} {before after : List α} {c : α}
    (hc : orNext c = false) (hafter : after ≠ []) (hfails : ∀ d ∈ after, value d = false) :
    groupsHold orNext value (before ++ c :: after) = false := by
  cases hgroups : groups orNext after with
  | nil => exact absurd hgroups (groups_ne_nil hafter)
  | cons g gs =>
    have hg : g.any value = false := by
      rw [List.any_eq_false]
      intro d hd
      have hmem : d ∈ after := by
        rw [← flatten_groups orNext after, hgroups, List.flatten_cons]
        exact List.mem_append_left _ hd
      rw [hfails d hmem]
      exact Bool.false_ne_true
    rw [groupsHold, groups_append_cons hc, hgroups, List.all_append, List.all_cons, hg,
      Bool.false_and, Bool.and_false]

/-- **Agreement with the reading by groups.** Whatever the conditions of a chain with these marks
are, if their results do not depend on the state, the chain gives what its groups give. -/
def AgreesByGroups (marks : List Bool) : Prop :=
  ∀ (α σ ε : Type) (evaluate : α → σ → Except ε Bool × σ) (orNext value : α → Bool)
    (conditions : List α),
    conditions.map orNext = marks → (∀ c ∈ conditions, ∀ s, (evaluate c s).1 = .ok (value c)) →
      ∀ s, (holds evaluate orNext conditions s).1 = .ok (groupsHold orNext value conditions)

end Chain

namespace Condition

/-- The agreement for chains of the conditions that configurations declare. -/
def AgreeByGroups (marks : List Bool) : Prop :=
  ∀ (value : Condition → Bool) (conditions : List Condition),
    conditions.map orNext = marks → (∀ c ∈ conditions, ∀ b, (c.evaluate b).1 = .ok (value c)) →
      ∀ b, (chain conditions b).1 = .ok (Chain.groupsHold orNext value conditions)

/-- A condition that compares the empty text with itself, so that it always has the same result. -/
def constant (mark result : Bool) : Condition where
  subject := ⟨[], [], rfl⟩
  pattern := .lexical (!result) .equal []
  flags := .ofList (if mark then [.orNext] else [])

theorem orNext_constant (mark result : Bool) : (constant mark result).orNext = mark := by
  cases mark <;> cases result <;> decide

theorem fst_evaluate_constant (mark result : Bool) (b : Bindings) :
    ((constant mark result).evaluate b).1 = .ok result := by
  cases mark <;> cases result <;> rfl

/-- The result of a constant condition, which its negation tells. -/
def constantResult (c : Condition) : Bool := !c.pattern.isNegated

theorem constantResult_constant (mark result : Bool) :
    (constant mark result).constantResult = result := by
  simp [constantResult, constant, Pattern.isNegated]

theorem constantResult_of_mem_map {marks : List Bool} {result : Bool} {c : Condition}
    (hc : c ∈ marks.map (constant · result)) : c.constantResult = result := by
  obtain ⟨mark, -, rfl⟩ := List.mem_map.1 hc
  exact constantResult_constant mark result

variable {before between after : List Bool}

/-- Conditions that tell the readings apart: everything holds up to the `and`, and nothing behind
it. -/
def disagreeing (before between after : List Bool) : List Condition :=
  before.map (constant · true) ++ constant true true :: between.map (constant · true) ++
    constant false true :: after.map (constant · false)

theorem map_orNext_disagreeing :
    (disagreeing before between after).map orNext =
      before ++ true :: between ++ false :: after := by
  simp [disagreeing, orNext_constant, Function.comp_def]

/-- Each of these conditions has the result that its negation tells. -/
theorem fst_evaluate_of_mem_disagreeing {c : Condition} (hc : c ∈ disagreeing before between after)
    (b : Bindings) : (c.evaluate b).1 = .ok c.constantResult := by
  have hconstant : ∃ mark result, c = constant mark result := by
    simp only [disagreeing, List.append_assoc, List.mem_append, List.mem_cons, List.mem_map,
      List.cons_append] at hc
    rcases hc with ⟨m, -, rfl⟩ | rfl | ⟨m, -, rfl⟩ | rfl | ⟨m, -, rfl⟩ <;> exact ⟨_, _, rfl⟩
  obtain ⟨mark, result, rfl⟩ := hconstant
  rw [fst_evaluate_constant, constantResult_constant]

/-- The chain of these conditions holds, for the first alternative does. -/
theorem settledFrom_disagreeing :
    Chain.settledFrom orNext constantResult true (disagreeing before between after) = true := by
  rw [disagreeing, List.append_assoc, List.cons_append]
  exact Chain.settledFrom_append_cons (fun _ => constantResult_of_mem_map) (orNext_constant _ _)
    (constantResult_constant _ _) _

/-- Their groups do not hold, for nothing behind the `and` does. -/
theorem groupsHold_disagreeing (hafter : after ≠ []) :
    Chain.groupsHold orNext constantResult (disagreeing before between after) = false :=
  Chain.groupsHold_append_cons (orNext_constant _ _) (by simpa using hafter)
    fun _ => constantResult_of_mem_map

end Condition

namespace Chain

/-- With an `and` behind an `or`, conditions can tell the readings apart. -/
theorem not_agreeByGroups {marks : List Bool} (h : AndBehindOr marks) :
    ¬ Condition.AgreeByGroups marks := by
  obtain ⟨before, between, after, rfl, hafter⟩ := h
  intro hagree
  have hfixed : ∀ c ∈ Condition.disagreeing before between after, ∀ b,
      (c.evaluate b).1 = .ok c.constantResult :=
    fun _ => Condition.fst_evaluate_of_mem_disagreeing
  have hchain := hagree Condition.constantResult _ Condition.map_orNext_disagreeing hfixed .empty
  rw [Condition.chain, holds, fst_holdsFrom hfixed, Condition.settledFrom_disagreeing,
    Condition.groupsHold_disagreeing hafter] at hchain
  cases hchain

/-- **Where the reading by groups is right.** It agrees with a chain, for all results of its
conditions, exactly if no `and` but the last one stands behind an `or`; the conditions that
configurations declare tell this as well as any others. Where the two differ, the chain holds and
its groups do not, and a condition that alternates holds. -/
theorem agreesByGroups_iff (marks : List Bool) :
    (AgreesByGroups marks ↔ ¬ AndBehindOr marks) ∧
      (Condition.AgreeByGroups marks ↔ ¬ AndBehindOr marks) ∧
      ∀ (α σ ε : Type) (evaluate : α → σ → Except ε Bool × σ) (orNext value : α → Bool)
        (conditions : List α),
        conditions.map orNext = marks → (∀ c ∈ conditions, ∀ s, (evaluate c s).1 = .ok (value c)) →
          ∀ s, (holds evaluate orNext conditions s).1 ≠ .ok (groupsHold orNext value conditions) →
            (holds evaluate orNext conditions s).1 = .ok true ∧
              groupsHold orNext value conditions = false ∧
              ∃ c ∈ conditions, orNext c = true ∧ value c = true := by
  have hagrees : ¬ AndBehindOr marks → AgreesByGroups marks := by
    rintro hmarks α σ ε evaluate orNext value conditions rfl hvalue s
    rw [holds, fst_holdsFrom hvalue, settledFrom_eq_groupsHold hmarks]
  have hdeclared : AgreesByGroups marks → Condition.AgreeByGroups marks :=
    fun h value conditions hmarks hvalue b => h _ _ _ _ _ value conditions hmarks hvalue b
  have hmarks : Condition.AgreeByGroups marks → ¬ AndBehindOr marks :=
    fun h hbehind => not_agreeByGroups hbehind h
  refine ⟨⟨fun h => hmarks (hdeclared h), hagrees⟩, ⟨hmarks, fun h => hdeclared (hagrees h)⟩, ?_⟩
  rintro α σ ε evaluate orNext value conditions - hvalue s hdiffer
  rw [holds, fst_holdsFrom hvalue, ne_eq, Except.ok.injEq] at hdiffer
  rw [holds, fst_holdsFrom hvalue]
  -- groups that hold make the chain hold, so that they fail where the two differ
  cases hgroups : groupsHold orNext value conditions with
  | true => exact absurd (by rw [hgroups, settledFrom_of_groupsHold hgroups]) hdiffer
  | false =>
    rw [hgroups, Bool.not_eq_false] at hdiffer
    refine ⟨by rw [hdiffer], rfl, ?_⟩
    by_cases hfails : ∀ c ∈ conditions, orNext c = true → value c = false
    · rw [groupsHold_of_settledFrom hfails hdiffer] at hgroups
      cases hgroups
    · simpa using hfails

end Chain

end UrlRewrite
