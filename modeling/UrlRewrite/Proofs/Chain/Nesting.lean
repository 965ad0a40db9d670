import Mathlib.Data.List.Chain
import UrlRewrite.Chain

/-!
# Chains as nested decisions

A chain asks its first condition and, if this one does not decide, the chain of all others. So it is
a decision made of two: the first condition *or else* the rest, or the first condition *and then*
the rest, as the mark of the condition says. `Chain.nested` is this reading. It differs from a loop
over the conditions in two places, which are the last condition, whose mark does not matter, and the
chain without conditions, which holds.

`Chain.holds_eq_nested` says that a chain is read like that, whatever evaluating a condition does to
the state and however it fails. The result alone does not tell what has been evaluated on the way.
Therefore the theorem also speaks of conditions that take notes (`Chain.noting`): each evaluation
adds the condition, and the state it has been evaluated in, to a list that is part of the state. The
notes are the visits of the chain (`Chain.holds_noting`), and `Chain.InTurn` says of them what a
reader wants to know:

* the conditions noted are the first ones of the chain, none of them twice and in their order;
* each has been evaluated in the state that the one before it has left;
* none but the last one decides, and if conditions are left over then the last one does.
-/

namespace UrlRewrite

namespace Chain

variable {α σ ε : Type}

/-! ### Decisions made of two -/

/-- A decision that depends on a state, may change it and may fail. -/
abbrev Decision (σ ε : Type) := σ → Except ε Bool × σ

/-- Holds if the first one does, and is otherwise left to the second one. -/
def orElse (first second : Decision σ ε) : Decision σ ε := fun s =>
  match first s with
  | (.ok false, s') => second s'
  | decided => decided

/-- Fails to hold if the first one does, and is otherwise left to the second one. -/
def andThen (first second : Decision σ ε) : Decision σ ε := fun s =>
  match first s with
  | (.ok true, s') => second s'
  | decided => decided

/-- **The nested reading**: every condition stands in front of the decision that all later ones
make. -/
def nested (evaluate : α → Decision σ ε) (orNext : α → Bool) : List α → Decision σ ε
  | [] => fun s => (.ok true, s)
  | [c] => evaluate c
  | c :: d :: rest =>
    if orNext c then orElse (evaluate c) (nested evaluate orNext (d :: rest))
    else andThen (evaluate c) (nested evaluate orNext (d :: rest))

variable {evaluate : α → Decision σ ε} {orNext : α → Bool}

/-- Only without conditions does it matter what a chain has given before. -/
theorem holdsFrom_eq_nested (result : Bool) (c : α) (rest : List α) (s : σ) :
    holdsFrom evaluate orNext result (c :: rest) s = nested evaluate orNext (c :: rest) s := by
  induction rest generalizing result c s with
  | nil =>
    -- the last condition gives its result, whether it decides or not
    rw [holdsFrom, nested]
    split
    · rename_i heval
      rw [heval]
    · rename_i heval
      rw [heval, holdsFrom, ite_self]
    · rename_i heval
      rw [heval, holdsFrom, ite_self]
  | cons d rest ih =>
    rw [holdsFrom, nested]
    cases hor : orNext c with
    | true =>
      rw [if_pos rfl, orElse]
      split
      · rename_i heval
        simp only [heval]
      · rename_i heval
        simp only [heval, if_true]
      · rename_i s' heval
        simp only [heval, if_true]
        exact ih false d s'
    | false =>
      rw [if_neg Bool.false_ne_true, andThen]
      split
      · rename_i heval
        simp only [heval]
      · rename_i s' heval
        simp only [heval, if_neg Bool.false_ne_true]
        exact ih true d s'
      · rename_i heval
        simp only [heval, if_neg Bool.false_ne_true]

/-! ### Notes -/

/-- Evaluation that takes notes: the state is followed by a list of the evaluations so far. -/
def noting (evaluate : α → Decision σ ε) (c : α) : Decision (σ × List (α × σ)) ε := fun s =>
  ((evaluate c s.1).1, (evaluate c s.1).2, s.2 ++ [(c, s.1)])

/-- Taking notes changes nothing else, and the notes are the visits. -/
theorem holdsFrom_noting (result : Bool) (conditions : List α) (s : σ) (notes : List (α × σ)) :
    holdsFrom (noting evaluate) orNext result conditions (s, notes) =
      ((holdsFrom evaluate orNext result conditions s).1,
        (holdsFrom evaluate orNext result conditions s).2,
        notes ++ visits evaluate orNext conditions s) := by
  -- what has been noted before stays in front, so the induction is for all notes
  induction conditions generalizing result s notes with
  | nil => simp [holdsFrom, visits]
  | cons c rest ih =>
    rw [holdsFrom, holdsFrom, visits, noting]
    cases heval : evaluate c s with
    | mk outcome s' =>
      cases outcome with
      | error e => rfl
      | ok held => cases held <;> cases hor : orNext c <;> simp [ih]

theorem holds_noting (evaluate : α → Decision σ ε) (orNext : α → Bool)
    (conditions : List α) (s : σ) :
    holds (noting evaluate) orNext conditions (s, []) =
      ((holds evaluate orNext conditions s).1, (holds evaluate orNext conditions s).2,
        visits evaluate orNext conditions s) :=
  holdsFrom_noting true conditions s []

/-! ### What is evaluated -/

/-- A condition decides in a state: it fails to be evaluated, it alternates and holds, or it does
not alternate and does not hold. -/
def Decides (evaluate : α → Decision σ ε) (orNext : α → Bool) (c : α) (s : σ) : Prop :=
  (∃ e, (evaluate c s).1 = .error e) ∨ (orNext c = true ∧ (evaluate c s).1 = .ok true) ∨
    (orNext c = false ∧ (evaluate c s).1 = .ok false)

theorem decides_of_ok {c : α} {s : σ} {held : Bool} (h : (evaluate c s).1 = .ok held) :
    Decides evaluate orNext c s ↔ held = orNext c := by
  cases held <;> cases hor : orNext c <;> simp [Decides, h, hor]

/-- **Evaluation in turn**, beginning in the state `s`, as `notes` tell it. -/
structure InTurn (evaluate : α → Decision σ ε) (orNext : α → Bool) (conditions : List α) (s : σ)
    (notes : List (α × σ)) : Prop where
  /-- What is evaluated are the first conditions, each once and in their order. -/
  front : notes.map Prod.fst <+: conditions
  /-- The first one is evaluated in the state that the chain begins with. -/
  first : ∀ v ∈ notes.head?, v.2 = s
  /-- Each other one is evaluated in the state that the one before it has left. -/
  next : notes.IsChain fun v w => w.2 = (evaluate v.1 v.2).2
  /-- What is evaluated before the last one does not decide. -/
  undecided : ∀ v ∈ notes.dropLast, ¬ Decides evaluate orNext v.1 v.2
  /-- If there are conditions that are not evaluated, the last one evaluated decides. -/
  decided : notes.map Prod.fst ≠ conditions → ∃ v ∈ notes.getLast?, Decides evaluate orNext v.1 v.2

namespace InTurn

variable {c : α} {rest : List α} {s s' : σ} {notes : List (α × σ)}

theorem nil (s : σ) : InTurn evaluate orNext [] s [] where
  front := List.prefix_refl []
  first := by simp
  next := .nil
  undecided := by simp
  decided h := absurd rfl h

/-- Nothing is evaluated behind a condition that decides. -/
theorem single (h : Decides evaluate orNext c s) (rest : List α) :
    InTurn evaluate orNext (c :: rest) s [(c, s)] where
  front := ⟨rest, rfl⟩
  first := by simp
  next := .singleton _
  undecided := by simp
  decided _ := ⟨(c, s), rfl, h⟩

/-- Behind a condition that does not decide, the rest is evaluated in turn. -/
theorem cons (h : ¬ Decides evaluate orNext c s)
    (hrest : InTurn evaluate orNext rest (evaluate c s).2 notes) :
    InTurn evaluate orNext (c :: rest) s ((c, s) :: notes) where
  front := by
    rw [List.map_cons, List.cons_prefix_cons]
    exact ⟨rfl, hrest.front⟩
  first := by simp
  next := List.isChain_cons.2 ⟨hrest.first, hrest.next⟩
  undecided := by
    intro v hv
    cases notes with
    | nil => simp at hv
    | cons w notes =>
      rw [List.dropLast_cons_cons, List.mem_cons] at hv
      rcases hv with rfl | hv
      · exact h
      · exact hrest.undecided v hv
  decided hne := by
    -- conditions are left over behind this one, so that the last one evaluated is among the rest
    obtain ⟨v, hv, hdecides⟩ := hrest.decided fun heq => hne (by rw [List.map_cons, heq])
    refine ⟨v, ?_, hdecides⟩
    rw [List.getLast?_cons, Option.mem_def.1 hv]
    rfl

end InTurn

theorem inTurn_visits (conditions : List α) (s : σ) :
    InTurn evaluate orNext conditions s (visits evaluate orNext conditions s) := by
  -- the states differ from one condition to the next, so the induction is for all of them
  induction conditions generalizing s with
  | nil => exact .nil s
  | cons c rest ih =>
    rw [visits]
    split
    · rename_i e s' heval
      exact .single (.inl ⟨e, by rw [heval]⟩) rest
    · rename_i held s' heval
      have hdecides : Decides evaluate orNext c s ↔ held = orNext c := decides_of_ok (by rw [heval])
      split
      · rename_i hheld
        exact .single (hdecides.2 hheld) rest
      · rename_i hheld
        refine .cons (fun h => hheld (hdecides.1 h)) ?_
        rw [heval]
        exact ih s'

/-- **What a chain comes to.** It is the nested decision of its conditions, in its result and in the
state that it leaves. Conditions that take notes give the same, and the notes tell that they have
been evaluated in turn, up to the first one that decides; what the last evaluation gives is what the
chain gives. -/
theorem holds_eq_nested (evaluate : α → Decision σ ε) (orNext : α → Bool)
    (conditions : List α) (s : σ) :
    holds evaluate orNext conditions s = nested evaluate orNext conditions s ∧
      ∃ notes,
        holds (noting evaluate) orNext conditions (s, []) =
          ((holds evaluate orNext conditions s).1, (holds evaluate orNext conditions s).2, notes) ∧
        InTurn evaluate orNext conditions s notes ∧
        holds evaluate orNext conditions s =
          (notes.getLast?.map fun v => evaluate v.1 v.2).getD (.ok true, s) := by
  refine ⟨?_, visits evaluate orNext conditions s, holds_noting evaluate orNext conditions s,
    inTurn_visits conditions s, holds_eq_visits conditions s⟩
  cases conditions with
  | nil => rfl
  | cons c rest => exact holdsFrom_eq_nested true c rest s

/-- An alternative that fails, one that holds, and one that is not asked any more. -/
example : nested (fun c s => (.ok (c = 1), c :: s)) (fun _ => true) [0, 1, 2] [] =
    ((.ok true, [1, 0]) : Except Unit Bool × List Nat) := rfl

end Chain

end UrlRewrite
