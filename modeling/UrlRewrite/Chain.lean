/-!
# Chains of conditions

Conditions in front of a rule form a chain. They are evaluated one after the other, each in the
state that the one before it has left, until one decides: a condition that alternates with its
successor decides if it holds, any other one decides if it fails. If none decides, the last result
counts; an empty chain holds.

What a condition is does not matter here. Evaluating one may change the state and may fail; a
failure ends the chain.

The conditions of a chain that are evaluated are its visits (`Chain.visits`). The last of them gives
the result (`Chain.holds_eq_visits`), and what each evaluation preserves of the state holds at all
of them (`Chain.preserved_of_mem_visits`).
-/

namespace UrlRewrite

namespace Chain

variable {α σ ε : Type}

/-- The result of a chain whose conditions so far have given `result` without deciding. -/
def holdsFrom (evaluate : α → σ → Except ε Bool × σ) (orNext : α → Bool) (result : Bool) :
    List α → σ → Except ε Bool × σ
  | [], s => (.ok result, s)
  | c :: cs, s =>
    match evaluate c s with
    | (.error e, s) => (.error e, s)
    -- a condition that holds spares the alternatives behind it, and one that fails calls for them
    | (.ok true, s) =>
      if orNext c then (.ok true, s) else holdsFrom evaluate orNext true cs s
    | (.ok false, s) =>
      if orNext c then holdsFrom evaluate orNext false cs s else (.ok false, s)

/-- Whether a chain holds, and the state after its evaluation. -/
def holds (evaluate : α → σ → Except ε Bool × σ) (orNext : α → Bool) (conditions : List α) (s : σ) :
    Except ε Bool × σ :=
  holdsFrom evaluate orNext true conditions s

/-- The conditions that are evaluated, each with the state in front of it. -/
def visits (evaluate : α → σ → Except ε Bool × σ) (orNext : α → Bool) : List α → σ → List (α × σ)
  | [], _ => []
  | c :: cs, s =>
    (c, s) ::
      match evaluate c s with
      | (.error _, _) => []
      -- the result decides if it is what the mark of the condition waits for
      | (.ok held, s) => if held = orNext c then [] else visits evaluate orNext cs s

variable {evaluate : α → σ → Except ε Bool × σ} {orNext : α → Bool} {conditions : List α} {s : σ}

/-- The last evaluation gives the result; without one, the result is as before. -/
theorem holdsFrom_eq_visits (result : Bool) (conditions : List α) (s : σ) :
    holdsFrom evaluate orNext result conditions s =
      ((visits evaluate orNext conditions s).getLast?.map fun v => evaluate v.1 v.2).getD
        (.ok result, s) := by
  induction conditions generalizing result s with
  | nil => rfl
  | cons c cs ih =>
    -- a condition that does not decide is the last one visited exactly if no other one follows
    have hlater : ∀ held s', evaluate c s = (.ok held, s') →
        holdsFrom evaluate orNext held cs s' =
          (fun v => evaluate v.1 v.2) ((visits evaluate orNext cs s').getLast?.getD (c, s)) := by
      intro held s' heval
      rw [ih]
      cases (visits evaluate orNext cs s').getLast? with
      | none => exact heval.symm
      | some v => rfl
    rw [holdsFrom, visits, List.getLast?_cons, Option.map_some, Option.getD_some]
    split
    · rename_i heval
      simp [heval]
    · rename_i heval
      cases hor : orNext c <;> simp [heval, hlater]
    · rename_i heval
      cases hor : orNext c <;> simp [heval, hlater]

/-- A chain gives what the last evaluation gives. -/
theorem holds_eq_visits (conditions : List α) (s : σ) :
    holds evaluate orNext conditions s =
      ((visits evaluate orNext conditions s).getLast?.map fun v =>
        evaluate v.1 v.2).getD (.ok true, s) :=
  holdsFrom_eq_visits true conditions s

section Preserved

variable {P : σ → Prop} (hP : ∀ c ∈ conditions, ∀ s, P s → P (evaluate c s).2)

include hP

/-- What every evaluation preserves holds in front of all evaluations, and behind them. -/
theorem preserved_of_mem_visits (hs : P s) {v : α × σ}
    (hv : v ∈ visits evaluate orNext conditions s) :
    P v.2 ∧ P (evaluate v.1 v.2).2 := by
  -- the state goes from one condition to the next, so the invariant is taken along
  induction conditions generalizing s with
  | nil => simp [visits] at hv
  | cons c cs ih =>
    have hnext := hP c List.mem_cons_self s hs
    rw [visits, List.mem_cons] at hv
    rcases hv with rfl | hv
    · exact ⟨hs, hnext⟩
    · split at hv
      · simp at hv
      · rename_i heval
        rw [heval] at hnext
        split at hv
        · simp at hv
        · exact ih (fun d hd => hP d (List.mem_cons_of_mem c hd)) hnext hv

/-- What each evaluation preserves of the state is preserved by the chain. -/
theorem preserved_holds (hs : P s) : P (holds evaluate orNext conditions s).2 := by
  rw [holds_eq_visits]
  cases hlast : (visits evaluate orNext conditions s).getLast? with
  | none => exact hs
  | some v => exact (preserved_of_mem_visits hP hs (List.mem_of_getLast? hlast)).2

end Preserved

/-- Only conditions of the chain are evaluated. -/
theorem mem_of_mem_visits {v : α × σ} (hv : v ∈ visits evaluate orNext conditions s) :
    v.1 ∈ conditions := by
  induction conditions generalizing s with
  | nil => simp [visits] at hv
  | cons c cs ih =>
    rw [visits, List.mem_cons] at hv
    rcases hv with rfl | hv
    · exact List.mem_cons_self
    · split at hv
      · simp at hv
      · split at hv
        · simp at hv
        · exact List.mem_cons_of_mem c (ih hv)

/-- A chain fails only by one of its conditions. -/
theorem exists_error_of_holds {e : ε} (h : (holds evaluate orNext conditions s).1 = .error e) :
    ∃ c ∈ conditions, ∃ s', (evaluate c s').1 = .error e := by
  rw [holds_eq_visits] at h
  cases hlast : (visits evaluate orNext conditions s).getLast? with
  | none => simp [hlast] at h
  | some v =>
    rw [hlast] at h
    exact ⟨v.1, mem_of_mem_visits (List.mem_of_getLast? hlast), v.2, h⟩

end Chain

end UrlRewrite
