/-!
# Results

What is read or evaluated may fail, and then the result is an error. This module says when results
that are made of others are there, and where the error comes from if they are not: one that is
computed from another one, and the list of the results for all elements of a list.
-/

namespace UrlRewrite

/-- What has been computed without an error is there. -/
theorem eq_ok_of_toOption {ε α : Type} {x : Except ε α} {a : α} (h : x.toOption = some a) :
    x = .ok a := by
  cases x with
  | error cause => cases h
  | ok b => exact congrArg Except.ok (Option.some.inj h)

/-- A value is mapped, and an error is not. -/
theorem map_eq_ok_iff {α β ε : Type} {f : α → β} {x : Except ε α} {b : β} :
    x.map f = .ok b ↔ ∃ a, x = .ok a ∧ f a = b := by
  cases x <;> simp [Except.map]

/-- Mapping errors changes no value. -/
theorem mapError_eq_ok_iff {α ε ε' : Type} {f : ε → ε'} {x : Except ε α} {a : α} :
    x.mapError f = .ok a ↔ x = .ok a := by
  cases x with
  | error e =>
    constructor
    · intro h
      cases h
    · intro h
      cases h
  | ok b =>
    exact ⟨fun h => congrArg Except.ok (Except.ok.inj h), fun h =>
      congrArg Except.ok (Except.ok.inj h)⟩

/-- Two steps give a value if both do. -/
theorem bind_eq_ok_iff {α β ε : Type} {f : α → Except ε β} {x : Except ε α} {b : β} :
    x >>= f = .ok b ↔ ∃ a, x = .ok a ∧ f a = .ok b := by
  cases x <;> simp [bind, Except.bind]

/-- Two steps give an error if the first one does, or else the second one. -/
theorem bind_eq_error_iff {α β ε : Type} {f : α → Except ε β} {x : Except ε α} {e : ε} :
    x >>= f = .error e ↔ x = .error e ∨ ∃ a, x = .ok a ∧ f a = .error e := by
  cases x <;> simp [bind, Except.bind]

theorem error_of_map {α β ε : Type} {x : Except ε α} {f : α → β} {e : ε} (h : x.map f = .error e) :
    x = .error e := by
  cases x with
  | error cause => exact congrArg Except.error (Except.error.inj h)
  | ok a => simp [Except.map] at h

theorem error_of_mapError {α ε ε' : Type} {x : Except ε α} {f : ε → ε'} {e : ε'}
    (h : x.mapError f = .error e) :
    ∃ cause, e = f cause := by
  cases x with
  | error cause => exact ⟨cause, (Except.error.inj h).symm⟩
  | ok a => cases h

/-- A list is read exactly if all its elements can be read. -/
theorem mapM_eq_ok_iff {α β ε : Type} {f : α → Except ε β} {l : List α} {r : List β} :
    l.mapM f = .ok r ↔ (∀ a ∈ l, ∃ b, f a = .ok b) ∧ r = l.filterMap fun a => (f a).toOption := by
  induction l generalizing r with
  | nil => simp [pure, Except.pure, eq_comm]
  | cons a l ih =>
    rw [List.mapM_cons]
    cases ha : f a with
    | error e => simp [ha, bind, Except.bind]
    | ok b =>
      have hb : (f a).toOption = some b := by rw [ha]; rfl
      cases hl : l.mapM f with
      | error e =>
        -- some other element of the list cannot be read
        have hfails : ¬ ∀ a ∈ l, ∃ b, f a = .ok b := fun hall => by
          have := ih.2 ⟨hall, rfl⟩
          rw [hl] at this
          cases this
        simp only [bind, Except.bind, reduceCtorEq, List.forall_mem_cons, false_iff]
        exact fun h => hfails h.1.2
      | ok bs =>
        obtain ⟨hall, rfl⟩ := ih.1 hl
        have hfirst : ∃ b, f a = .ok b := ⟨b, ha⟩
        rw [List.filterMap_cons_some (f := fun a => (f a).toOption) hb]
        simp only [bind, Except.bind, pure, Except.pure, Except.ok.injEq,
          List.forall_mem_cons, eq_comm, and_iff_right (And.intro hfirst hall)]

/-- A list cannot be read only because one of its elements cannot. -/
theorem exists_error_of_mapM {α β ε : Type} {f : α → Except ε β} {l : List α} {e : ε}
    (h : l.mapM f = .error e) :
    ∃ a ∈ l, f a = .error e := by
  -- the first element that cannot be read decides the error
  induction l with
  | nil => simp [pure, Except.pure] at h
  | cons a l ih =>
    rw [List.mapM_cons] at h
    cases ha : f a with
    | error e' =>
      obtain rfl : e' = e := by simpa [ha, bind, Except.bind] using h
      exact ⟨a, List.mem_cons_self, ha⟩
    | ok b =>
      have htail : l.mapM f = .error e := by
        cases hl : l.mapM f with
        | error e' => simpa [ha, hl, bind, Except.bind] using h
        | ok bs => simp [ha, hl, bind, Except.bind, pure, Except.pure] at h
      obtain ⟨c, hc, hfails⟩ := ih htail
      exact ⟨c, List.mem_cons_of_mem a hc, hfails⟩

end UrlRewrite
