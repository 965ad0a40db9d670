/-!
# Text

All texts of this library (configuration files, patterns, paths, header values) are lists of
characters, so that every grammar is a recursion on its input and every law about it an induction.

This module holds the ways of cutting a text at a separator:

* `Text.splitFirst` and `Text.splitLast` cut once, at the first or at the last separator;
* `Text.splitAll` cuts at every separator and always gives at least one piece;
* `Text.joinWith` puts pieces back together.

Cutting loses nothing but the separator (`Text.eq_append_of_splitFirst`,
`Text.eq_append_of_splitLast`).

Readers take something off the beginning of a text and leave the rest of it (`Text.IsRest`), which
is shorter.
-/

namespace UrlRewrite

/-- A text is the list of its characters. -/
abbrev Text := List Char

namespace Text

/-- The text before and the text behind the first `sep`. -/
def splitFirst (sep : Char) : Text → Option (Text × Text)
  | [] => none
  | c :: rest =>
    if c = sep then some ([], rest)
    else (splitFirst sep rest).map fun (a, b) => (c :: a, b)

/-- The text before and the text behind the last `sep`. -/
def splitLast (sep : Char) : Text → Option (Text × Text)
  | [] => none
  | c :: rest =>
    match splitLast sep rest with
    | some (a, b) => some (c :: a, b)
    | none => if c = sep then some ([], rest) else none

/-- The pieces between the separators; a text without any is one piece. -/
def splitAll (sep : Char) : Text → List Text
  | [] => [[]]
  | c :: rest =>
    if c = sep then [] :: splitAll sep rest
    else
      match splitAll sep rest with
      | [] => [[c]]
      | piece :: pieces => (c :: piece) :: pieces

/-- The pieces one after the other, with `sep` between them. -/
def joinWith (sep : Text) : List Text → Text
  | [] => []
  | [piece] => piece
  | piece :: pieces => piece ++ sep ++ joinWith sep pieces

/-- The rest of `s` behind the first place where `word` stands in it. -/
def behindFirst? (word : Text) : Text → Option Text
  | [] => List.isPrefixOf? word []
  | c :: rest =>
    match List.isPrefixOf? word (c :: rest) with
    | some behind => some behind
    | none => behindFirst? word rest

/-- Drops the characters at the end that satisfy `p`. -/
def dropEndWhile (p : Char → Bool) (s : Text) : Text :=
  (s.reverse.dropWhile p).reverse

/-- The longest beginning whose characters satisfy `p`, of at most `n` characters, and the rest. -/
def takeUpTo (p : Char → Bool) : Nat → Text → Text × Text
  | 0, s => ([], s)
  | _, [] => ([], [])
  | n + 1, c :: rest =>
    if p c then
      let (taken, left) := takeUpTo p n rest
      (c :: taken, left)
    else ([], c :: rest)

/-- A run of characters that satisfy `p`, of one at least, and what follows it. -/
def takeRun? (p : Char → Bool) (s : Text) : Option (Text × Text) :=
  match s.takeWhile p with
  | [] => none
  | run => some (run, s.dropWhile p)

/-- What stands in square brackets, if its characters satisfy `p`, and what follows them. -/
def bracketed? (p : Char → Bool) : Text → Option (Text × Text)
  | '[' :: body =>
    match body.dropWhile p with
    | ']' :: rest => some (body.takeWhile p, rest)
    | _ => none
  | _ => none

/-- A text that is split has the separator between its two parts, and none in the first one. -/
theorem eq_append_of_splitFirst {sep : Char} {s a b : Text} (h : splitFirst sep s = some (a, b)) :
    s = a ++ sep :: b ∧ sep ∉ a := by
  induction s generalizing a with
  | nil => simp [splitFirst] at h
  | cons c rest ih =>
    by_cases hc : c = sep
    · simp only [splitFirst, hc, if_true, Option.some.injEq, Prod.mk.injEq] at h
      obtain ⟨rfl, rfl⟩ := h
      simp [hc]
    · simp only [splitFirst, hc, if_false, Option.map_eq_some_iff] at h
      obtain ⟨⟨a', b'⟩, hrest, heq⟩ := h
      simp only [Prod.mk.injEq] at heq
      obtain ⟨rfl, rfl⟩ := heq
      obtain ⟨rfl, hmem⟩ := ih hrest
      exact ⟨rfl, by simpa [hmem] using fun h => hc h.symm⟩

/-- A text is split at its first separator. -/
theorem splitFirst_append {sep : Char} {a : Text} (h : sep ∉ a) (b : Text) :
    splitFirst sep (a ++ sep :: b) = some (a, b) := by
  induction a with
  | nil => simp [splitFirst]
  | cons c rest ih =>
    have hc : c ≠ sep := fun e => h (by simp [e])
    simp [splitFirst, hc, ih fun hm => h (List.mem_cons_of_mem _ hm)]

theorem splitFirst_eq_none_iff {sep : Char} {s : Text} : splitFirst sep s = none ↔ sep ∉ s := by
  induction s with
  | nil => simp [splitFirst]
  | cons c rest ih =>
    by_cases hc : c = sep
    · simp [splitFirst, hc]
    · simp [splitFirst, hc, ih, Ne.symm hc]

theorem eq_append_of_splitLast {sep : Char} {s a b : Text} (h : splitLast sep s = some (a, b)) :
    s = a ++ sep :: b := by
  induction s generalizing a b with
  | nil => simp [splitLast] at h
  | cons c rest ih =>
    simp only [splitLast] at h
    split at h
    · rename_i a' b' hrest
      simp only [Option.some.injEq, Prod.mk.injEq] at h
      obtain ⟨rfl, rfl⟩ := h
      simp [ih hrest]
    · split at h
      · rename_i hc
        simp only [Option.some.injEq, Prod.mk.injEq] at h
        obtain ⟨rfl, rfl⟩ := h
        simp [hc]
      · simp at h

theorem eq_append_of_isPrefixOf? {word s rest : Text} (h : List.isPrefixOf? word s = some rest) :
    s = word ++ rest := by
  induction word generalizing s with
  | nil => exact Option.some.inj h
  | cons c word ih =>
    cases s with
    | nil => cases h
    | cons d s =>
      have hstep : (if c == d then List.isPrefixOf? word s else none) = some rest := h
      rw [Option.ite_none_right_eq_some, beq_iff_eq] at hstep
      rw [hstep.1, ih hstep.2, List.cons_append]

/-- `r` is what is left of `s` behind one character or more. -/
def IsRest (r s : Text) : Prop := r <:+ s ∧ r.length < s.length

namespace IsRest

variable {r s t : Text}

theorem of_cons {c : Char} (h : r <:+ s) : IsRest r (c :: s) :=
  ⟨h.trans (List.suffix_cons c s), Nat.lt_succ_of_le h.length_le⟩

theorem suffix (h : IsRest r s) : r <:+ s := h.1

theorem length_lt (h : IsRest r s) : r.length < s.length := h.2

/-- What is left of a part is left of the whole. -/
theorem trans_suffix (h : IsRest r s) (hs : s <:+ t) : IsRest r t :=
  ⟨h.suffix.trans hs, Nat.lt_of_lt_of_le h.length_lt hs.length_le⟩

/-- A part of what is left is left as well. -/
theorem of_suffix (hr : r <:+ s) (h : IsRest s t) : IsRest r t :=
  ⟨hr.trans h.suffix, Nat.lt_of_le_of_lt hr.length_le h.length_lt⟩

end IsRest

/-- What stands behind a character that ends a run is left of the text. -/
theorem isRest_of_dropWhile {p : Char → Bool} {s rest : Text} {c : Char}
    (h : s.dropWhile p = c :: rest) : rest.IsRest s :=
  (IsRest.of_cons (List.suffix_refl rest)).trans_suffix (h ▸ List.dropWhile_suffix p)

/-- Something is taken off a text when it is split. -/
theorem isRest_of_splitFirst {sep : Char} {s a b : Text} (h : splitFirst sep s = some (a, b)) :
    IsRest b s := by
  obtain ⟨rfl, -⟩ := eq_append_of_splitFirst h
  exact (IsRest.of_cons (List.suffix_refl b)).trans_suffix (List.suffix_append a _)

theorem isRest_of_takeRun? {p : Char → Bool} {s run rest : Text}
    (h : takeRun? p s = some (run, rest)) :
    rest.IsRest s := by
  cases s with
  | nil => simp [takeRun?] at h
  | cons c s =>
    cases hc : p c with
    | false => simp [takeRun?, hc] at h
    | true =>
      obtain ⟨-, rfl⟩ : _ ∧ s.dropWhile p = rest := by simpa [takeRun?, hc] using h
      exact .of_cons (List.dropWhile_suffix p)

theorem isRest_of_bracketed? {p : Char → Bool} {s inside rest : Text}
    (h : bracketed? p s = some (inside, rest)) : rest.IsRest s := by
  unfold bracketed? at h
  split at h
  · rename_i body
    split at h
    · rename_i hclosed
      obtain ⟨-, rfl⟩ := Prod.mk.inj (Option.some.inj h)
      exact .of_cons (isRest_of_dropWhile hclosed).suffix
    · simp at h
  · simp at h

theorem takeUpTo_suffix (p : Char → Bool) (n : Nat) (s : Text) : (takeUpTo p n s).2 <:+ s := by
  induction n generalizing s with
  | zero => exact List.suffix_refl s
  | succ n ih =>
    cases s with
    | nil => exact List.suffix_refl []
    | cons c rest =>
      rw [takeUpTo]
      split
      · exact (ih rest).trans (List.suffix_cons c rest)
      · exact List.suffix_refl _

end Text

end UrlRewrite
