import UrlRewrite.Text.Blank
import UrlRewrite.Text.Decimal

/-!
# Pieces of texts

What a reader takes off a text that has been put together from pieces. A run ends where the next
piece begins with a character that does not belong to it (`Text.Stops`).

Digits are read as the number that they mean (`Text.readNat_of_isDigit`).

Where a text is cut at separators, a part without any belongs to the first piece of what it stands
in front of (`Text.splitAll_append_of_not_mem`, `Text.splitFirst_append_of_not_mem`). The pieces put
together again are the text (`Text.joinWith_splitAll`, `Text.splitAll_joinWith`).

The first line of a text is a piece as well: it is followed by a line break, or by nothing
(`Text.Break`), and behind it there are the other lines (`Text.exists_of_lines_eq_cons`). Lines are
put together by `Text.ofLines`.
-/

namespace UrlRewrite.Text

/-- Every character of the text satisfies `p`. -/
def Each (p : Char → Prop) (s : Text) : Prop := ∀ c ∈ s, p c

instance (p : Char → Prop) [DecidablePred p] : DecidablePred (Each p) := fun s =>
  decidable_of_iff ((s.all fun c => decide (p c)) = true) (by simp [Each])

/-! ### Runs -/

section Runs

variable {p : Char → Bool} {run s : Text}

/-- The text does not begin with a character that satisfies `p`. -/
def Stops (p : Char → Bool) (s : Text) : Prop := ∀ c ∈ s.head?, p c = false

theorem Stops.nil : Stops p [] := by
  simp [Stops]

theorem Stops.cons {c : Char} (hc : p c = false) (s : Text) : Stops p (c :: s) := by
  simpa [Stops] using hc

/-- Behind characters outside of a set, a text stops the set if what follows them does. -/
theorem Stops.append (hrun : ∀ c ∈ run, p c = false) (hs : Stops p s) : Stops p (run ++ s) := by
  cases run with
  | nil => exact hs
  | cons c run => exact .cons (hrun c List.mem_cons_self) _

theorem Stops.of_forall (h : ∀ c ∈ s, p c = false) : Stops p s :=
  fun c hc => h c (List.mem_of_mem_head? hc)

/-- Characters outside of a set stop it whatever follows them, if there are any. -/
theorem Stops.append_of_ne_nil (hne : run ≠ []) (hrun : ∀ c ∈ run, p c = false) (s : Text) :
    Stops p (run ++ s) := by
  cases run with
  | nil => exact absurd rfl hne
  | cons c run => exact .cons (hrun c List.mem_cons_self) _

theorem Stops.takeWhile (hs : Stops p s) : s.takeWhile p = [] := by
  cases s with
  | nil => rfl
  | cons c s => exact List.takeWhile_cons_of_neg (by simpa [Stops] using hs)

theorem Stops.dropWhile (hs : Stops p s) : s.dropWhile p = s := by
  cases s with
  | nil => rfl
  | cons c s => exact List.dropWhile_cons_of_neg (by simpa [Stops] using hs)

/-- A run of characters of a set is taken as a whole where the text behind it stops the set. -/
theorem takeWhile_append (hrun : ∀ c ∈ run, p c = true) (hs : Stops p s) :
    (run ++ s).takeWhile p = run := by
  rw [List.takeWhile_append_of_pos hrun, hs.takeWhile, List.append_nil]

/-- A run of characters of a set is dropped as a whole where the text behind it stops the set. -/
theorem dropWhile_append (hrun : ∀ c ∈ run, p c = true) (hs : Stops p s) :
    (run ++ s).dropWhile p = s := by
  rw [List.dropWhile_append_of_pos hrun, hs.dropWhile]

/-- A run that ends in front of `s` is the same without `s`. -/
theorem takeWhile_append_right (hs : Stops p s) (t : Text) :
    (t ++ s).takeWhile p = t.takeWhile p := by
  induction t with
  | nil => exact hs.takeWhile
  | cons c t ih => simp only [List.cons_append, List.takeWhile_cons, ih]

/-- Dropping characters of a set does not get beyond a text that stops the set. -/
theorem dropWhile_append_right (hs : Stops p s) (t : Text) :
    (t ++ s).dropWhile p = t.dropWhile p ++ s := by
  induction t with
  | nil => exact hs.dropWhile
  | cons c t ih =>
    simp only [List.cons_append, List.dropWhile_cons, ih]
    split <;> rfl

/-- A run is the same whether or not a text that stops the set follows. -/
theorem takeRun?_append_right (hs : Stops p s) (t : Text) :
    takeRun? p (t ++ s) = (takeRun? p t).map (Prod.map id (· ++ s)) := by
  simp only [takeRun?, takeWhile_append_right hs, dropWhile_append_right hs]
  split <;> rfl

theorem takeRun?_append (hne : run ≠ []) (hrun : ∀ c ∈ run, p c = true) (hs : Stops p s) :
    takeRun? p (run ++ s) = some (run, s) := by
  rw [takeRun?, takeWhile_append hrun hs, dropWhile_append hrun hs]
  cases run with
  | nil => exact absurd rfl hne
  | cons c run => rfl

/-- A text between brackets is read, up to the bracket that closes it. -/
theorem bracketed?_append (hrun : ∀ c ∈ run, p c = true) (hp : p ']' = false) (s : Text) :
    bracketed? p ('[' :: run ++ ']' :: s) = some (run, s) := by
  have hstop : Stops p (']' :: s) := Stops.cons hp s
  simp only [List.cons_append, bracketed?, takeWhile_append hrun hstop, dropWhile_append hrun hstop]

/-- A text that does not begin with a bracket has nothing in brackets at its beginning. -/
theorem bracketed?_eq_none (h : s.head? ≠ some '[') : bracketed? p s = none := by
  unfold bracketed?
  split
  · exact absurd rfl h
  · rfl

/-- What stands in brackets in front of `s` is the same without `s`. -/
theorem bracketed?_append_right (hs : Stops p s) (hopen : s.head? ≠ some '[')
    (hclose : s.head? ≠ some ']') (t : Text) :
    bracketed? p (t ++ s) = (bracketed? p t).map (Prod.map id (· ++ s)) := by
  cases t with
  | nil => exact bracketed?_eq_none hopen
  | cons c t =>
    by_cases hc : c = '['
    · subst hc
      -- the run ends in front of what is behind, so the closing bracket is there in both texts or
      -- in none
      simp only [List.cons_append, bracketed?, takeWhile_append_right hs, dropWhile_append_right hs]
      cases t.dropWhile p with
      | nil =>
        cases s with
        | nil => rfl
        | cons d s =>
          have hd : d ≠ ']' := by simpa using hclose
          simp [hd]
      | cons d behind =>
        by_cases hd : d = ']'
        · simp [hd]
        · simp [hd]
    · rw [bracketed?_eq_none (by simpa using hc), bracketed?_eq_none (by simpa using hc),
        Option.map_none]

/-- Of a run no more is taken than asked for. -/
theorem takeUpTo_append_take (n : Nat) (hrun : ∀ c ∈ run, p c = true) (hs : Stops p s) :
    takeUpTo p n (run ++ s) = (run.take n, run.drop n ++ s) := by
  induction run generalizing n with
  | nil =>
    cases n with
    | zero => rfl
    | succ n =>
      cases s with
      | nil => rfl
      | cons c s => simp [takeUpTo, show p c = false by simpa [Stops] using hs]
  | cons c run ih =>
    obtain ⟨hc, hrun⟩ := List.forall_mem_cons.1 hrun
    cases n with
    | zero => rfl
    | succ n =>
      rw [List.cons_append, takeUpTo, if_pos hc, ih n hrun]
      rfl

end Runs

/-! ### Numbers -/

section Numbers

variable {digits : Text}

theorem toNat_of_isDigit {c : Char} (h : c.isDigit = true) : 48 ≤ c.toNat ∧ c.toNat ≤ 57 := by
  simpa [Char.isDigit, UInt32.le_iff_toNat_le] using h

theorem isBlank_of_isDigit {c : Char} (h : c.isDigit = true) : isBlank c = false := by
  have hrange := toNat_of_isDigit h
  simp only [isBlank, Bool.or_eq_false_iff, Bool.and_eq_false_iff, decide_eq_false_iff_not,
    beq_eq_false_iff_ne]
  omega

/-- A decimal digit has the value that it is written for. -/
theorem digitValue?_of_isDigit {c : Char} (h : c.isDigit = true) :
    digitValue? c = some (c.toNat - '0'.toNat) := by
  have hrange : '0' ≤ c ∧ c ≤ '9' := by
    simp only [Char.isDigit, Bool.and_eq_true, decide_eq_true_eq] at h
    exact ⟨h.1, h.2⟩
  rw [digitValue?, if_pos hrange]
  rfl

/-- Further digits do not make a number smaller. -/
theorem le_ofDigitChars (n : Nat) (digits : Text) : n ≤ Nat.ofDigitChars 10 digits n := by
  induction digits generalizing n with
  | nil => exact Nat.le_refl n
  | cons c digits ih =>
    rw [Nat.ofDigitChars_cons]
    exact Nat.le_trans (by omega) (ih _)

/-- Decimal digits are read as their number, if it is within the bound. -/
theorem readDigits_of_isDigit {bound n : Nat} {overflow : DecimalError}
    (hdigits : ∀ c ∈ digits, c.isDigit = true) (hbound : Nat.ofDigitChars 10 digits n ≤ bound) :
    readDigits bound n overflow digits = .ok (Nat.ofDigitChars 10 digits n) := by
  induction digits generalizing n with
  | nil => rfl
  | cons c digits ih =>
    obtain ⟨hc, hdigits⟩ := List.forall_mem_cons.1 hdigits
    rw [Nat.ofDigitChars_cons] at hbound ⊢
    -- the number only grows, so it is within the bound at each digit
    have hvalue := Nat.le_trans (le_ofDigitChars _ digits) hbound
    have hsame : n * 10 + (c.toNat - '0'.toNat) = 10 * n + (c.toNat - '0'.toNat) := by
      rw [Nat.mul_comm]
    simp only [readDigits, digitValue?_of_isDigit hc, hsame, if_neg (Nat.not_lt.2 hvalue)]
    exact ih hdigits hbound

/-- Digits are read as the number that they mean. -/
theorem readNat_of_isDigit {bound : Nat} (hne : digits ≠ [])
    (hdigits : ∀ c ∈ digits, c.isDigit = true) (hbound : Nat.ofDigitChars 10 digits 0 ≤ bound) :
    readNat bound digits = .ok (Nat.ofDigitChars 10 digits 0) := by
  have hplus : ∀ rest, digits ≠ '+' :: rest := by
    rintro rest rfl
    exact absurd (hdigits '+' List.mem_cons_self) (by decide)
  rw [readNat.eq_def]
  split
  · exact absurd rfl hne
  · exact absurd rfl (hplus [])
  · exact absurd rfl (hplus _)
  · exact readDigits_of_isDigit hdigits hbound

/-- A plus sign in front of digits makes no difference. -/
theorem readNat_plus_of_isDigit {bound : Nat} (hne : digits ≠ [])
    (hdigits : ∀ c ∈ digits, c.isDigit = true) (hbound : Nat.ofDigitChars 10 digits 0 ≤ bound) :
    readNat bound ('+' :: digits) = .ok (Nat.ofDigitChars 10 digits 0) := by
  cases digits with
  | nil => exact absurd rfl hne
  | cons c digits => exact readDigits_of_isDigit hdigits hbound

/-- What has a value is a decimal digit. -/
theorem of_digitValue? {c : Char} {d : Nat} (h : digitValue? c = some d) :
    c.isDigit = true ∧ d = c.toNat - '0'.toNat := by
  obtain ⟨hrange, heq⟩ := Option.ite_none_right_eq_some.1 h
  obtain rfl := Option.some.inj heq
  refine ⟨?_, rfl⟩
  simp only [Char.isDigit, Bool.and_eq_true, decide_eq_true_eq]
  exact ⟨hrange.1, hrange.2⟩

/-- What is read as a number is written in decimal digits, and the number is within the bound. -/
theorem of_readDigits {bound n m : Nat} {overflow : DecimalError} (hn : n ≤ bound)
    (h : readDigits bound n overflow digits = .ok m) :
    (∀ c ∈ digits, c.isDigit = true) ∧ m = Nat.ofDigitChars 10 digits n ∧ m ≤ bound := by
  -- the invariant is that the number read so far is within the bound
  induction digits generalizing n with
  | nil =>
    obtain rfl := Except.ok.inj h
    exact ⟨by simp, rfl, hn⟩
  | cons c digits ih =>
    rw [readDigits] at h
    split at h
    · simp at h
    · rename_i d hvalue
      obtain ⟨hc, rfl⟩ := of_digitValue? hvalue
      split at h
      · simp at h
      · rename_i hbound
        obtain ⟨hdigits, hm, hle⟩ := ih (Nat.not_lt.1 hbound) h
        refine ⟨List.forall_mem_cons.2 ⟨hc, hdigits⟩, ?_, hle⟩
        rw [hm, Nat.ofDigitChars_cons, Nat.mul_comm]

/-- Nothing but digits is read as a number, perhaps behind a plus sign. -/
theorem exists_of_readNat {bound n : Nat} {s : Text} (h : readNat bound s = .ok n) :
    ∃ digits, (s = digits ∨ s = '+' :: digits) ∧ digits ≠ [] ∧ (∀ c ∈ digits, c.isDigit = true) ∧
      n = Nat.ofDigitChars 10 digits 0 ∧ n ≤ bound := by
  rw [readNat.eq_def] at h
  split at h
  · simp at h
  · simp at h
  · rename_i digits hne
    exact ⟨digits, .inr rfl, hne, of_readDigits (Nat.zero_le bound) h⟩
  · rename_i hnil _ _
    exact ⟨s, .inl rfl, hnil, of_readDigits (Nat.zero_le bound) h⟩

end Numbers

/-! ### Lines -/

/-- `Break s rest`: a line ends at `s`, and `rest` is what follows it. -/
inductive Break : Text → Text → Prop
  | feed (rest : Text) : Break ('\n' :: rest) rest
  | returnFeed (rest : Text) : Break ('\r' :: '\n' :: rest) rest
  | finish : Break [] []

theorem splitAll_ne_nil (sep : Char) (s : Text) : splitAll sep s ≠ [] := by
  cases s with
  | nil => simp [splitAll]
  | cons c s =>
    rw [splitAll]
    split
    · simp
    · split <;> simp

/-- A character that is no separator belongs to the first piece. -/
theorem splitAll_cons_of_ne {sep c : Char} (h : c ≠ sep) (s : Text) :
    splitAll sep (c :: s) = (splitAll sep s).modifyHead (c :: ·) := by
  obtain ⟨piece, pieces, hpieces⟩ := List.exists_cons_of_ne_nil (splitAll_ne_nil sep s)
  rw [splitAll, if_neg h, hpieces]
  rfl

/-- What stands in front of a text and holds no separator belongs to its first piece. -/
theorem splitAll_append_of_not_mem {sep : Char} {a : Text} (h : sep ∉ a) (b : Text) :
    splitAll sep (a ++ b) = (splitAll sep b).modifyHead (a ++ ·) := by
  induction a with
  | nil => exact (congrFun List.modifyHead_id _).symm
  | cons c a ih =>
    obtain ⟨hc, ha⟩ : sep ≠ c ∧ sep ∉ a := by simpa using h
    rw [List.cons_append, splitAll_cons_of_ne (Ne.symm hc), ih ha, List.modifyHead_modifyHead]
    rfl

/-- A text without separators is one piece. -/
theorem splitAll_of_not_mem {sep : Char} {s : Text} (h : sep ∉ s) : splitAll sep s = [s] := by
  simpa [splitAll] using splitAll_append_of_not_mem h []

theorem splitAll_append {sep : Char} {a : Text} (h : sep ∉ a) (b : Text) :
    splitAll sep (a ++ sep :: b) = a :: splitAll sep b := by
  simpa [splitAll] using splitAll_append_of_not_mem h (sep :: b)

/-- A text with a separator in it has the pieces on both sides. -/
theorem splitAll_append_cons (sep : Char) (a b : Text) :
    splitAll sep (a ++ sep :: b) = splitAll sep a ++ splitAll sep b := by
  induction a with
  | nil => simp [splitAll]
  | cons c a ih =>
    rw [List.cons_append, splitAll, splitAll, ih]
    split
    · rfl
    · obtain ⟨piece, pieces, hpieces⟩ := List.exists_cons_of_ne_nil (splitAll_ne_nil sep a)
      rw [hpieces]
      rfl

/-- No piece has a separator. -/
theorem not_mem_of_mem_splitAll {sep : Char} {s piece : Text} (h : piece ∈ splitAll sep s) :
    sep ∉ piece := by
  induction s generalizing piece with
  | nil => simp_all [splitAll]
  | cons c s ih =>
    rw [splitAll] at h
    split at h
    · rcases List.mem_cons.1 h with rfl | h
      · exact List.not_mem_nil
      · exact ih h
    · rename_i hc
      obtain ⟨first, pieces, hpieces⟩ := List.exists_cons_of_ne_nil (splitAll_ne_nil sep s)
      rw [hpieces] at h ih
      rcases List.mem_cons.1 h with rfl | h
      · exact List.not_mem_cons_of_ne_of_not_mem (Ne.symm hc) (ih List.mem_cons_self)
      · exact ih (List.mem_cons_of_mem _ h)

/-- The pieces of a text can be put back together. -/
theorem joinWith_splitAll (sep : Char) (s : Text) : joinWith [sep] (splitAll sep s) = s := by
  induction s with
  | nil => rfl
  | cons c s ih =>
    obtain ⟨first, pieces, hpieces⟩ := List.exists_cons_of_ne_nil (splitAll_ne_nil sep s)
    rw [hpieces] at ih
    rw [splitAll, hpieces]
    split
    · rename_i hc
      rw [joinWith, ih, hc]
      · rfl
      · simp
    · rw [← ih]
      cases pieces <;> rfl

/-- Pieces that have been put together are cut apart again. -/
theorem splitAll_joinWith {sep : Char} {pieces : List Text} (hne : pieces ≠ [])
    (h : ∀ piece ∈ pieces, sep ∉ piece) : splitAll sep (joinWith [sep] pieces) = pieces := by
  induction pieces with
  | nil => exact absurd rfl hne
  | cons first pieces ih =>
    obtain ⟨hfirst, hpieces⟩ := List.forall_mem_cons.1 h
    cases pieces with
    | nil => exact splitAll_of_not_mem hfirst
    | cons next pieces =>
      rw [joinWith, List.append_assoc, List.singleton_append, splitAll_append hfirst,
        ih (by simp) hpieces]
      simp

/-- What stands in front of a text and holds no separator does not decide where the text is cut. -/
theorem splitFirst_append_of_not_mem {sep : Char} {a : Text} (h : sep ∉ a) (b : Text) :
    splitFirst sep (a ++ b) = (splitFirst sep b).map (Prod.map (a ++ ·) id) := by
  induction a with
  | nil => exact (congrFun Option.map_id _).symm
  | cons c a ih =>
    obtain ⟨hc, ha⟩ : sep ≠ c ∧ sep ∉ a := by simpa using h
    rw [List.cons_append, splitFirst, if_neg (Ne.symm hc), ih ha, Option.map_map]
    rfl

theorem lines_of_not_mem {s : Text} (h : '\n' ∉ s) (hne : s ≠ []) : lines s = [s] := by
  simp [lines, splitAll_of_not_mem h, hne]

/-- The first line ends at the first line feed, without the carriage return in front of it. -/
theorem lines_append {a : Text} (h : '\n' ∉ a) (b : Text) :
    lines (a ++ '\n' :: b) = dropReturn a :: lines b := by
  obtain ⟨piece, pieces, hpieces⟩ := List.exists_cons_of_ne_nil (splitAll_ne_nil '\n' b)
  simp [lines, splitAll_append h, hpieces]

/-- A line that a line feed ends, perhaps with a carriage return in front. -/
theorem exists_dropReturn_append (a rest : Text) :
    ∃ t, a ++ '\n' :: rest = dropReturn a ++ t ∧ Break t rest := by
  rw [dropReturn]
  split
  · rename_i hlast
    obtain ⟨front, rfl⟩ := List.getLast?_eq_some_iff.1 hlast
    refine ⟨'\r' :: '\n' :: rest, ?_, .returnFeed rest⟩
    rw [List.dropLast_concat, List.append_assoc, List.singleton_append]
  · exact ⟨'\n' :: rest, rfl, .feed rest⟩

theorem dropReturn_subset (a : Text) : dropReturn a ⊆ a := by
  rw [dropReturn]
  split
  · exact List.dropLast_subset a
  · exact List.Subset.refl a

theorem dropReturn_eq {s : Text} (h : ∀ c ∈ s.getLast?, c ≠ '\r') : dropReturn s = s := by
  rw [dropReturn]
  split
  · rename_i hlast
    exact absurd rfl (h '\r' hlast)
  · rfl

/-- A text with a line begins with it. -/
theorem exists_of_lines_eq_cons {s l : Text} {ls : List Text} (h : lines s = l :: ls) :
    ∃ t rest, s = l ++ t ∧ '\n' ∉ l ∧ Break t rest ∧ lines rest = ls := by
  cases hsplit : splitFirst '\n' s with
  | none =>
    have hmem := splitFirst_eq_none_iff.1 hsplit
    have hne : s ≠ [] := by
      rintro rfl
      simp [lines, splitAll] at h
    rw [lines_of_not_mem hmem hne] at h
    obtain ⟨rfl, rfl⟩ := List.cons.inj h
    exact ⟨[], [], (List.append_nil s).symm, hmem, .finish, rfl⟩
  | some parts =>
    obtain ⟨a, rest⟩ := parts
    obtain ⟨rfl, hmem⟩ := eq_append_of_splitFirst hsplit
    rw [lines_append hmem] at h
    obtain ⟨rfl, rfl⟩ := List.cons.inj h
    obtain ⟨t, heq, hbreak⟩ := exists_dropReturn_append a rest
    exact ⟨t, rest, heq, fun hfeed => hmem (dropReturn_subset a hfeed), hbreak, rfl⟩

/-- No line has a line feed. -/
theorem not_mem_of_mem_lines {s l : Text} (h : l ∈ lines s) : '\n' ∉ l := by
  generalize hls : lines s = ls at h
  induction ls generalizing s with
  | nil => simp at h
  | cons first ls ih =>
    obtain ⟨t, rest, -, hfirst, -, hrest⟩ := exists_of_lines_eq_cons hls
    rcases List.mem_cons.1 h with rfl | hmem
    · exact hfirst
    · exact ih hrest hmem

/-- The text of lines that line feeds end. -/
def ofLines (ls : List Text) : Text := ls.flatMap (· ++ ['\n'])

@[simp] theorem ofLines_cons (l : Text) (ls : List Text) :
    ofLines (l :: ls) = l ++ '\n' :: ofLines ls := by
  simp [ofLines]

@[simp] theorem ofLines_append (ls ls' : List Text) :
    ofLines (ls ++ ls') = ofLines ls ++ ofLines ls' :=
  List.flatMap_append

/-- Lines in front of a text are lines of it. -/
theorem lines_ofLines_append {ls : List Text} (h : ∀ l ∈ ls, '\n' ∉ l) (s : Text) :
    lines (ofLines ls ++ s) = ls.map dropReturn ++ lines s := by
  induction ls with
  | nil => rfl
  | cons l ls ih =>
    obtain ⟨hl, hls⟩ := List.forall_mem_cons.1 h
    rw [ofLines_cons, List.append_assoc, List.cons_append, lines_append hl, ih hls, List.map_cons,
      List.cons_append]

/-- Lines that are written one below the other are read again, without their carriage returns. -/
theorem lines_ofLines {ls : List Text} (h : ∀ l ∈ ls, '\n' ∉ l) :
    lines (ofLines ls) = ls.map dropReturn := by
  have hlines := lines_ofLines_append h []
  rwa [List.append_nil, show lines [] = [] from rfl, List.append_nil] at hlines

/-- Only the empty text has no lines. -/
theorem eq_nil_of_lines_eq_nil {s : Text} (h : lines s = []) : s = [] := by
  refine Decidable.byContradiction fun hne => ?_
  cases hsplit : splitFirst '\n' s with
  | none => simp [lines_of_not_mem (splitFirst_eq_none_iff.1 hsplit) hne] at h
  | some parts =>
    obtain ⟨rfl, hmem⟩ := eq_append_of_splitFirst hsplit
    simp [lines_append hmem] at h

end UrlRewrite.Text
