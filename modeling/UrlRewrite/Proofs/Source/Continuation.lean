import Mathlib.Data.List.Basic
import UrlRewrite.Proofs.Text.Words
import UrlRewrite.Source.Continuation

/-!
# Continued lines are joined

The lines of a text that can be joined fall into stretches: lines that are continued, as many as
there are, and the line that they go on in, which is not continued (`Source.Stretch`). There is one
line of the joined text for each of them. It is put together from the pieces of the stretch, of
which all but the first one lose the blanks in front of them (`Source.Stretch.joined`).

`Source.JoinsStretches` says so of a text, and that nothing is lost or doubled: the characters that
are not blank, the *ink* of a text (`Text.ink`), stay as they are and in their order, but for one
backslash of each continued line. It holds of all texts (`Source.joinContinued_stretches`).

The lines are read with a flag that says whether the last one was continued. The proofs first say
what a single line does to what is left (`Source.joinLines_of_continued`,
`Source.joinLines_of_not_continued`), and then read a stretch as a whole. It does not matter that
blanks are taken off the front of a line before its end is looked at: what they leave is continued
if the line was (`Source.isContinued_trimStart_iff`), and a line that is nothing but blanks and a
backslash has nothing to be lost.
-/

namespace UrlRewrite

/-! ### Ink -/

namespace Text

variable {s : Text}

/-- The **ink** of a text: its characters that are not blank. -/
def ink (s : Text) : Text := s.filter fun c => !isBlank c

@[simp] theorem ink_append (s t : Text) : ink (s ++ t) = ink s ++ ink t := List.filter_append ..

theorem ink_of_isBlank (h : ∀ c ∈ s, isBlank c = true) : ink s = [] := by
  simpa [ink] using h

@[simp] theorem ink_trimStart (s : Text) : ink (trimStart s) = ink s := by
  have hfront : ink (s.takeWhile isBlank) = [] :=
    ink_of_isBlank fun c hc => List.mem_takeWhile_imp hc
  calc ink (trimStart s)
      = ink (s.takeWhile isBlank ++ trimStart s) := by rw [ink_append, hfront, List.nil_append]
    _ = ink s := by rw [trimStart, List.takeWhile_append_dropWhile]

theorem ink_of_break {t rest : Text} (h : Break t rest) : ink t = ink rest := by
  cases h <;> rfl

/-- Line ends are blank, so that all ink is in the lines. -/
theorem ink_eq_flatMap_lines (s : Text) : ink s = (lines s).flatMap ink := by
  generalize hls : lines s = ls
  induction ls generalizing s with
  | nil =>
    rw [eq_nil_of_lines_eq_nil hls]
    rfl
  | cons l ls ih =>
    obtain ⟨t, rest, rfl, -, hbreak, hrest⟩ := exists_of_lines_eq_cons hls
    rw [ink_append, ink_of_break hbreak, ih rest hrest, List.flatMap_cons]

theorem count_ofLines {ls : List Text} (h : ∀ l ∈ ls, '\n' ∉ l) :
    (ofLines ls).count '\n' = ls.length := by
  induction ls with
  | nil => rfl
  | cons l ls ih =>
    obtain ⟨hl, hls⟩ := List.forall_mem_cons.1 h
    rw [ofLines_cons, List.count_append, List.count_cons_self, List.count_eq_zero_of_not_mem hl,
      ih hls, List.length_cons, Nat.zero_add]

end Text

namespace Source

/-! ### Continued lines -/

/-- A line is **continued** if it ends with a backslash, blanks behind it apart. -/
def IsContinued (line : Text) : Prop := (Text.trimEnd line).getLast? = some '\\'

instance : DecidablePred IsContinued := fun line =>
  inferInstanceAs (Decidable ((Text.trimEnd line).getLast? = some '\\'))

/-- A continued line without the blanks at its end and the backslash in front of them. -/
def unmarked (line : Text) : Text := (Text.trimEnd line).dropLast

/-- What is kept of a line: if it is continued, all but its mark. -/
def kept (line : Text) : Text := if IsContinued line then unmarked line else line

/-- The mark of a line: a backslash if it is continued. -/
def mark (line : Text) : Text := if IsContinued line then ['\\'] else []

variable {line : Text}

/-- A line with only blanks behind its last backslash is continued, and without the mark it is what
stands in front of the backslash. -/
theorem isContinued_append {pad : Text} (hpad : ∀ c ∈ pad, isBlank c = true) (front : Text) :
    IsContinued (front ++ '\\' :: pad) ∧ unmarked (front ++ '\\' :: pad) = front := by
  have htrim := Text.trimEnd_append_cons (c := '\\') (by decide) hpad front
  rw [IsContinued, unmarked, htrim]
  simp

/-- A continued line is what is kept of it, a backslash, and blanks. -/
theorem exists_of_isContinued (h : IsContinued line) :
    ∃ pad, line = unmarked line ++ '\\' :: pad ∧ ∀ c ∈ pad, isBlank c = true := by
  obtain ⟨pad, htext, hpad⟩ := Text.exists_trimEnd_append line
  obtain ⟨front, hfront⟩ := List.getLast?_eq_some_iff.1 h
  refine ⟨pad, ?_, hpad⟩
  rw [unmarked, hfront, List.dropLast_concat, List.append_cons, ← hfront]
  exact htext

theorem unmarked_subset (line : Text) : unmarked line ⊆ line := fun _ hc =>
  Text.trimEnd_subset line (List.dropLast_subset _ hc)

theorem kept_subset (line : Text) : kept line ⊆ line := by
  rw [kept]
  split
  · exact unmarked_subset line
  · exact List.Subset.refl line

/-- Blanks in front of a line have no say in whether it is continued. -/
theorem isContinued_trimStart_iff : IsContinued (Text.trimStart line) ↔ IsContinued line := by
  constructor
  · intro h
    obtain ⟨pad, htext, hpad⟩ := exists_of_isContinued h
    -- the blanks come in front of what is kept
    have hline :
        line = line.takeWhile isBlank ++ unmarked (Text.trimStart line) ++ '\\' :: pad := by
      rw [List.append_assoc, ← htext, Text.trimStart, List.takeWhile_append_dropWhile]
    rw [hline]
    exact (isContinued_append hpad _).1
  · intro h
    obtain ⟨pad, htext, hpad⟩ := exists_of_isContinued h
    -- the backslash is no blank, so that it is left with all that is behind it
    rw [htext, Text.trimStart, Text.dropWhile_append_right (.cons (by decide) pad)]
    exact (isContinued_append hpad _).1

/-- Whether the blanks in front or the mark are taken off first makes no difference. -/
theorem unmarked_trimStart (h : IsContinued line) :
    unmarked (Text.trimStart line) = Text.trimStart (unmarked line) := by
  obtain ⟨pad, htext, hpad⟩ := exists_of_isContinued h
  have htrim : Text.trimStart line = Text.trimStart (unmarked line) ++ '\\' :: pad :=
    (congrArg Text.trimStart htext).trans (Text.dropWhile_append_right (.cons (by decide) pad) _)
  rw [htrim, (isContinued_append hpad _).2]

/-- The ink of a line is that of what is kept and that of its mark. -/
theorem ink_eq_kept_mark (line : Text) : Text.ink line = Text.ink (kept line) ++ mark line := by
  by_cases h : IsContinued line
  · obtain ⟨pad, htext, hpad⟩ := exists_of_isContinued h
    have hmark : Text.ink ('\\' :: pad) = ['\\'] := by
      rw [← List.singleton_append, Text.ink_append, Text.ink_of_isBlank hpad]
      rfl
    rw [kept, mark, if_pos h, if_pos h, ← hmark, ← Text.ink_append, ← htext]
  · rw [kept, mark, if_neg h, if_neg h, List.append_nil]

/-! ### One line after the other -/

/-- A piece where it is put: behind another one without the blanks in front of it. -/
def placed (behind : Bool) (piece : Text) : Text := if behind then Text.trimStart piece else piece

/-- A continued line is followed by what is joined to it. -/
theorem joinLines_of_continued (h : IsContinued line) (behind : Bool) (lines : List Text) :
    joinLines behind (line :: lines) =
      (joinLines true lines).map (placed behind (unmarked line) ++ ·) := by
  have hhead : continuedHead? (placed behind line) = some (placed behind (unmarked line)) := by
    cases behind with
    | true =>
      exact (if_pos (isContinued_trimStart_iff.2 h)).trans (congrArg some (unmarked_trimStart h))
    | false => exact if_pos h
  rw [placed] at hhead
  simp only [joinLines, hhead]

/-- A line that is not continued ends what has been joined. -/
theorem joinLines_of_not_continued (h : ¬ IsContinued line) (behind : Bool) (lines : List Text) :
    joinLines behind (line :: lines) =
      (joinLines false lines).map (placed behind line ++ '\n' :: ·) := by
  have hhead : continuedHead? (placed behind line) = none := by
    cases behind with
    | true => exact if_neg fun hline => h (isContinued_trimStart_iff.1 hline)
    | false => exact if_neg h
  rw [placed] at hhead
  simp only [joinLines, hhead]
  rfl

/-! ### Stretches -/

/-- Pieces put together, all but the first one without the blanks in front of them. -/
def glue : List Text → Text
  | [] => []
  | first :: others => first ++ others.flatMap Text.trimStart

/-- No ink is lost, whatever the blanks between the pieces. -/
theorem ink_glue (pieces : List Text) : Text.ink (glue pieces) = pieces.flatMap Text.ink := by
  cases pieces with
  | nil => rfl
  | cons first others =>
    rw [glue, Text.ink_append, List.flatMap_cons, List.append_cancel_left_eq]
    induction others with
    | nil => rfl
    | cons piece others ih =>
      rw [List.flatMap_cons, Text.ink_append, Text.ink_trimStart, ih, List.flatMap_cons]

/-- Every character of glued pieces is one of a piece. -/
theorem exists_of_mem_glue {pieces : List Text} {c : Char} (h : c ∈ glue pieces) :
    ∃ piece ∈ pieces, c ∈ piece := by
  cases pieces with
  | nil => cases h
  | cons first others =>
    rcases List.mem_append.1 h with hfirst | hothers
    · exact ⟨first, List.mem_cons_self, hfirst⟩
    · obtain ⟨piece, hpiece, hc⟩ := List.mem_flatMap.1 hothers
      exact ⟨piece, List.mem_cons_of_mem _ hpiece, (Text.trimStart_suffix piece).subset hc⟩

/-- **A stretch of lines.** Lines that are continued, and the one that they go on in. -/
structure Stretch where
  run : List Text
  closing : Text
  run_continued : ∀ line ∈ run, IsContinued line
  closing_ends : ¬ IsContinued closing

namespace Stretch

variable (t : Stretch)

/-- The lines of the stretch. -/
def lines : List Text := t.run ++ [t.closing]

/-- What is kept of them. -/
def pieces : List Text := t.run.map unmarked ++ [t.closing]

/-- The line that the stretch comes to. -/
def joined : Text := glue t.pieces

/-- The pieces of a stretch are what is kept of its lines. -/
theorem pieces_eq_map_kept : t.pieces = t.lines.map kept := by
  have hrun : t.run.map unmarked = t.run.map kept :=
    List.map_congr_left fun line hline => (if_pos (t.run_continued line hline)).symm
  have hclosing : kept t.closing = t.closing := if_neg t.closing_ends
  rw [pieces, lines, List.map_append, ← hrun, List.map_singleton, hclosing]

/-- Behind a continued line, all pieces of a stretch lose the blanks in front of them. -/
theorem joinLines_behind {run : List Text} {closing : Text} (hrun : ∀ line ∈ run, IsContinued line)
    (hclosing : ¬ IsContinued closing) (rest : List Text) :
    joinLines true (run ++ closing :: rest) =
      (joinLines false rest).map
        ((run.map unmarked ++ [closing]).flatMap Text.trimStart ++ '\n' :: ·) := by
  -- each line of the run leaves the reader behind a continued line, as it has found it
  induction run with
  | nil =>
    rw [List.nil_append, joinLines_of_not_continued hclosing, List.map_nil, List.nil_append,
      List.flatMap_singleton]
    rfl
  | cons line run ih =>
    obtain ⟨hline, hrun⟩ := List.forall_mem_cons.1 hrun
    rw [List.cons_append, joinLines_of_continued hline, ih hrun]
    cases joinLines false rest with
    | error e => rfl
    | ok u => simp [Except.map, placed]

/-- A stretch comes to one line, and what follows it does not depend on it. -/
theorem joinLines_append (rest : List Text) :
    joinLines false (t.lines ++ rest) = (joinLines false rest).map (t.joined ++ '\n' :: ·) := by
  obtain ⟨run, closing, hrun, hclosing⟩ := t
  cases run with
  | nil =>
    simp only [lines, joined, pieces, List.nil_append, List.singleton_append, List.map_nil,
      joinLines_of_not_continued hclosing]
    simp [glue, placed]
  | cons line run =>
    obtain ⟨hline, hrun⟩ := List.forall_mem_cons.1 hrun
    simp only [lines, joined, pieces, List.cons_append, List.append_assoc, List.nil_append,
      List.map_cons, joinLines_of_continued hline, joinLines_behind hrun hclosing]
    cases joinLines false rest with
    | error e => rfl
    | ok u => simp [Except.map, placed, glue]

/-- The ink of a joined stretch is what is kept of its lines. -/
theorem ink_joined : Text.ink t.joined = t.lines.flatMap fun line => Text.ink (kept line) := by
  rw [joined, ink_glue, pieces_eq_map_kept, List.flatMap_map]

/-- There is no line feed in it if there is none in the lines. -/
theorem feed_not_mem_joined (h : ∀ line ∈ t.lines, '\n' ∉ line) : '\n' ∉ t.joined := by
  intro hfeed
  obtain ⟨piece, hpiece, hfeed⟩ := exists_of_mem_glue hfeed
  rw [pieces_eq_map_kept] at hpiece
  obtain ⟨line, hline, rfl⟩ := List.mem_map.1 hpiece
  exact h line hline (kept_subset line hfeed)

end Stretch

variable {ts : List Stretch} {tail : List Text}

/-- All lines fall into stretches, but for the continued ones at the end. -/
theorem exists_stretches (ls : List Text) :
    ∃ (ts : List Stretch) (tail : List Text),
      ls = ts.flatMap Stretch.lines ++ tail ∧ ∀ line ∈ tail, IsContinued line := by
  -- the lines are put in front one by one: a line that is continued belongs to what follows it
  induction ls with
  | nil => exact ⟨[], [], rfl, by simp⟩
  | cons line ls ih =>
    obtain ⟨ts, tail, rfl, htail⟩ := ih
    by_cases h : IsContinued line
    · cases ts with
      | nil => exact ⟨[], line :: tail, rfl, List.forall_mem_cons.2 ⟨h, htail⟩⟩
      | cons t ts =>
        -- the line goes on in the first stretch
        have hrun : ∀ l ∈ line :: t.run, IsContinued l :=
          List.forall_mem_cons.2 ⟨h, t.run_continued⟩
        exact ⟨⟨line :: t.run, t.closing, hrun, t.closing_ends⟩ :: ts, tail, rfl, htail⟩
    · exact ⟨⟨[], line, by simp, h⟩ :: ts, tail, rfl, htail⟩

/-- The last line is continued exactly if some lines at the end are in no stretch. -/
theorem isContinued_getLast?_iff (htail : ∀ line ∈ tail, IsContinued line) :
    (∃ line ∈ (ts.flatMap Stretch.lines ++ tail).getLast?, IsContinued line) ↔ tail ≠ [] := by
  constructor
  · rintro ⟨line, hlast, hline⟩ rfl
    rw [List.append_nil] at hlast
    rcases List.eq_nil_or_concat ts with rfl | ⟨ts, t, rfl⟩
    · cases hlast
    · obtain rfl : t.closing = line := by simpa [Stretch.lines] using hlast
      exact t.closing_ends hline
  · intro hne
    -- then the last line of all is the last one of these
    have hlast := List.getLast?_eq_some_getLast hne
    refine ⟨tail.getLast hne, ?_, htail _ (List.getLast_mem hne)⟩
    rw [List.getLast?_append, hlast]
    rfl

/-- Continued lines with no line behind them are an error. -/
theorem joinLines_tail (htail : ∀ line ∈ tail, IsContinued line) (hne : tail ≠ []) (behind : Bool) :
    joinLines behind tail = .error .danglingContinuation := by
  induction tail generalizing behind with
  | nil => exact absurd rfl hne
  | cons line tail ih =>
    obtain ⟨hline, htail⟩ := List.forall_mem_cons.1 htail
    rw [joinLines_of_continued hline]
    cases tail with
    | nil => rfl
    | cons next tail => rw [ih htail (by simp)]; rfl

/-- Stretches are joined one by one, and the lines behind them last. -/
theorem joinLines_stretches (ts : List Stretch) (tail : List Text) :
    joinLines false (ts.flatMap Stretch.lines ++ tail) =
      (joinLines false tail).map (Text.ofLines (ts.map Stretch.joined) ++ ·) := by
  induction ts with
  | nil =>
    rw [List.flatMap_nil, List.nil_append]
    cases joinLines false tail <;> rfl
  | cons t ts ih =>
    rw [List.flatMap_cons, List.append_assoc, t.joinLines_append, ih]
    cases joinLines false tail with
    | error e => rfl
    | ok u => simp [Except.map]

/-- The ink of joined stretches is what is kept of their lines. -/
theorem ink_stretches (ts : List Stretch) :
    Text.ink (Text.ofLines (ts.map Stretch.joined)) =
      (ts.flatMap Stretch.lines).flatMap fun line => Text.ink (kept line) := by
  induction ts with
  | nil => rfl
  | cons t ts ih =>
    have hfeed : ∀ u : Text, Text.ink ('\n' :: u) = Text.ink u := fun _ => rfl
    rw [List.map_cons, Text.ofLines_cons, Text.ink_append, hfeed, ih, t.ink_joined,
      List.flatMap_cons, List.flatMap_append]

/-- There are as many stretches as lines that are not continued. -/
theorem countP_not_continued (ts : List Stretch) :
    (ts.flatMap Stretch.lines).countP (fun line => ¬ IsContinued line) = ts.length := by
  induction ts with
  | nil => rfl
  | cons t ts ih =>
    have hrun : t.run.countP (fun line => ¬ IsContinued line) = 0 := by
      simpa [List.countP_eq_zero] using t.run_continued
    have hclosing : [t.closing].countP (fun line => ¬ IsContinued line) = 1 := by
      simpa using t.closing_ends
    rw [List.flatMap_cons, List.countP_append, ih, Stretch.lines, List.countP_append, hrun,
      hclosing, List.length_cons]
    omega

/-- **How a text is joined.** -/
structure JoinsStretches (s : Text) : Prop where
  /-- The lines cannot be joined exactly if the last one is continued. -/
  dangling_iff : joinContinued s = .error .danglingContinuation ↔
    ∃ line ∈ (Text.lines s).getLast?, IsContinued line
  /-- Else they fall into stretches, -/
  tiled : (¬ ∃ line ∈ (Text.lines s).getLast?, IsContinued line) →
    ∃ ts : List Stretch, Text.lines s = ts.flatMap Stretch.lines
  /-- each of which comes to one line. -/
  joined : ∀ ts : List Stretch, Text.lines s = ts.flatMap Stretch.lines →
    joinContinued s = .ok (Text.ofLines (ts.map Stretch.joined))
  /-- There is one line feed for every line that is not continued. -/
  feeds : ∀ u, joinContinued s = .ok u →
    u.count '\n' = (Text.lines s).countP fun line => ¬ IsContinued line
  /-- The ink of a text is that of what is kept of its lines, and the marks of the lines that are
  continued. -/
  ink : Text.ink s = (Text.lines s).flatMap fun line => Text.ink (kept line) ++ mark line
  /-- Of the joined text it is the same without the marks. -/
  ink_joined : ∀ u, joinContinued s = .ok u → Text.ink u = (Text.lines s).flatMap fun line =>
    Text.ink (kept line)

/-- A text that is a sequence of stretches is joined stretch by stretch. -/
theorem joinContinued_of_tiled {s : Text} (h : Text.lines s = ts.flatMap Stretch.lines) :
    joinContinued s = .ok (Text.ofLines (ts.map Stretch.joined)) := by
  have hjoin := joinLines_stretches ts []
  rw [List.append_nil] at hjoin
  rw [joinContinued, h, hjoin]
  simp [joinLines, Except.map]

/-- A text that is joined has nothing but stretches. -/
theorem exists_tiled_of_joined {s u : Text} (h : joinContinued s = .ok u) :
    ∃ ts : List Stretch,
      Text.lines s = ts.flatMap Stretch.lines ∧ u = Text.ofLines (ts.map Stretch.joined) := by
  obtain ⟨ts, tail, hlines, htail⟩ := exists_stretches (Text.lines s)
  -- with lines left over it would not have been joined
  by_cases hne : tail = []
  · rw [hne, List.append_nil] at hlines
    have hjoined := (joinContinued_of_tiled hlines).symm.trans h
    exact ⟨ts, hlines, (Except.ok.inj hjoined).symm⟩
  · rw [joinContinued, hlines, joinLines_stretches, joinLines_tail htail hne] at h
    cases h

/-- **Continued lines are joined**, in every text. -/
theorem joinContinued_stretches (s : Text) : JoinsStretches s where
  dangling_iff := by
    obtain ⟨ts, tail, hlines, htail⟩ := exists_stretches (Text.lines s)
    rw [hlines, isContinued_getLast?_iff htail, joinContinued, hlines, joinLines_stretches]
    -- what is left behind the stretches is continued beyond the end of the text, or there is
    -- nothing
    by_cases hne : tail = []
    · simp [hne, joinLines, Except.map]
    · rw [joinLines_tail htail hne]
      exact iff_of_true rfl hne
  tiled hlast := by
    obtain ⟨ts, tail, hlines, htail⟩ := exists_stretches (Text.lines s)
    rw [hlines, isContinued_getLast?_iff htail, not_not] at hlast
    exact ⟨ts, by rw [hlines, hlast, List.append_nil]⟩
  joined ts := joinContinued_of_tiled
  feeds u h := by
    obtain ⟨ts, hlines, rfl⟩ := exists_tiled_of_joined h
    rw [hlines, countP_not_continued, Text.count_ofLines, List.length_map]
    intro line hline
    obtain ⟨t, ht, rfl⟩ := List.mem_map.1 hline
    refine t.feed_not_mem_joined fun l hl => Text.not_mem_of_mem_lines (s := s) ?_
    rw [hlines]
    exact List.mem_flatMap.2 ⟨t, ht, hl⟩
  ink := by
    rw [Text.ink_eq_flatMap_lines]
    exact List.flatMap_congr fun line _ => ink_eq_kept_mark line
  ink_joined u h := by
    obtain ⟨ts, hlines, rfl⟩ := exists_tiled_of_joined h
    rw [hlines, ink_stretches]

/-- A stretch of three lines, the second of which is nothing but a mark. -/
example : joinContinued "a \\ \n\\\n  b\nc".toList = .ok "a b\nc\n".toList := by decide

end Source

end UrlRewrite
