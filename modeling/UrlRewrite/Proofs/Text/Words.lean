import Mathlib.Data.List.Basic
import Mathlib.Data.List.TakeWhile
import UrlRewrite.Proofs.Text.Pieces

/-!
# Blanks at the ends, and between words

Trimming takes the blanks off both ends of a text. What is left has none there
(`Text.trimmed_trim`), and a text that has none is left as it is (`Text.Trimmed.trim_eq`).

The words of a text are those that have been put together with blanks between them
(`Text.words_append`).
-/

namespace UrlRewrite.Text

theorem ne_of_isBlank_eq_false {c d : Char} (hc : isBlank c = false) (hd : isBlank d = true) :
    c ≠ d := by
  rintro rfl
  rw [hc] at hd
  cases hd

/-! ### Blanks at the ends -/

/-- The text neither begins nor ends with a blank. -/
structure Trimmed (s : Text) : Prop where
  front : Stops isBlank s
  back : Stops isBlank s.reverse

/-- What is left when characters of a set are dropped stops the set. -/
theorem stops_dropWhile (p : Char → Bool) (s : Text) : Stops p (s.dropWhile p) := by
  intro c hc
  have hhead := List.head?_dropWhile_not p s
  rw [Option.mem_def.1 hc] at hhead
  simpa using hhead

/-- What is left of a text does not begin otherwise. -/
theorem Stops.of_front {p : Char → Bool} {s t : Text} (hs : Stops p s) (h : t <+: s) :
    Stops p t := by
  obtain ⟨rest, rfl⟩ := h
  cases t with
  | nil => exact .nil
  | cons c t => exact .cons (hs c rfl) t

theorem trimEnd_front (s : Text) : trimEnd s <+: s := by
  have hsuffix := List.reverse_prefix.2 (List.dropWhile_suffix (l := s.reverse) isBlank)
  rwa [List.reverse_reverse] at hsuffix

theorem trimEnd_subset (s : Text) : trimEnd s ⊆ s := fun _ hc => (trimEnd_front s).subset hc

/-- What is trimmed off the end of a text is blank. -/
theorem exists_trimEnd_append (s : Text) :
    ∃ pad, s = trimEnd s ++ pad ∧ ∀ c ∈ pad, isBlank c = true := by
  refine ⟨(s.reverse.takeWhile isBlank).reverse, ?_, fun c hc => ?_⟩
  · rw [trimEnd, dropEndWhile, ← List.reverse_append, List.takeWhile_append_dropWhile,
      List.reverse_reverse]
  · exact List.mem_takeWhile_imp (List.mem_reverse.1 hc)

/-- Blanks behind a text are trimmed. -/
theorem trimEnd_append_of_isBlank {pad : Text} (h : ∀ c ∈ pad, isBlank c = true) (s : Text) :
    trimEnd (s ++ pad) = trimEnd s := by
  have hback : ∀ c ∈ pad.reverse, isBlank c = true := fun c hc => h c (List.mem_reverse.1 hc)
  rw [trimEnd, trimEnd, dropEndWhile, dropEndWhile, List.reverse_append,
    List.dropWhile_append_of_pos hback]

/-- The blanks behind the last character that is not blank are trimmed. -/
theorem trimEnd_append_cons {c : Char} (hc : isBlank c = false) {pad : Text}
    (h : ∀ d ∈ pad, isBlank d = true) (s : Text) : trimEnd (s ++ c :: pad) = s ++ [c] := by
  rw [List.append_cons, trimEnd_append_of_isBlank h]
  simp [trimEnd, dropEndWhile, hc]

/-- A trimmed text has no blanks at its ends. -/
theorem trimmed_trim (s : Text) : Trimmed (trim s) where
  front := (stops_dropWhile isBlank s).of_front (trimEnd_front _)
  back := by
    rw [trim, trimEnd, dropEndWhile, List.reverse_reverse]
    exact stops_dropWhile isBlank _

/-- There is nothing to trim if there are no blanks at the ends. -/
theorem Trimmed.trim_eq {s : Text} (h : Trimmed s) : trim s = s := by
  rw [trim, trimStart, h.front.dropWhile, trimEnd, dropEndWhile, h.back.dropWhile,
    List.reverse_reverse]

theorem Trimmed.isBlank_getLast? {s : Text} (h : Trimmed s) :
    ∀ c ∈ s.getLast?, isBlank c = false := by
  rw [← List.head?_reverse]
  exact h.back

theorem trim_subset (s : Text) : trim s ⊆ s := fun _ hc =>
  (trimStart_suffix s).subset ((trimEnd_front _).subset hc)

theorem trim_cons_of_isBlank {c : Char} (hc : isBlank c = true) (s : Text) :
    trim (c :: s) = trim s := by
  rw [trim, trim, trimStart, trimStart, List.dropWhile_cons_of_pos hc]

/-- A text with a character that is not blank is not trimmed to nothing. -/
theorem trim_ne_nil {c : Char} {s : Text} (hmem : c ∈ s) (hc : isBlank c = false) :
    trim s ≠ [] := by
  intro h
  have hend : (trimStart s).reverse.dropWhile isBlank = [] := by
    simpa [trim, trimEnd, dropEndWhile] using h
  have hblank : ∀ d ∈ trimStart s, isBlank d = true := by simpa using hend
  -- what is taken off the front is blank as well
  rw [← List.takeWhile_append_dropWhile (p := isBlank) (l := s)] at hmem
  rcases List.mem_append.1 hmem with hfront | hrest
  · rw [List.mem_takeWhile_imp hfront] at hc
    cases hc
  · rw [hblank c hrest] at hc
    cases hc

/-! The carriage return at the end of a line is a blank there. -/

/-- The carriage return at the end of a text is that of its last part. -/
theorem dropReturn_append {t : Text} (hne : t ≠ []) (s : Text) :
    dropReturn (s ++ t) = s ++ dropReturn t := by
  rw [dropReturn, dropReturn, List.getLast?_append_of_ne_nil s hne]
  split
  · rw [List.dropLast_append_of_ne_nil hne]
  · rfl

/-- What is dropped at the end of a line is blank. -/
theorem exists_dropReturn_pad (s : Text) :
    ∃ pad, s = dropReturn s ++ pad ∧ ∀ c ∈ pad, isBlank c = true := by
  rw [dropReturn]
  split
  · rename_i hlast
    obtain ⟨front, rfl⟩ := List.getLast?_eq_some_iff.1 hlast
    exact ⟨['\r'], by rw [List.dropLast_concat], List.forall_mem_singleton.2 rfl⟩
  · exact ⟨[], (List.append_nil s).symm, by simp⟩

theorem trimEnd_dropReturn (s : Text) : trimEnd (dropReturn s) = trimEnd s := by
  obtain ⟨pad, heq, hpad⟩ := exists_dropReturn_pad s
  calc trimEnd (dropReturn s)
      = trimEnd (dropReturn s ++ pad) := (trimEnd_append_of_isBlank hpad _).symm
    _ = trimEnd s := by rw [← heq]

/-- Trimming the start and dropping a carriage return can be done in either order. -/
theorem trimStart_dropReturn (s : Text) : trimStart (dropReturn s) = dropReturn (trimStart s) := by
  by_cases hne : trimStart s = []
  · -- all is blank, with or without the carriage return
    have hblank : ∀ c ∈ s, isBlank c = true := List.dropWhile_eq_nil_iff.1 hne
    rw [hne]
    exact List.dropWhile_eq_nil_iff.2 fun c hc => hblank c (dropReturn_subset s hc)
  · have hsplit : s = s.takeWhile isBlank ++ trimStart s := by
      rw [trimStart, List.takeWhile_append_dropWhile]
    have hfront : ∀ c ∈ s.takeWhile isBlank, isBlank c = true :=
      fun c hc => List.mem_takeWhile_imp hc
    have hkept : Stops isBlank (dropReturn (trimStart s)) := by
      obtain ⟨pad, heq, -⟩ := exists_dropReturn_pad (trimStart s)
      exact (stops_dropWhile isBlank s).of_front ⟨pad, heq.symm⟩
    calc trimStart (dropReturn s)
        = trimStart (s.takeWhile isBlank ++ dropReturn (trimStart s)) := by
          rw [← dropReturn_append hne, ← hsplit]
      _ = dropReturn (trimStart s) := dropWhile_append hfront hkept

/-! ### Words -/

/-- A word is made of characters that are not blank, of one at least. -/
structure IsWord (s : Text) : Prop where
  ne_nil : s ≠ []
  not_blank : ∀ c ∈ s, isBlank c = false

namespace IsWord

variable {s : Text}

/-- Whether a text is a word can be computed. -/
theorem of_all (hne : s.isEmpty = false) (h : (s.all fun c => !isBlank c) = true) : IsWord s where
  ne_nil := List.isEmpty_eq_false_iff.1 hne
  not_blank := by simpa using h

theorem not_mem (h : IsWord s) {c : Char} (hc : isBlank c = true) : c ∉ s := by
  intro hmem
  rw [h.not_blank c hmem] at hc
  cases hc

theorem exists_not_blank (h : IsWord s) : ∃ c ∈ s, isBlank c = false := by
  obtain ⟨c, s, rfl⟩ := List.exists_cons_of_ne_nil h.ne_nil
  exact ⟨c, List.mem_cons_self, h.not_blank c List.mem_cons_self⟩

end IsWord

/-- What is read from a text, behind a part of a word, are words. -/
theorem isWord_of_mem_wordsFrom {word s w : Text} (hword : ∀ c ∈ word, isBlank c = false)
    (h : w ∈ wordsFrom word s) : IsWord w := by
  have hread : word.isEmpty = false → IsWord word.reverse := fun hne =>
    ⟨by simpa using hne, fun c hc => hword c (List.mem_reverse.1 hc)⟩
  -- the invariant is that the part of a word that has been read has no blanks
  induction s generalizing word with
  | nil =>
    rw [wordsFrom] at h
    split at h
    · cases h
    · rename_i hne
      rw [List.mem_singleton.1 h]
      exact hread (Bool.not_eq_true _ ▸ hne)
  | cons c s ih =>
    rw [wordsFrom] at h
    split at h
    · split at h
      · exact ih (by simp) h (by simp)
      · rename_i hne
        rcases List.mem_cons.1 h with rfl | h
        · exact hread (Bool.not_eq_true _ ▸ hne)
        · exact ih (by simp) h (by simp)
    · rename_i hc
      have hword' : ∀ d ∈ c :: word, isBlank d = false :=
        List.forall_mem_cons.2 ⟨Bool.not_eq_true _ ▸ hc, hword⟩
      exact ih hword' h fun _ => ⟨by simp, fun d hd => hword' d (List.mem_reverse.1 hd)⟩

theorem isWord_of_mem_words {s w : Text} (h : w ∈ words s) : IsWord w :=
  isWord_of_mem_wordsFrom (by simp) h

/-- The characters of a word are read one after the other. -/
theorem wordsFrom_append {run : Text} (hrun : ∀ c ∈ run, isBlank c = false) (word s : Text) :
    wordsFrom word (run ++ s) = wordsFrom (run.reverse ++ word) s := by
  induction run generalizing word with
  | nil => rfl
  | cons c run ih =>
    obtain ⟨hc, hrun⟩ := List.forall_mem_cons.1 hrun
    simp [wordsFrom, hc, ih hrun]

/-- A word is the only one of its words. -/
theorem words_eq_singleton {w : Text} (hw : IsWord w) : words w = [w] := by
  have hread := wordsFrom_append hw.not_blank [] []
  rw [List.append_nil, List.append_nil] at hread
  rw [words, hread]
  simp [wordsFrom, hw.ne_nil]

/-- The first word ends at the first blank behind it. -/
theorem words_append {w : Text} (hw : IsWord w) {c : Char} (hc : isBlank c = true) (s : Text) :
    words (w ++ c :: s) = w :: words s := by
  rw [words, wordsFrom_append hw.not_blank]
  simp [wordsFrom, hc, hw.ne_nil, words]

end UrlRewrite.Text
