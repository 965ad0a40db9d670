import Mathlib.Data.List.Infix
import UrlRewrite.Proofs.Text.Keyword
import UrlRewrite.Proofs.Text.Words

/-!
# The first line of a text

Behind the first line of a text there is nothing, or a line feed and the other lines
(`Text.IsBehindLine`). Whatever does not hold a line feed therefore ends in the line in which it
begins: runs of characters (`Text.IsBehindLine.stops`), keywords
(`Text.afterKeyword?_append_behind`) and other words (`Text.isPrefixOf?_append_behind`).
-/

namespace UrlRewrite

namespace Text

/-- The first line of a text, without its line feed. -/
def firstLine (s : Text) : Text := s.takeWhile (· != '\n')

/-- The lines behind the first one. -/
def behindFirstLine (s : Text) : Text := (s.dropWhile (· != '\n')).drop 1

/-- What stands behind a line: nothing, or a line feed and more. -/
def IsBehindLine (t : Text) : Prop := Stops (· != '\n') t

variable {t : Text}

theorem isBehindLine_feed (t : Text) : IsBehindLine ('\n' :: t) := .cons (by decide) t

/-- What is left at the first line feed is behind a line. -/
theorem isBehindLine_dropWhile (s : Text) : IsBehindLine (s.dropWhile (· != '\n')) :=
  stops_dropWhile _ s

theorem not_mem_firstLine (s : Text) : '\n' ∉ firstLine s := fun h => by
  simpa using List.mem_takeWhile_imp h

/-- A text is its first line and what is behind it. -/
theorem firstLine_append (s : Text) : firstLine s ++ s.dropWhile (· != '\n') = s :=
  List.takeWhile_append_dropWhile

theorem IsBehindLine.stops (ht : IsBehindLine t) {p : Char → Bool} (hp : p '\n' = false) :
    Stops p t := by
  intro c hc
  have hfeed : c = '\n' := by simpa using ht c hc
  rw [hfeed, hp]

theorem IsBehindLine.head?_ne (ht : IsBehindLine t) {c : Char} (hc : c ≠ '\n') :
    t.head? ≠ some c := by
  intro hhead
  exact hc (by simpa using ht c hhead)

/-- A word without line feeds does not go on in the next line. -/
theorem afterKeyword?_append_behind (ht : IsBehindLine t) {word : Text}
    (hword : word.Each (sameLetter '\n' · = false)) (s : Text) :
    afterKeyword? word (s ++ t) = (afterKeyword? word s).map (· ++ t) := by
  cases t with
  | nil => simp
  | cons c t =>
    obtain rfl : c = '\n' := by simpa using ht c rfl
    exact afterKeyword?_append_cons hword s t

/-- Nor does any other beginning without them. -/
theorem isPrefixOf?_append_behind (ht : IsBehindLine t) {word : Text}
    (hword : '\n' ∉ word) (s : Text) :
    List.isPrefixOf? word (s ++ t) = (List.isPrefixOf? word s).map (· ++ t) := by
  induction word generalizing s with
  | nil => rfl
  | cons c word ih =>
    obtain ⟨hc, hword⟩ : c ≠ '\n' ∧ '\n' ∉ word := by simpa [eq_comm] using hword
    cases s with
    | nil =>
      -- the word would go on behind the line, where there is a line feed, and it has none
      cases t with
      | nil => rfl
      | cons d t =>
        obtain rfl : d = '\n' := by simpa using ht d rfl
        simp [List.isPrefixOf?, hc]
    | cons d s =>
      simp only [List.cons_append, List.isPrefixOf?, ih hword]
      split <;> rfl

/-- Blanks apart, the other lines are what stands behind the first one. -/
theorem trimStart_behindFirstLine (s : Text) :
    trimStart (behindFirstLine s) = trimStart (s.dropWhile (· != '\n')) := by
  have hbehind := isBehindLine_dropWhile s
  rw [behindFirstLine]
  cases hrest : s.dropWhile (· != '\n') with
  | nil => rfl
  | cons c rest =>
    obtain rfl : c = '\n' := by simpa using hbehind c (by rw [hrest]; rfl)
    exact (List.dropWhile_cons_of_pos (by decide)).symm

/-- What follows a line feed is in the lines behind the first one. -/
theorem exists_behindFirstLine {front : Text} (hfront : '\n' ∈ front) (r : Text) :
    ∃ behind, behindFirstLine (front ++ r) = behind ++ r := by
  obtain ⟨line, behind, rfl, hline⟩ :
      ∃ line behind, front = line ++ '\n' :: behind ∧ '\n' ∉ line := by
    cases hsplit : splitFirst '\n' front with
    | none => exact absurd hfront (splitFirst_eq_none_iff.1 hsplit)
    | some parts => exact ⟨parts.1, parts.2, eq_append_of_splitFirst hsplit⟩
  have hfirst : (line ++ '\n' :: behind ++ r).dropWhile (· != '\n') = '\n' :: (behind ++ r) := by
    rw [List.append_assoc]
    exact dropWhile_append (fun d hd => bne_iff_ne.2 fun heq => hline (heq ▸ hd))
      (.cons (by decide) _)
  exact ⟨behind, by rw [behindFirstLine, hfirst, List.drop_one, List.tail_cons]⟩

/-- Text behind a line feed and a character that is not blank is shorter than the lines behind the
first one. -/
theorem length_lt_behindFirstLine {front r : Text} {c : Char} (hfront : '\n' ∈ front)
    (hc : isBlank c = false) :
    r.length < (trimStart (behindFirstLine (front ++ c :: r))).length := by
  obtain ⟨behind, hbehind⟩ := exists_behindFirstLine hfront (c :: r)
  have hstops : Stops isBlank (c :: r) := .cons hc r
  rw [hbehind, trimStart, dropWhile_append_right hstops, List.length_append, List.length_cons]
  omega

end Text

end UrlRewrite
