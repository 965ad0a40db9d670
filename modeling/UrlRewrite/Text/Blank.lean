import UrlRewrite.Text.Basic

/-!
# Blanks and lines

A blank is a character with the `White_Space` property; trimming and splitting into words go by it.
A line ends at a line feed, or at a carriage return followed by one; the line end is not part of the
line, and a line feed at the very end of a text starts no further line.
-/

namespace UrlRewrite

/-- The characters with the property `White_Space`. -/
def isBlank (c : Char) : Bool :=
  let n := c.toNat
  (9 ≤ n && n ≤ 13) || n == 32 || n == 0x85 || n == 0xA0 || n == 0x1680 ||
    (0x2000 ≤ n && n ≤ 0x200A) || n == 0x2028 || n == 0x2029 || n == 0x202F || n == 0x205F ||
    n == 0x3000

/-- A space or a tab: what separates the fields of a line. -/
def isGap (c : Char) : Bool :=
  c == ' ' || c == '\t'

/-- Spaces and tabs are blank. -/
theorem isBlank_of_isGap {c : Char} (h : isGap c = true) : isBlank c = true := by
  simp only [isGap, Bool.or_eq_true, beq_iff_eq] at h
  rcases h with rfl | rfl <;> decide

/-- What is not blank is no gap. -/
theorem isGap_eq_false {c : Char} (h : isBlank c = false) : isGap c = false := by
  cases hgap : isGap c with
  | false => rfl
  | true =>
    rw [isBlank_of_isGap hgap] at h
    exact h

namespace Text

def trimStart (s : Text) : Text := s.dropWhile isBlank

theorem trimStart_suffix (s : Text) : trimStart s <:+ s := List.dropWhile_suffix isBlank

def trimEnd (s : Text) : Text := s.dropEndWhile isBlank

def trim (s : Text) : Text := trimEnd (trimStart s)

/-- The runs of characters that are not blank; `word` is the run being read, latest first. -/
def wordsFrom (word : Text) : Text → List Text
  | [] => if word.isEmpty then [] else [word.reverse]
  | c :: rest =>
    if isBlank c then
      if word.isEmpty then wordsFrom [] rest else word.reverse :: wordsFrom [] rest
    else wordsFrom (c :: word) rest

/-- The words of a text: its runs of characters that are not blank. -/
def words (s : Text) : List Text := wordsFrom [] s

/-- A line without the carriage return that ended it. -/
def dropReturn (s : Text) : Text :=
  match s.getLast? with
  | some '\r' => s.dropLast
  | _ => s

/-- The lines of a text. Each piece in front of a line feed is a line, without the carriage return
at its end; what stands behind the last line feed is a line if there is anything. -/
def lines (s : Text) : List Text :=
  let pieces := splitAll '\n' s
  pieces.dropLast.map dropReturn ++ pieces.getLast?.toList.filter (!·.isEmpty)

end Text

end UrlRewrite
