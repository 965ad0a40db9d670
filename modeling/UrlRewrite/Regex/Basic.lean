import UrlRewrite.Regex.Reader
import UrlRewrite.Regex.Meaning
import UrlRewrite.Regex.Size
import UrlRewrite.Regex.Search

/-!
# Compiled regular expressions

A regular expression is compiled twice, for texts whose case counts and for texts whose case does
not. It is refused if it cannot be read or has no meaning, and if one of its programs would be too
large.

Two regular expressions are the same if they are written the same (`Regex.ext_source`): the programs
follow from the source.
-/

namespace UrlRewrite

/-- Why a text is no regular expression. -/
inductive RegexError where
  | unreadable
  | tooLarge
deriving DecidableEq, Repr

namespace RegexError

def message : RegexError → String
  | unreadable => "error parsing pattern 0"
  | tooLarge => "error building NFA"

end RegexError

namespace Regex

/-- The program for a written expression, with or without regard to case. -/
def program (source : Text) (ignoreCase : Bool) : Except RegexError Program :=
  match Tree.read? source with
  | none => .error .unreadable
  | some tree =>
    match tree.meaning ignoreCase with
    | none => .error .unreadable
    | some e => if e.fits then .ok (Program.ofExpr e) else .error .tooLarge

end Regex

/-- A regular expression with its two programs. -/
structure Regex where
  source : Text
  exactly : Regex.Program
  anyCase : Regex.Program
  exactly_eq : Regex.program source false = .ok exactly
  anyCase_eq : Regex.program source true = .ok anyCase

namespace Regex

/-- Compiles a written expression. -/
def read (source : Text) : Except RegexError Regex :=
  match he : program source false with
  | .error e => .error e
  | .ok exactly =>
    match ha : program source true with
    | .error e => .error e
    | .ok anyCase => .ok ⟨source, exactly, anyCase, he, ha⟩

/-- The preferred match at the beginning of a text: what it matches, and the texts of its groups. -/
def match? (r : Regex) (ignoreCase : Bool) (s : Text) : Option (Text × List (Option Text)) :=
  (if ignoreCase then r.anyCase else r.exactly).match? s

/-- A regular expression is determined by its source. -/
theorem ext_source {a b : Regex} (h : a.source = b.source) : a = b := by
  obtain ⟨source, exactly, anyCase, he, ha⟩ := a
  obtain ⟨source', exactly', anyCase', he', ha'⟩ := b
  obtain rfl : source = source' := h
  obtain rfl : exactly = exactly' := by simpa [he'] using he.symm
  obtain rfl : anyCase = anyCase' := by simpa [ha'] using ha.symm
  rfl

instance : DecidableEq Regex := fun a b =>
  decidable_of_iff (a.source = b.source) ⟨ext_source, fun h => by rw [h]⟩

/-- A regular expression keeps the source that it is read from. -/
theorem source_of_read {source : Text} {r : Regex} (h : read source = .ok r) :
    r.source = source := by
  unfold read at h
  split at h
  · simp at h
  · split at h
    · simp at h
    · simp only [Except.ok.injEq] at h
      rw [← h]

end Regex

end UrlRewrite
