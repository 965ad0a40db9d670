import UrlRewrite.Template.Token

/-!
# Templates

A template is read once, as a list of pieces, and then rendered any number of times. It keeps the
text it was written as, which is how it is shown; two templates that are written the same are the
same (`Template.ext_source`).
-/

namespace UrlRewrite

/-- Why a text is no template. -/
inductive TemplateError where
  | unknownVariable (name : Text)
  | invalidEntry (written : Text)
deriving DecidableEq, Repr

namespace TemplateError

def message : TemplateError → String
  | unknownVariable name =>
    "Unknown server variable %\x7b" ++ String.ofList name ++ "\x7d"
  | invalidEntry written =>
    "Invalid map expansion $\x7b" ++ String.ofList written ++ "\x7d"

end TemplateError

namespace Piece

/-- The pieces of a text in at most `n` steps. Each step takes off one character at least, and the
key and the default of an entry are shorter than the text, so as many steps as there are characters
are enough. -/
def readAll : Nat → Text → Except TemplateError (List Piece)
  | _, [] => .ok []
  | 0, _ => .ok []
  | n + 1, c :: s => do
    let (token, rest) := Token.first c s
    -- the parts of an entry are templates of their own, and the key is read before the default
    let piece ← match token with
      | .literal d => .ok (.literal d)
      | .group kind index => .ok (.group kind index)
      | .foreignDigit => .error (.unknownVariable [])
      | .entry table key default => do
        let key ← readAll n key
        match default with
        | none => .ok (.entry table key none)
        | some d => do
          let d ← readAll n d
          .ok (.entry table key (some d))
      | .brokenEntry written => .error (.invalidEntry written)
      | .server name =>
        match ServerVariable.read? name with
        | some v => .ok (.server v)
        | none => .error (.unknownVariable name)
      | .env name => .ok (.env name)
    let pieces ← readAll n rest
    .ok (piece :: pieces)

end Piece

/-- A text with references, and its pieces. -/
structure Template where
  source : Text
  pieces : List Piece
  pieces_eq : Piece.readAll source.length source = .ok pieces

namespace Template

/-- Reads a text as a template. -/
def read (s : Text) : Except TemplateError Template :=
  match h : Piece.readAll s.length s with
  | .ok pieces => .ok ⟨s, pieces, h⟩
  | .error e => .error e

/-- The text of a template under bindings; with `escape`, values of groups are escaped. -/
def render (t : Template) (b : Bindings) (escape : Bool) : Text :=
  Piece.renderAll b escape t.pieces

/-- A template is determined by its source. -/
theorem ext_source {s t : Template} (h : s.source = t.source) : s = t := by
  obtain ⟨source, pieces, hs⟩ := s
  obtain ⟨source', pieces', ht⟩ := t
  obtain rfl : source = source' := h
  obtain rfl : pieces = pieces' := by simpa [ht] using hs.symm
  rfl

instance : DecidableEq Template := fun s t =>
  decidable_of_iff (s.source = t.source) ⟨ext_source, fun h => by rw [h]⟩

/-- A template keeps the source that it is read from. -/
theorem source_of_read {s : Text} {t : Template} (h : read s = .ok t) : t.source = s := by
  unfold read at h
  split at h
  · simp only [Except.ok.injEq] at h
    rw [← h]
  · simp at h

end Template

end UrlRewrite
